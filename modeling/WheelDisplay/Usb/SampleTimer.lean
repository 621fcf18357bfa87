import WheelDisplay.Lib.StepRun
import WheelDisplay.Usb.Standard

/-! # The sample timer

`TIMER0_COMPA_vect` interrupts the main loop between any two accesses to the endpoint
registers. It uses the same selection register, writes one sample to the streaming
endpoint and selects again what was selected before it.
-/

namespace WheelDisplay.Usb

open Audio

/-- One access of the main loop, or a packet that the controller receives. -/
inductive Access where
  | receive (r : Request)
  | select (number : Byte)
  | note (op : Op)
  | clearSETUP
  | wait (env : Environment) (op : Op)
  | stall
  | clearStall
  | configure (number : Byte)

def Access.perform (e : Endpoints) : Access → Endpoints
  | .receive r => { e with setup := some r, stalled := fun n => if n = 0 then false else e.stalled n }
  | .select number => e.selectEndpoint number
  | .note op => e.note op
  | .clearSETUP => e.clearSETUP
  | .wait env op => e.wait env op
  | .stall => e.stallTransaction
  | .clearStall => e.clearStall
  | .configure number => e.configureEndpoint number

def dataINEndpointSize : Nat := 64

structure Fifo where
  bank : List Byte
  sent : List (List Byte)

def sampleBytes (sample : Word) : List Byte := [sample.setWidth 8, (sample >>> 8).setWidth 8]

/-- A reset of the endpoint empties its bank, and so does a configuration, which takes down the endpoints that
come after the configured one and sets them up again. -/
def flushesStream : Byte × Op → Bool
  | (endpoint, .reset) => endpoint == dataINEndpointNumber
  | (endpoint, .configure) => endpoint ≤ dataINEndpointNumber
  | _ => false

/-- The other writes are those of control transfers and reports. -/
def Fifo.take (q : Fifo) : Op → Fifo
  | .write8 value => { q with bank := q.bank ++ [value] }
  | .write16 value => { q with bank := q.bank ++ sampleBytes value }
  | .clearIN => ⟨[], q.sent ++ [q.bank]⟩
  | _ => q

/-- What the accesses so far have left in the streaming endpoint. -/
def streamFifo : List (Byte × Op) → Fifo
  | [] => ⟨[], []⟩
  | entry :: earlier =>
    if flushesStream entry then { streamFifo earlier with bank := [] }
    else if entry.1 = dataINEndpointNumber then (streamFifo earlier).take entry.2
    else streamFifo earlier

/-- What the interrupt finds; `ready` is the TXINI flag of the streaming endpoint. -/
structure Tick where
  deviceState : DeviceState
  interfaceEnabled : Bool
  ready : Bool
  audioSample : Word

def audioDeviceIsReadyForNextSample (t : Tick) (e : Endpoints) : Bool × Endpoints :=
  if t.deviceState ≠ .configured ∨ t.interfaceEnabled = false then (false, e)
  else (t.ready, e.selectEndpoint dataINEndpointNumber)

def audioDeviceWriteSample16 (sample : Word) (e : Endpoints) : Endpoints :=
  let e := e.note (.write16 sample)
  if (streamFifo e.log).bank.length = dataINEndpointSize then e.clearIN else e

def timer0CompA (t : Tick) (e : Endpoints) : Endpoints :=
  let prevEndpoint := e.selected
  let (ready, e) := audioDeviceIsReadyForNextSample t e
  let e := if ready then audioDeviceWriteSample16 t.audioSample e else e
  e.selectEndpoint prevEndpoint

/-- The sample that the interrupt writes, if it writes one. -/
def Tick.accepted (t : Tick) : Option Word :=
  if t.deviceState = .configured ∧ t.interfaceEnabled = true ∧ t.ready = true then some t.audioSample else none

theorem timer0CompA_eq (t : Tick) (e : Endpoints) :
    timer0CompA t e = t.accepted.elim e fun sample =>
      (audioDeviceWriteSample16 sample (e.selectEndpoint dataINEndpointNumber)).selectEndpoint e.selected := by
  obtain ⟨deviceState, interfaceEnabled, ready, sample⟩ := t
  rw [timer0CompA, audioDeviceIsReadyForNextSample, Tick.accepted]
  obtain rfl | hState := eq_or_ne deviceState .configured
  · cases interfaceEnabled <;> cases ready <;> simp [Endpoints.selectEndpoint]
  · simp [hState, Endpoints.selectEndpoint]

inductive Moment where
  | access (a : Access)
  | tick (t : Tick)

def Moment.step (e : Endpoints) : Moment → Endpoints
  | .access a => a.perform e
  | .tick t => timer0CompA t e

def Moment.access? : Moment → Option Access
  | .access a => some a
  | .tick _ => none

/-- The entries of the log that are not those of the interrupt. -/
def mainEntry : Byte × Op → Bool
  | (endpoint, .write16 _) => endpoint != dataINEndpointNumber
  | (endpoint, .clearIN) => endpoint != dataINEndpointNumber
  | _ => true

structure Same (e e' : Endpoints) : Prop where
  selected : e.selected = e'.selected
  setup : e.setup = e'.setup
  enabled : e.enabled = e'.enabled
  stalled : e.stalled = e'.stalled
  log : e.log.filter mainEntry = e'.log.filter mainEntry

theorem Same.refl (e : Endpoints) : Same e e := ⟨rfl, rfl, rfl, rfl, rfl⟩

theorem Same.note {e e' : Endpoints} (h : Same e e') (op : Op) : Same (e.note op) (e'.note op) where
  selected := h.selected
  setup := h.setup
  enabled := h.enabled
  stalled := h.stalled
  log := by
    rw [Endpoints.note, Endpoints.note, List.filter_cons, List.filter_cons, h.selected, h.log]

theorem Same.perform {e e' : Endpoints} (h : Same e e') (a : Access) : Same (a.perform e) (a.perform e') := by
  cases a with
  | receive r => exact ⟨h.selected, rfl, h.enabled, by rw [Access.perform, Access.perform, h.stalled], h.log⟩
  | select number => exact ⟨rfl, h.setup, h.enabled, h.stalled, h.log⟩
  | note op => exact h.note op
  | clearSETUP =>
    have hNote := h.note .clearSETUP
    refine ⟨hNote.selected, ?_, hNote.enabled, hNote.stalled, hNote.log⟩
    rw [Access.perform, Access.perform, Endpoints.clearSETUP, Endpoints.clearSETUP, h.selected, h.setup]
  | wait env op =>
    have hNote := h.note op
    refine ⟨hNote.selected, ?_, hNote.enabled, hNote.stalled, hNote.log⟩
    rw [Access.perform, Access.perform, Endpoints.wait, Endpoints.wait, h.setup]
  | stall =>
    have hNote := h.note .stall
    refine ⟨hNote.selected, hNote.setup, hNote.enabled, ?_, hNote.log⟩
    rw [Access.perform, Access.perform, Endpoints.stallTransaction, Endpoints.stallTransaction, h.selected, h.stalled]
  | clearStall =>
    have hNote := h.note .clearStall
    refine ⟨hNote.selected, hNote.setup, hNote.enabled, ?_, hNote.log⟩
    rw [Access.perform, Access.perform, Endpoints.clearStall, Endpoints.clearStall, h.selected, h.stalled]
  | configure number =>
    have hSelect : Same (e.selectEndpoint number) (e'.selectEndpoint number) :=
      ⟨rfl, h.setup, h.enabled, h.stalled, h.log⟩
    have hNote := hSelect.note .configure
    refine ⟨hNote.selected, hNote.setup, ?_, hNote.stalled, hNote.log⟩
    rw [Access.perform, Access.perform, Endpoints.configureEndpoint, Endpoints.configureEndpoint]
    dsimp only [Endpoints.note, Endpoints.selectEndpoint]
    rw [h.enabled]

theorem writeSample16_same (sample : Word) {e : Endpoints} (hSelected : e.selected = dataINEndpointNumber) :
    Same (audioDeviceWriteSample16 sample e) e := by
  have hWrite : Same (e.note (.write16 sample)) e := by
    refine ⟨rfl, rfl, rfl, rfl, ?_⟩
    rw [Endpoints.note, List.filter_cons, hSelected]
    rfl
  rw [audioDeviceWriteSample16]
  split
  · refine ⟨rfl, rfl, rfl, rfl, ?_⟩
    rw [← hWrite.log, Endpoints.clearIN, Endpoints.note, List.filter_cons]
    have hEntry : mainEntry ((e.note (.write16 sample)).selected, .clearIN) = false := by
      rw [Endpoints.note, hSelected]
      rfl
    rw [hEntry]
    rfl
  · exact hWrite

theorem timer0CompA_same (t : Tick) (e : Endpoints) : Same (timer0CompA t e) e := by
  rw [timer0CompA_eq]
  cases t.accepted with
  | none => exact Same.refl e
  | some sample =>
    obtain ⟨-, hSetup, hEnabled, hStalled, hLog⟩ :=
      writeSample16_same sample (e := e.selectEndpoint dataINEndpointNumber) rfl
    exact ⟨rfl, hSetup, hEnabled, hStalled, hLog⟩

theorem Same.trans {e e' e'' : Endpoints} (h : Same e e') (h' : Same e' e'') : Same e e'' :=
  ⟨h.selected.trans h'.selected, h.setup.trans h'.setup, h.enabled.trans h'.enabled, h.stalled.trans h'.stalled,
    h.log.trans h'.log⟩

theorem run_same (moments : List Moment) {e e' : Endpoints} (h : Same e e') :
    Same (StepRun.run Moment.step e moments) (StepRun.run Access.perform e' (moments.filterMap Moment.access?)) := by
  induction moments generalizing e e' with
  | nil => exact h
  | cons m rest ih =>
    cases m with
    | access a => exact ih (h.perform a)
    | tick t => exact ih ((timer0CompA_same t e).trans h)

/-- The operation writes to the bank of the selected endpoint, or sends it. -/
def Op.writesBank : Op → Bool
  | .clearIN => true
  | .write8 _ => true
  | .write16 _ => true
  | .writeStream .. => true
  | .writeReport _ => true
  | _ => false

def Spares (e : Endpoints) : Access → Prop
  | .note op => e.selected ≠ dataINEndpointNumber ∨ op.writesBank = false
  | .wait _ op => op.writesBank = false ∧ ∀ endpoint, flushesStream (endpoint, op) = false
  | _ => True

/-- Accesses that write nothing to the streaming endpoint lead from `e` to `e'`. -/
def Reaches (e e' : Endpoints) : Prop :=
  ∃ accesses, StepRun.run Access.perform e accesses = e' ∧ StepRun.Along Access.perform Spares e accesses

namespace Reaches

variable {e e' e'' : Endpoints}

theorem refl (e : Endpoints) : Reaches e e := ⟨[], rfl, trivial⟩

theorem trans (h : Reaches e e') (h' : Reaches e' e'') : Reaches e e'' := by
  obtain ⟨first, rfl, hFirst⟩ := h
  obtain ⟨second, rfl, hSecond⟩ := h'
  exact ⟨first ++ second, StepRun.run_append .., (StepRun.along_append ..).mpr ⟨hFirst, hSecond⟩⟩

theorem access (h : Reaches e e') (a : Access) (hSpares : Spares e' a) : Reaches e (a.perform e') :=
  h.trans ⟨[a], rfl, hSpares, trivial⟩

theorem select (h : Reaches e e') (number : Byte) : Reaches e (e'.selectEndpoint number) :=
  h.access (.select number) trivial

theorem receive (h : Reaches e e') (r : Request) :
    Reaches e { e' with setup := some r, stalled := fun n => if n = 0 then false else e'.stalled n } :=
  h.access (.receive r) trivial

theorem clearSETUP (h : Reaches e e') : Reaches e e'.clearSETUP := h.access .clearSETUP trivial

theorem configure (h : Reaches e e') (number : Byte) : Reaches e (e'.configureEndpoint number) :=
  h.access (.configure number) trivial

theorem stall (h : Reaches e e') : Reaches e e'.stallTransaction := h.access .stall trivial

theorem clearStall (h : Reaches e e') : Reaches e e'.clearStall := h.access .clearStall trivial

theorem quiet (h : Reaches e e') {op : Op} (hOp : op.writesBank = false) : Reaches e (e'.note op) :=
  h.access (.note op) (.inr hOp)

theorem wait (h : Reaches e e') (env : Environment) {op : Op}
    (hOp : op.writesBank = false ∧ ∀ endpoint, flushesStream (endpoint, op) = false) :
    Reaches e (e'.wait env op) :=
  h.access (.wait env op) hOp

theorem note (h : Reaches e e') (hSelected : e'.selected ≠ dataINEndpointNumber) (op : Op) : Reaches e (e'.note op) :=
  h.access (.note op) (.inl hSelected)

theorem statusStage (h : Reaches e e') (hSelected : e'.selected ≠ dataINEndpointNumber) (env : Environment)
    (r : Request) : Reaches e (e'.clearStatusStage env r) := by
  rw [Endpoints.clearStatusStage]
  split
  · dsimp only
    split
    · exact h.wait env ⟨rfl, fun _ => rfl⟩
    · exact (h.wait env ⟨rfl, fun _ => rfl⟩).quiet rfl
  · dsimp only
    split
    · exact h.wait env ⟨rfl, fun _ => rfl⟩
    · exact (h.wait env ⟨rfl, fun _ => rfl⟩).note hSelected .clearIN

theorem writeStream (h : Reaches e e') (hSelected : e'.selected ≠ dataINEndpointNumber) (env : Environment)
    (buffer : Buffer) (stream : List Byte) (wLength : Word) :
    Reaches e (e'.writeControlStream env buffer stream wLength) :=
  (h.wait env ⟨rfl, fun _ => rfl⟩).note hSelected (.writeStream buffer (env.sent stream wLength))

theorem branch {e : Endpoints} {p : Prop} [Decidable p] {d d' : Device} (hThen : Reaches e d.endpoints)
    (hElse : Reaches e d'.endpoints) : Reaches e (if p then d else d').endpoints := by
  split
  · exact hThen
  · exact hElse

theorem readStream (h : Reaches e e') (env : Environment) (length : Word) :
    Reaches e (e'.readControlStream env length) :=
  (h.wait env ⟨rfl, fun _ => rfl⟩).quiet rfl

end Reaches

theorem control_ne : (0 : Byte) ≠ dataINEndpointNumber := by decide

section Tasks

variable (env : Environment) {d : Device} (h : d.endpoints.selected ≠ dataINEndpointNumber)
include h

theorem Hid.processControlRequest_reaches :
    Reaches d.endpoints (Hid.processControlRequest env d).endpoints := by
  have hNone := Reaches.refl d.endpoints
  have hClear := (Reaches.refl d.endpoints).clearSETUP
  have hGetReport : Reaches d.endpoints (getReport env d).endpoints :=
    (((Reaches.refl _).select 0).clearSETUP.writeStream control_ne env .report _ _).quiet rfl
  have hSetReport : Reaches d.endpoints (setReport env d).endpoints := (hClear.readStream env _).note h .clearIN
  have hAnswer : ∀ value, Reaches d.endpoints
      ((((d.endpoints.clearSETUP.waitINReady env).note (.write8 value)).clearIN).clearStatusStage env d.request) :=
    fun value => (((hClear.wait env ⟨rfl, fun _ => rfl⟩).note h (.write8 value)).note h .clearIN).statusStage h env _
  have hStatus : Reaches d.endpoints (d.endpoints.clearSETUP.clearStatusStage env d.request) :=
    hClear.statusStage h env _
  have hGetProtocol : Reaches d.endpoints (getProtocol env d).endpoints := hAnswer _
  have hGetIdle : Reaches d.endpoints (getIdle env d).endpoints := hAnswer _
  have hSetProtocol : Reaches d.endpoints (setProtocol env d).endpoints := hStatus
  have hSetIdle : Reaches d.endpoints (setIdle env d).endpoints := hStatus
  rw [processControlRequest]
  exact .branch hNone (.branch hNone (.branch (.branch hGetReport hNone) (.branch (.branch hSetReport hNone)
    (.branch (.branch hGetProtocol hNone) (.branch (.branch hSetProtocol hNone) (.branch (.branch hSetIdle hNone)
      (.branch (.branch hGetIdle hNone) hNone)))))))

theorem AudioClass.processControlRequest_reaches :
    Reaches d.endpoints (AudioClass.processControlRequest env d).endpoints := by
  have hNone := Reaches.refl d.endpoints
  have hClear := (Reaches.refl d.endpoints).clearSETUP
  have hStatus : Reaches d.endpoints (d.endpoints.clearSETUP.clearStatusStage env d.request) :=
    hClear.statusStage h env _
  have hSet : Reaches d.endpoints (setEndpointProperty env d).endpoints := by
    simp only [setEndpointProperty]
    split
    · exact (hClear.readStream env _).note h .clearIN
    · exact Reaches.refl _
  have hSetInterface : Reaches d.endpoints (setInterfaceProperty env d).endpoints := by
    rw [setInterfaceProperty]
    split
    · exact (hClear.readStream env _).note h .clearIN
    · exact Reaches.refl _
  have hGet : Reaches d.endpoints (getEndpointProperty env d).endpoints := by
    simp only [getEndpointProperty]
    split
    · exact (hClear.writeStream h env _ _ _).quiet rfl
    · exact Reaches.refl _
  have hGetInterface : Reaches d.endpoints (getInterfaceProperty env d).endpoints := by
    rw [getInterfaceProperty]
    split
    · exact (hClear.writeStream h env _ _ _).quiet rfl
    · exact Reaches.refl _
  have hSelect : Reaches d.endpoints (setInterface env d).endpoints := hStatus
  have hGetStatus : Reaches d.endpoints (getStatus env d).endpoints := hStatus
  rw [processControlRequest]
  exact .branch hNone (.branch hNone (.branch (.branch hSelect hNone) (.branch (.branch hGetStatus hNone)
    (.branch (.branch hSet (.branch hSetInterface hNone)) (.branch (.branch hGet (.branch hGetInterface hNone)) hNone)))))

omit h in
theorem Standard.haltEndpoint_reaches (r : Request) (number : Byte) {e e' : Endpoints} (hReaches : Reaches e e') :
    Reaches e (haltEndpoint r number e') := by
  rw [haltEndpoint]
  split
  · split
    · exact (hReaches.select number).stall
    · exact (((hReaches.select number).clearStall.quiet rfl).quiet rfl)
  · exact hReaches.select number

theorem Standard.processControlRequest_reaches :
    Reaches d.endpoints (Standard.processControlRequest env d).endpoints := by
  have hNone := Reaches.refl d.endpoints
  have hClear := (Reaches.refl d.endpoints).clearSETUP
  have hStatus : Reaches d.endpoints (getStatus env d).endpoints := by
    rw [getStatus]
    split
    · exact ((hClear.note h _).note h .clearIN).statusStage h env _
    split
    · exact ((((((Reaches.refl _).select _).select 0).clearSETUP.note control_ne _).note control_ne .clearIN).statusStage
        control_ne env _)
    · exact Reaches.refl _
  have hFinish : ∀ {e : Endpoints}, Reaches d.endpoints e →
      Reaches d.endpoints ((e.selectEndpoint 0).clearSETUP.clearStatusStage env d.request) :=
    fun hReaches => (hReaches.select 0).clearSETUP.statusStage control_ne env _
  have hFeature : Reaches d.endpoints (clearSetFeature env d).endpoints := by
    rw [clearSetFeature]
    exact .branch (.branch (hFinish hNone) hNone) (.branch (.branch (.branch hNone
      (hFinish (haltEndpoint_reaches _ _ hNone))) (hFinish hNone)) hNone)
  have hAddress : Reaches d.endpoints (setAddress env d).endpoints :=
    (hClear.statusStage h env _).wait env ⟨rfl, fun _ => rfl⟩
  have hSend : ∀ descriptor, Reaches d.endpoints (sendDescriptor env descriptor d).endpoints :=
    fun _ => (hClear.writeStream h env _ _ _).quiet rfl
  have hDescriptor : Reaches d.endpoints (getDescriptor env d).endpoints := by
    rw [getDescriptor]
    split
    · exact hSend _
    split
    · exact Reaches.refl _
    · exact hSend _
  have hGetConfiguration : Reaches d.endpoints (getConfiguration env d).endpoints :=
    ((hClear.note h _).note h .clearIN).statusStage h env _
  have hSetConfiguration : Reaches d.endpoints (setConfiguration env d).endpoints := by
    rw [setConfiguration]
    dsimp only
    split
    · exact Reaches.refl _
    · exact ((hClear.statusStage h env _).configure reportINEndpointNumber).configure dataINEndpointNumber
  rw [processControlRequest]
  exact .branch (.branch hStatus hNone) (.branch (.branch hFeature hNone) (.branch (.branch hAddress hNone)
    (.branch (.branch hDescriptor hNone) (.branch (.branch hGetConfiguration hNone)
      (.branch (.branch hSetConfiguration hNone) hNone)))))

end Tasks

theorem control_of_received {e : Endpoints} (h : e.isSETUPReceived = true) : e.selected ≠ dataINEndpointNumber := by
  have hZero : e.selected = 0 := eq_of_beq (Bool.and_eq_true_iff.mp h).1
  rw [hZero]
  exact control_ne

theorem processControlRequest_reaches (env : Environment) {d : Device} (h : d.endpoints.isSETUPReceived = true) :
    Reaches d.endpoints (processControlRequest env d).endpoints := by
  have hAudio : ∀ d : Device, Reaches d.endpoints (AudioClass.processControlRequest env d).endpoints := by
    intro d
    cases hSetup : d.endpoints.isSETUPReceived with
    | true => exact AudioClass.processControlRequest_reaches env (control_of_received hSetup)
    | false =>
      rw [AudioClass.processControlRequest, hSetup]
      exact Reaches.refl _
  have hEvent : Reaches d.endpoints (eventUSBDeviceControlRequest env d).endpoints := by
    rw [eventUSBDeviceControlRequest]
    split
    · rw [vendorRequest]
      split <;> exact (Reaches.refl _).statusStage (control_of_received h) env _
    · exact (Hid.processControlRequest_reaches env (control_of_received h)).trans (hAudio _)
  have hStandard : ∀ d : Device, Reaches d.endpoints
      (if d.endpoints.isSETUPReceived then Standard.processControlRequest env d else d).endpoints := by
    intro d
    split
    next hLeft => exact Standard.processControlRequest_reaches env (control_of_received hLeft)
    next => exact Reaches.refl _
  have hStall : ∀ d : Device, Reaches d.endpoints
      (if d.endpoints.isSETUPReceived then d.control (·.stallTransaction.clearSETUP) else d).endpoints := by
    intro d
    split
    · exact (Reaches.refl _).stall.clearSETUP
    · exact Reaches.refl _
  exact (hEvent.trans (hStandard _)).trans (hStall _)

theorem usbTask_reaches (env : Environment) (d : Device) : Reaches d.endpoints (usbTask env d).endpoints := by
  have hSelect : Reaches d.endpoints (d.endpoints.selectEndpoint 0) := (Reaches.refl _).select 0
  rw [usbTask]
  split
  · exact Reaches.refl _
  · refine Reaches.select ?_ _
    split
    · exact hSelect
    next r hSetup =>
      have hReceived : (d.endpoints.selectEndpoint 0).isSETUPReceived = true := by
        change (true && d.endpoints.setup.isSome) = true
        rw [Bool.true_and, Option.isSome_iff_exists]
        exact ⟨r, hSetup⟩
      exact hSelect.trans (processControlRequest_reaches env (d := { d.control (·.selectEndpoint 0) with request := r })
        hReceived)

theorem Hid.usbTask_reaches (frameNumber : Word) (ready : Bool) (buttons : Byte) (d : Device) :
    Reaches d.endpoints (Hid.usbTask frameNumber ready buttons d).endpoints := by
  have hSelect : Reaches d.endpoints (d.endpoints.selectEndpoint reportINEndpointNumber) :=
    (Reaches.refl _).select reportINEndpointNumber
  have hReport : reportINEndpointNumber ≠ dataINEndpointNumber := by decide
  rw [Hid.usbTask]
  split
  · exact Reaches.refl _
  split
  · exact Reaches.refl _
  dsimp only
  split
  · exact hSelect
  split
  · exact ((hSelect.select reportINEndpointNumber).note hReport _).note hReport .clearIN
  · exact hSelect

def samplesInPacket : Nat := 32

structure Feed where
  collected : List Word
  packets : List (List Word)

inductive Feeding where
  | sample (sample : Word)
  | flush

namespace Feed

def step (f : Feed) : Feeding → Feed
  | .sample sample =>
    let collected := f.collected ++ [sample]
    if collected.length = samplesInPacket then ⟨[], f.packets ++ [collected]⟩ else ⟨collected, f.packets⟩
  | .flush => ⟨[], f.packets⟩

/-- No packet is short or long, and the one being collected is not full. -/
structure Whole (f : Feed) : Prop where
  collected : f.collected.length < samplesInPacket
  packets : ∀ packet ∈ f.packets, packet.length = samplesInPacket

theorem Whole.step {f : Feed} (h : Whole f) (x : Feeding) : Whole (f.step x) := by
  cases x with
  | sample sample =>
    rw [Feed.step]
    split
    next hFull =>
      refine ⟨(by decide : 0 < samplesInPacket), ?_⟩
      intro packet hMem
      obtain hOld | hNew := List.mem_append.mp hMem
      · exact h.packets packet hOld
      · rw [List.mem_singleton.mp hNew]
        exact hFull
    next hRoom =>
      refine ⟨?_, h.packets⟩
      have hBefore := h.collected
      rw [List.length_append, List.length_singleton] at hRoom ⊢
      omega
  | flush => exact ⟨(by decide : 0 < samplesInPacket), h.packets⟩

/-- The bytes in the endpoint. -/
def fifo (f : Feed) : Fifo := ⟨f.collected.flatMap sampleBytes, f.packets.map fun packet => packet.flatMap sampleBytes⟩

end Feed

def Access.flushes (e : Endpoints) : Access → Bool
  | .note op => flushesStream (e.selected, op)
  | .configure number => flushesStream (number, .configure)
  | _ => false

/-- What a moment feeds to the stream. -/
def feeding (e : Endpoints) : Moment → Option Feeding
  | .access a => if a.flushes e then some .flush else none
  | .tick t => t.accepted.map .sample

theorem Fifo.take_quiet (q : Fifo) {op : Op} (hWrites : op.writesBank = false) : q.take op = q := by
  cases op <;> first | rfl | exact absurd (show true = false from hWrites).symm Bool.false_ne_true

theorem streamFifo_quiet {endpoint : Byte} {op : Op} (log : List (Byte × Op))
    (h : endpoint ≠ dataINEndpointNumber ∨ op.writesBank = false) :
    streamFifo ((endpoint, op) :: log) =
      if flushesStream (endpoint, op) then { streamFifo log with bank := [] } else streamFifo log := by
  rw [streamFifo]
  congr 1
  obtain hOther | hWrites := h
  · rw [if_neg hOther]
  · rw [Fifo.take_quiet _ hWrites, ite_self]

theorem perform_fifo {e : Endpoints} {a : Access} (h : Spares e a) :
    streamFifo (a.perform e).log =
      if a.flushes e then { streamFifo e.log with bank := [] } else streamFifo e.log := by
  cases a with
  | note op => exact streamFifo_quiet e.log h
  | wait env op =>
    have hWait : streamFifo ((e.selected, op) :: e.log) = _ := streamFifo_quiet e.log (.inr h.1)
    rw [h.2] at hWait
    exact hWait
  | configure number => exact streamFifo_quiet e.log (.inr rfl)
  | clearSETUP => exact streamFifo_quiet e.log (.inr rfl)
  | stall => exact streamFifo_quiet e.log (.inr rfl)
  | clearStall => exact streamFifo_quiet e.log (.inr rfl)
  | receive r => rfl
  | select number => rfl

theorem sampleBytes_length (samples : List Word) : (samples.flatMap sampleBytes).length = 2 * samples.length := by
  induction samples with
  | nil => rfl
  | cons sample rest ih =>
    rw [List.flatMap_cons, List.length_append, ih, List.length_cons, sampleBytes]
    simp only [List.length_cons, List.length_nil]
    omega

theorem writeSample16_fifo {e : Endpoints} (hSelected : e.selected = dataINEndpointNumber) (sample : Word) {f : Feed}
    (h : streamFifo e.log = f.fifo) :
    streamFifo (audioDeviceWriteSample16 sample e).log = (f.step (.sample sample)).fifo := by
  have hWrite : streamFifo (e.note (.write16 sample)).log =
      ⟨(f.collected ++ [sample]).flatMap sampleBytes, f.fifo.sent⟩ := by
    have hTake : streamFifo (e.note (.write16 sample)).log = (streamFifo e.log).take (.write16 sample) := if_pos hSelected
    rw [hTake, h, List.flatMap_append, List.flatMap_singleton]
    rfl
  have hFull : (streamFifo (e.note (.write16 sample)).log).bank.length = dataINEndpointSize ↔
      (f.collected ++ [sample]).length = samplesInPacket := by
    rw [hWrite, sampleBytes_length, dataINEndpointSize, samplesInPacket]
    omega
  have hPacket : (⟨[], f.packets ++ [f.collected ++ [sample]]⟩ : Feed).fifo =
      ⟨[], f.fifo.sent ++ [(f.collected ++ [sample]).flatMap sampleBytes]⟩ := by
    rw [Feed.fifo, List.map_append]
    rfl
  rw [audioDeviceWriteSample16, Feed.step]
  split
  next hSent =>
    have hTake : streamFifo (e.note (.write16 sample)).clearIN.log =
        (streamFifo (e.note (.write16 sample)).log).take .clearIN := if_pos hSelected
    rw [hTake, hWrite, if_pos (hFull.mp hSent), hPacket]
    rfl
  next hOpen =>
    rw [hWrite, if_neg (mt hFull.mpr hOpen)]
    rfl

/-- The stream holds what was fed to it, in packets that are whole. -/
def Carries (e : Endpoints) (f : Feed) : Prop := streamFifo e.log = f.fifo ∧ f.Whole

/-- The accesses of the main loop spare the stream. -/
def MainSpares (e : Endpoints) : Moment → Prop
  | .access a => Spares e a
  | .tick _ => True

theorem step_carries {e : Endpoints} {f : Feed} (m : Moment) (hSpares : MainSpares e m) (h : Carries e f) :
    Carries (Moment.step e m) ((feeding e m).elim f f.step) := by
  obtain ⟨hFifo, hWhole⟩ := h
  cases m with
  | access a =>
    have hPerform := perform_fifo hSpares
    rw [feeding]
    split
    next hFlush =>
      rw [if_pos hFlush, hFifo] at hPerform
      exact ⟨hPerform, hWhole.step .flush⟩
    next hKept =>
      rw [if_neg hKept, hFifo] at hPerform
      exact ⟨hPerform, hWhole⟩
  | tick t =>
    rw [feeding, Moment.step, timer0CompA_eq]
    cases t.accepted with
    | none => exact ⟨hFifo, hWhole⟩
    | some sample =>
      have hSelect : streamFifo (e.selectEndpoint dataINEndpointNumber).log = f.fifo := hFifo
      exact ⟨writeSample16_fifo rfl sample hSelect, hWhole.step (.sample sample)⟩

/-- The accesses of the main loop are told from those of the interrupt by what they do. -/
theorem perform_main {e : Endpoints} {a : Access} (hSpares : Spares e a) (h : ∀ entry ∈ e.log, mainEntry entry = true) :
    ∀ entry ∈ (a.perform e).log, mainEntry entry = true := by
  have hNote : ∀ (endpoint : Byte) (op : Op), endpoint ≠ dataINEndpointNumber ∨ op.writesBank = false →
      ∀ entry ∈ (endpoint, op) :: e.log, mainEntry entry = true := by
    intro endpoint op hQuiet
    rw [List.forall_mem_cons]
    refine ⟨?_, h⟩
    obtain hOther | hWrites := hQuiet
    · cases op <;> first | rfl | exact bne_iff_ne.mpr hOther
    · cases op <;> first | rfl | exact absurd (show true = false from hWrites).symm Bool.false_ne_true
  cases a with
  | note op => exact hNote _ op hSpares
  | wait env op => exact hNote _ op (.inr hSpares.1)
  | configure number => exact hNote number .configure (.inr rfl)
  | clearSETUP => exact hNote _ .clearSETUP (.inr rfl)
  | stall => exact hNote _ .stall (.inr rfl)
  | clearStall => exact hNote _ .clearStall (.inr rfl)
  | receive r => exact h
  | select number => exact h

theorem Spares.congr {e e' : Endpoints} {a : Access} (hSelected : e.selected = e'.selected) (h : Spares e' a) :
    Spares e a := by
  cases a with
  | note op => exact h.imp_left fun hOther => hSelected ▸ hOther
  | _ => exact h

/-- Wherever the interrupts come, the stream is fed the samples that they find room for. -/
theorem run_carries (moments : List Moment) {e e' : Endpoints} {f : Feed} (hSame : Same e e')
    (hSpares : StepRun.Along Access.perform Spares e' (moments.filterMap Moment.access?)) (h : Carries e f) :
    Carries (StepRun.run Moment.step e moments)
      (StepRun.run Feed.step f (StepRun.emitted Moment.step feeding e moments)) := by
  induction moments generalizing e e' f with
  | nil => exact h
  | cons m rest ih =>
    have hNext : MainSpares e m → Carries (Moment.step e m) ((feeding e m).elim f f.step) :=
      fun hMain => step_carries m hMain h
    have hRun : ∀ f', f' = (feeding e m).elim f f.step →
        StepRun.run Feed.step f' (StepRun.emitted Moment.step feeding (Moment.step e m) rest) =
          StepRun.run Feed.step f (StepRun.emitted Moment.step feeding e (m :: rest)) := by
      rintro _ rfl
      rw [StepRun.emitted, StepRun.run_append]
      cases feeding e m <;> rfl
    rw [StepRun.run_cons, ← hRun _ rfl]
    cases m with
    | access a =>
      obtain ⟨hHead, hRest⟩ := hSpares
      exact ih (hSame.perform a) hRest (hNext (hHead.congr hSame.selected))
    | tick t => exact ih ((timer0CompA_same t e).trans hSame) hSpares (hNext trivial)

end WheelDisplay.Usb
