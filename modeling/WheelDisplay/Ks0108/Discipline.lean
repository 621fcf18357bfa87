import WheelDisplay.Ks0108.Handshake
import WheelDisplay.Lcd.Draw

/-! # The lines of the bus during a call

The calls of this module take what `KS0108_DATA` reads from a `Reading`, which may give
any byte and may look at everything that has happened. A wait loop that uses up its fuel
ends in the board that it is still waiting at.
-/

namespace WheelDisplay.Ks0108

open Board

abbrev Reading := Board → Byte

namespace Reading

def load (read : Reading) (b : Board) : Byte × Board :=
  (read b, { b with trace := .load ks0108Data (read b) b.pins :: b.trace })

def readStatus (read : Reading) (controller : Byte) (b : Board) : Byte × Board :=
  let b := ((prepareRead controller b).clearCtrl rs).setCtrl en
  let (data, b) := load read b
  (data, ks0108ControllerDisable controller (b.clearCtrl en))

def waitWhileBusy (read : Reading) (controller : Byte) : Nat → Board → Except Board Board
  | 0, b => .error b
  | fuel + 1, b =>
    let (data, b) := readStatus read controller b
    if data &&& 0x80 ≠ 0 then waitWhileBusy read controller fuel b else .ok b

def ks0108Readdata (read : Reading) (fuel : Nat) (controller status : Byte) (b : Board) :
    Except Board (Byte × Board) :=
  if status ≠ 0 then .ok (readStatus read controller b)
  else do
    let b := strobe (strobe ((prepareRead controller b).setCtrl rs))
    let b ← waitWhileBusy read controller fuel b
    let (data, b) := load read b
    .ok (data, ks0108ControllerDisable controller b)

def ks0108Instruction (read : Reading) (fuel : Nat) (controller instruction data : Byte) (b : Board) :
    Except Board Board := do
  let b ← waitWhileBusy read controller fuel b
  .ok (ks0108ControllerDisable controller (strobe (writeLines controller instruction data b)))

/-- The port register of the AVR, which reads back what was stored to it. -/
def latch : Reading := fun b => b.read ks0108Data

theorem waitWhileBusy_latch (controller : Byte) (fuel : Nat) (b : Board) :
    (waitWhileBusy latch controller fuel b).toOption = Ks0108.waitWhileBusy controller fuel b := by
  induction fuel generalizing b with
  | zero => rfl
  | succ fuel ih =>
    have hRead : readStatus latch controller b = Ks0108.readStatus controller b := rfl
    rw [waitWhileBusy, Ks0108.waitWhileBusy, hRead]
    dsimp only
    split
    · exact ih _
    · rfl

theorem ks0108Readdata_latch (fuel : Nat) (controller status : Byte) (b : Board) :
    (ks0108Readdata latch fuel controller status b).toOption = Ks0108.ks0108Readdata fuel controller status b := by
  rw [ks0108Readdata, Ks0108.ks0108Readdata]
  split
  · rfl
  · dsimp only
    rw [← waitWhileBusy_latch]
    cases waitWhileBusy latch controller fuel (strobe (strobe ((prepareRead controller b).setCtrl rs))) <;> rfl

theorem ks0108Instruction_latch (fuel : Nat) (controller instruction data : Byte) (b : Board) :
    (ks0108Instruction latch fuel controller instruction data b).toOption =
      Ks0108.ks0108Instruction fuel controller instruction data b := by
  rw [ks0108Instruction, Ks0108.ks0108Instruction, ← waitWhileBusy_latch]
  cases waitWhileBusy latch controller fuel b <;> rfl

end Reading

inductive BusCall where
  | instruction (call : Call)
  | readdata (controller status : Byte)

namespace BusCall

def controller : BusCall → Byte
  | instruction call => call.controller
  | readdata controller _ => controller

def perform (read : Reading) (fuel : Nat) : BusCall → Board → Except Board Board
  | instruction call, b => Reading.ks0108Instruction read fuel call.controller call.instruction call.data b
  | readdata controller status, b => (Reading.ks0108Readdata read fuel controller status b).map Prod.snd

/-- The data port drives the byte of the instruction, and RS tells whether it is data. -/
def Drives : BusCall → Pins → Prop
  | instruction call, p => p.ddrD = 0xFF ∧ p.portD = call.instruction ∧ p.dataMode = (call.data != 0)
  | readdata _ _, _ => False

end BusCall

/-- What the lines must be while EN is high. -/
structure Disciplined (call : BusCall) (p : Pins) : Prop where
  selected : ∀ c, p.selects c = decide (call.controller = number c)
  reading : p.reads = true → p.ddrD = 0x00
  writing : p.reads = false → call.Drives p

/-- The pins after an access. -/
def Access.pins : Access → Pins
  | .store _ after => after
  | .load _ _ pins => pins

/-- From `b` to `b'`, the accesses of a call keep the discipline one by one. -/
def Follows (call : BusCall) (b b' : Board) : Prop :=
  ∃ added, b'.trace = added ++ b.trace ∧
    ∀ access ∈ added, access.pins.enabled = true → Disciplined call access.pins

theorem Follows.refl (call : BusCall) (b : Board) : Follows call b b :=
  ⟨[], rfl, fun _ h => absurd h List.not_mem_nil⟩

theorem Follows.trans {call : BusCall} {b b' b'' : Board} (h : Follows call b b') (h' : Follows call b' b'') :
    Follows call b b'' := by
  obtain ⟨added, hTrace, hKept⟩ := h
  obtain ⟨added', hTrace', hKept'⟩ := h'
  refine ⟨added' ++ added, ?_, List.forall_mem_append.mpr ⟨hKept', hKept⟩⟩
  rw [hTrace', hTrace, List.append_assoc]

theorem follows_access {call : BusCall} {b b' : Board} (access : Access) (hTrace : b'.trace = access :: b.trace)
    (h : access.pins.enabled = true → Disciplined call access.pins) : Follows call b b' :=
  ⟨[access], hTrace, List.forall_mem_singleton.mpr h⟩

theorem drive_follows {call : BusCall} {b : Board} {after : Pins}
    (h : after.enabled = true → Disciplined call (b.drive after).pins) : Follows call b (b.drive after) :=
  follows_access (.store b.pins (b.drive after).pins) rfl h

/-- EN stays low: no store moves it but one of `KS0108_CTRL`, where `&=` cannot raise it. -/
structure Lowered (call : BusCall) (b b' : Board) : Prop where
  follows : Follows call b b'
  disabled : b'.pins.enabled = false

theorem Lowered.trans {call : BusCall} {b b' b'' : Board} (h : Lowered call b b') (h' : Lowered call b' b'') :
    Lowered call b b'' := ⟨h.follows.trans h'.follows, h'.disabled⟩

theorem drive_lowered {call : BusCall} {b : Board} {after : Pins} (h : after.enabled = false) :
    Lowered call b (b.drive after) :=
  ⟨drive_follows fun hEnabled => absurd (h.symm.trans hEnabled) Bool.false_ne_true, h⟩

section

variable (call : BusCall) {b : Board} (hLow : b.pins.enabled = false)

include hLow

theorem setCtrl_lowered {mask : Byte} (h : mask.getLsbD 7 = false) : Lowered call b (b.setCtrl mask) := by
  have hBit : (b.pins.portC ||| mask).getLsbD 7 = false := by
    rw [BitVec.getLsbD_or, h, Bool.or_false]
    exact hLow
  exact drive_lowered hBit

theorem clearCtrl_lowered (mask : Byte) : Lowered call b (b.clearCtrl mask) := by
  have hBit : (b.pins.portC &&& ~~~mask).getLsbD 7 = false := by
    have hPin : b.pins.portC.getLsbD 7 = false := hLow
    rw [BitVec.getLsbD_and, hPin, Bool.false_and]
  exact drive_lowered hBit

theorem storePortD_lowered (v : Byte) : Lowered call b (b.storePortD v) := drive_lowered hLow

theorem storeDdrD_lowered (v : Byte) : Lowered call b (b.storeDdrD v) := drive_lowered hLow

theorem enable_lowered (i : Byte) : Lowered call b (ks0108ControllerEnable i b) := by
  rw [ks0108ControllerEnable]
  split_ifs
  · exact clearCtrl_lowered call hLow cs1
  · exact clearCtrl_lowered call hLow cs2
  · exact ⟨Follows.refl call b, hLow⟩

theorem disable_lowered (i : Byte) : Lowered call b (ks0108ControllerDisable i b) := by
  rw [ks0108ControllerDisable]
  split_ifs
  · exact setCtrl_lowered call hLow rfl
  · exact setCtrl_lowered call hLow rfl
  · exact ⟨Follows.refl call b, hLow⟩

theorem prepareRead_lowered (i : Byte) : Lowered call b (prepareRead i b) := by
  have hEnable := enable_lowered call hLow i
  have hLatch := hEnable.trans (storePortD_lowered call hEnable.disabled 0x00)
  have hInput := hLatch.trans (storeDdrD_lowered call hLatch.disabled 0x00)
  exact hInput.trans (setCtrl_lowered call hInput.disabled rfl)

theorem writeLines_lowered (i instruction data : Byte) : Lowered call b (writeLines i instruction data b) := by
  have hEnable := enable_lowered call hLow i
  have hOutput := hEnable.trans (storeDdrD_lowered call hEnable.disabled 0xFF)
  have hWrite := hOutput.trans (clearCtrl_lowered call hOutput.disabled rw)
  have hRs : rs.getLsbD 7 = false := rfl
  rw [writeLines]
  split_ifs
  · have hData := hWrite.trans (setCtrl_lowered call hWrite.disabled hRs)
    exact hData.trans (storePortD_lowered call hData.disabled instruction)
  · have hCommand := hWrite.trans (clearCtrl_lowered call hWrite.disabled rs)
    exact hCommand.trans (storePortD_lowered call hCommand.disabled instruction)

end

theorem raise_follows {call : BusCall} {b : Board} (h : Disciplined call (b.setCtrl en).pins) :
    Follows call b (b.setCtrl en) := drive_follows fun _ => h

theorem lower_lowered (call : BusCall) (b : Board) : Lowered call b (b.clearCtrl en) := by
  have hBit : (b.pins.portC &&& ~~~en).getLsbD 7 = false := by
    rw [BitVec.getLsbD_and]
    exact Bool.and_false _
  exact drive_lowered hBit

theorem strobe_lowered {call : BusCall} {b : Board} (h : Disciplined call (b.setCtrl en).pins) :
    Lowered call b (strobe b) :=
  ⟨(raise_follows h).trans (lower_lowered call _).follows, (lower_lowered call _).disabled⟩

/-- A board whose lines are set for a read of controller `i`. -/
structure Aimed (i : Byte) (b : Board) : Prop where
  selected : ∀ c, b.pins.selects c = decide (i = number c)
  reads : b.pins.reads = true
  input : b.pins.ddrD = 0x00

/-- The chip selects and RW of two boards are the same. -/
def SameLines (b b' : Board) : Prop := ∀ i ∈ [4, 5, 6], b'.pins.portC.getLsbD i = b.pins.portC.getLsbD i

theorem SameLines.selects {b b' : Board} (h : SameLines b b') (c : Fin 2) : b'.pins.selects c = b.pins.selects c := by
  have hFirst : b'.pins.portC.getLsbD 6 = b.pins.portC.getLsbD 6 := h 6 (by simp)
  have hSecond : b'.pins.portC.getLsbD 5 = b.pins.portC.getLsbD 5 := h 5 (by simp)
  fin_cases c
  · exact congrArg (!·) hFirst
  · exact congrArg (!·) hSecond

theorem SameLines.aimed {i : Byte} {b b' : Board} (h : SameLines b b') (hInput : b'.pins.ddrD = b.pins.ddrD)
    (hAimed : Aimed i b) : Aimed i b' := by
  have hReads : b'.pins.portC.getLsbD 4 = b.pins.portC.getLsbD 4 := h 4 (by simp)
  exact ⟨fun c => (h.selects c).trans (hAimed.selected c), hReads.trans hAimed.reads, hInput.trans hAimed.input⟩

theorem sameLines_setCtrl (b : Board) {mask : Byte} (h : ∀ i ∈ [4, 5, 6], mask.getLsbD i = false) :
    SameLines b (b.setCtrl mask) := by
  intro i hi
  have hBit : (b.pins.portC ||| mask).getLsbD i = b.pins.portC.getLsbD i := by
    rw [BitVec.getLsbD_or, h i hi, Bool.or_false]
  exact hBit

theorem sameLines_clearCtrl (b : Board) {mask : Byte} (h : ∀ i ∈ [4, 5, 6], mask.getLsbD i = false) :
    SameLines b (b.clearCtrl mask) := by
  intro i hi
  have hWidth : i < 8 := by
    revert i
    decide
  have hBit : (b.pins.portC &&& ~~~mask).getLsbD i = b.pins.portC.getLsbD i := by
    rw [BitVec.getLsbD_and, BitVec.getLsbD_not, h i hi, decide_eq_true hWidth]
    exact Bool.and_true _
  exact hBit

theorem rs_apart : ∀ i ∈ [4, 5, 6], rs.getLsbD i = false := by decide

theorem en_apart : ∀ i ∈ [4, 5, 6], en.getLsbD i = false := by decide

theorem Aimed.setCtrl {i : Byte} {b : Board} (h : Aimed i b) {mask : Byte}
    (hMask : ∀ i ∈ [4, 5, 6], mask.getLsbD i = false) : Aimed i (b.setCtrl mask) :=
  (sameLines_setCtrl b hMask).aimed rfl h

theorem Aimed.clearCtrl {i : Byte} {b : Board} (h : Aimed i b) {mask : Byte}
    (hMask : ∀ i ∈ [4, 5, 6], mask.getLsbD i = false) : Aimed i (b.clearCtrl mask) :=
  (sameLines_clearCtrl b hMask).aimed rfl h

theorem Aimed.strobe {i : Byte} {b : Board} (h : Aimed i b) : Aimed i (strobe b) :=
  (h.setCtrl en_apart).clearCtrl en_apart

theorem Aimed.disciplined {call : BusCall} {b : Board} (h : Aimed call.controller b) : Disciplined call b.pins :=
  ⟨h.selected, fun _ => h.input, fun hWrites => absurd (hWrites.symm.trans h.reads) Bool.false_ne_true⟩

theorem prepareRead_aimed {i : Byte} {b : Board} (h : Held i b) : Aimed i (prepareRead i b) := by
  constructor
  · intro c
    rw [← h.enable_selects c]
    have hPortC : (prepareRead i b).pins.portC = (ks0108ControllerEnable i b).pins.portC ||| rw := rfl
    fin_cases c <;> simp [Pins.selects, hPortC, rw]
  · have hPortC : (prepareRead i b).pins.portC = (ks0108ControllerEnable i b).pins.portC ||| rw := rfl
    simp [Pins.reads, hPortC, rw]
  · rfl

/-- Where a call ends, or the board that it is still waiting at. -/
def boardOf : Except Board Board → Board
  | .ok b => b
  | .error b => b

structure Kept (call : BusCall) (b : Board) (r : Except Board Board) : Prop where
  follows : Follows call b (boardOf r)
  idle : ∀ b', r = .ok b' → Idle b'

theorem Aimed.held {i : Byte} {b : Board} (h : Aimed i b) (hLow : b.pins.enabled = false) : Held i b := by
  refine ⟨hLow, fun c hOther => ?_⟩
  rw [h.selected c]
  exact decide_eq_false hOther

theorem load_follows {call : BusCall} (read : Reading) {b : Board}
    (h : b.pins.enabled = true → Disciplined call b.pins) : Follows call b (read.load b).2 :=
  follows_access (.load ks0108Data (read b) b.pins) rfl h

/-- A second release of a controller changes no line. -/
theorem Idle.disable {b : Board} (h : Idle b) (i : Byte) : Idle (ks0108ControllerDisable i b) := by
  refine ⟨(disable_lowered (.readdata i 0) h.disabled i).disabled, fun c => ?_⟩
  have hReleased := h.released c
  fin_cases c <;> simp_all [Pins.selects, disable_portC]

theorem readStatus_kept (read : Reading) {call : BusCall} {b : Board} (h : Held call.controller b) :
    Kept call b (.ok (read.readStatus call.controller b).2) := by
  have hPrepared := prepareRead_lowered call h.disabled call.controller
  have hLines := hPrepared.trans (clearCtrl_lowered call hPrepared.disabled rs)
  have hRaised := ((prepareRead_aimed h).clearCtrl rs_apart).setCtrl en_apart
  have hStrobe := hLines.follows.trans (raise_follows hRaised.disciplined)
  have hLoad := hStrobe.trans (load_follows read fun _ => hRaised.disciplined)
  have hLowered := lower_lowered call (read.load (((prepareRead call.controller b).clearCtrl rs).setCtrl en)).2
  have hSelected := (hRaised.clearCtrl en_apart).selected
  have hEnd := disable_lowered call hLowered.disabled call.controller
  refine ⟨hLoad.trans (hLowered.follows.trans hEnd.follows), ?_⟩
  rintro b' ⟨⟩
  exact disable_idle call.controller hLowered.disabled hSelected

theorem waitWhileBusy_kept (read : Reading) {call : BusCall} (fuel : Nat) {b : Board} (h : Held call.controller b) :
    Kept call b (read.waitWhileBusy call.controller fuel b) := by
  induction fuel generalizing b with
  | zero => exact ⟨Follows.refl call b, fun b' hNever => nomatch hNever⟩
  | succ fuel ih =>
    have hRead := readStatus_kept read h
    have hIdle : Idle (read.readStatus call.controller b).2 := hRead.idle _ rfl
    rw [Reading.waitWhileBusy]
    dsimp only
    split
    · have hRest := ih (hIdle.held call.controller)
      exact ⟨hRead.follows.trans hRest.follows, hRest.idle⟩
    · exact hRead

/-- The dummy read and the actual one leave the controller selected. -/
theorem dataReads_held (call : BusCall) {b : Board} (h : Idle b) :
    Lowered call b (strobe (strobe ((prepareRead call.controller b).setCtrl rs))) ∧
      Held call.controller (strobe (strobe ((prepareRead call.controller b).setCtrl rs))) := by
  have hRs : rs.getLsbD 7 = false := rfl
  have hPrepared := prepareRead_lowered call h.disabled call.controller
  have hLines := hPrepared.trans (setCtrl_lowered call hPrepared.disabled hRs)
  have hAimed := (prepareRead_aimed (h.held call.controller)).setCtrl rs_apart
  have hDummy := hLines.trans (strobe_lowered (hAimed.setCtrl en_apart).disciplined)
  have hActual := hDummy.trans (strobe_lowered (hAimed.strobe.setCtrl en_apart).disciplined)
  exact ⟨hActual, hAimed.strobe.strobe.held hActual.disabled⟩

theorem ks0108Readdata_kept (read : Reading) (fuel : Nat) (controller status : Byte) {b : Board} (h : Idle b) :
    Kept (.readdata controller status) b ((read.ks0108Readdata fuel controller status b).map Prod.snd) := by
  generalize hCall : BusCall.readdata controller status = call
  obtain rfl : call.controller = controller := by
    subst hCall
    rfl
  obtain ⟨hReads, hHeld⟩ := dataReads_held call h
  have hWait := waitWhileBusy_kept read fuel hHeld
  rw [Reading.ks0108Readdata]
  split
  · exact readStatus_kept read (h.held call.controller)
  · dsimp only
    generalize read.waitWhileBusy call.controller fuel
      (strobe (strobe ((prepareRead call.controller b).setCtrl rs))) = r at hWait
    cases r with
    | error b' => exact ⟨hReads.follows.trans hWait.follows, fun b'' hNever => nomatch hNever⟩
    | ok b' =>
      have hIdle : Idle b' := hWait.idle b' rfl
      have hLoad : Follows call b' (read.load b').2 :=
        load_follows read fun hEnabled => absurd (hIdle.disabled.symm.trans hEnabled) Bool.false_ne_true
      have hLoaded : Idle (read.load b').2 := ⟨hIdle.disabled, hIdle.released⟩
      have hEnd := disable_lowered call hLoaded.disabled call.controller
      refine ⟨hReads.follows.trans (hWait.follows.trans (hLoad.trans hEnd.follows)), ?_⟩
      rintro b'' ⟨⟩
      exact hLoaded.disable call.controller

theorem writeLines_drives (call : Call) (b : Board) :
    BusCall.Drives (.instruction call)
      ((writeLines call.controller call.instruction call.data b).setCtrl en).pins := by
  refine ⟨?_, rfl, writeLines_dataMode ..⟩
  rw [writeLines]
  split <;> rfl

theorem writeLines_disciplined (call : Call) {b : Board} (h : Idle b) :
    Disciplined (.instruction call)
      ((writeLines call.controller call.instruction call.data b).setCtrl en).pins := by
  constructor
  · intro c
    rw [raise_selects]
    exact writeLines_selects call.controller call.instruction call.data h c
  · intro hReads
    rw [raise_reads, writeLines_reads] at hReads
    cases hReads
  · exact fun _ => writeLines_drives call b

theorem ks0108Instruction_kept (read : Reading) (fuel : Nat) (call : Call) {b : Board} (h : Idle b) :
    Kept (.instruction call) b
      (read.ks0108Instruction fuel call.controller call.instruction call.data b) := by
  have hWait : Kept (.instruction call) b (read.waitWhileBusy call.controller fuel b) :=
    waitWhileBusy_kept read fuel (h.held call.controller)
  rw [Reading.ks0108Instruction]
  generalize read.waitWhileBusy call.controller fuel b = r at hWait
  cases r with
  | error b' => exact ⟨hWait.follows, fun b'' hNever => nomatch hNever⟩
  | ok b' =>
    have hIdle : Idle b' := hWait.idle b' rfl
    have hLines := writeLines_lowered (.instruction call) hIdle.disabled call.controller call.instruction call.data
    have hStrobe := hLines.trans (strobe_lowered (writeLines_disciplined call hIdle))
    have hEnd := disable_lowered (.instruction call) hStrobe.disabled call.controller
    refine ⟨hWait.follows.trans (hStrobe.follows.trans hEnd.follows), ?_⟩
    rintro b'' ⟨⟩
    exact (write_spec call.controller call.instruction call.data hIdle).idle

theorem perform_kept (read : Reading) (fuel : Nat) (call : BusCall) {b : Board} (h : Idle b) :
    Kept call b (call.perform read fuel b) := by
  cases call with
  | instruction call => exact ks0108Instruction_kept read fuel call h
  | readdata controller status => exact ks0108Readdata_kept read fuel controller status h

/-- The next call, unless an earlier one is still waiting. -/
def busStep (read : Reading) (fuel : Nat) (s : Except Board Board) (call : BusCall) : Except Board Board :=
  s.bind (call.perform read fuel)

def BusKept (read : Reading) (fuel : Nat) (s : Except Board Board) (call : BusCall) : Prop :=
  ∀ b, s = .ok b → Kept call b (call.perform read fuel b)

def AtRest (s : Except Board Board) : Prop := ∀ b, s = .ok b → Idle b

theorem busStep_atRest (read : Reading) (fuel : Nat) (s : Except Board Board) (call : BusCall) (h : AtRest s) :
    AtRest (busStep read fuel s call) := by
  cases s with
  | error b => exact fun b' hNever => nomatch hNever
  | ok b => exact (perform_kept read fuel call (h b rfl)).idle

/-- The calls of `ks0108_init`. -/
def initCalls : List BusCall := Lcd.ks0108Clear.map .instruction

/-- Whatever the reads of the data port give, every call of `ks0108_init` and after it keeps the discipline at each
access, whether it returns or goes on waiting, and leaves the lines at rest when it returns. -/
theorem bus_disciplined (latency : Nat → Nat) (busy : Fin 2 → Nat) (read : Reading) (fuel : Nat)
    (calls : List BusCall) :
    (∀ access ∈ (powered latency busy).trace, access.pins.enabled = false) ∧ Idle (powered latency busy) ∧
      StepRun.Along (busStep read fuel) (BusKept read fuel) (.ok (powered latency busy)) (initCalls ++ calls) := by
  have hIdle := powered_idle latency busy
  refine ⟨?_, hIdle, ?_⟩
  · intro access hMem
    have hTrace : (powered latency busy).trace =
        [.store ((reset latency busy).storeDdrC _).pins (powered latency busy).pins,
          .store (reset latency busy).pins ((reset latency busy).storeDdrC _).pins] := rfl
    rw [hTrace, List.mem_cons, List.mem_singleton] at hMem
    obtain rfl | rfl := hMem
    · exact hIdle.disabled
    · simp [Access.pins, Pins.enabled, reset]
  · refine StepRun.along_of_invariant AtRest (busStep_atRest read fuel) ?_ ?_ (initCalls ++ calls)
    · intro s call hRest b hReached
      exact perform_kept read fuel call (hRest b hReached)
    · rintro b ⟨⟩
      exact hIdle

end WheelDisplay.Ks0108
