import WheelDisplay.Usb.Standard

/-! # One SETUP packet through the four handlers

Every class or standard handler that takes a packet clears RXSTPI before its
first wait. The vendor branch of `EVENT_USB_Device_ControlRequest` completes the
status stage but never clears the flag.
-/

namespace WheelDisplay.Usb

open Audio

namespace Endpoints

def accesses (e : Endpoints) : Nat := e.log.length

def isControlStall : Byte × Op → Bool
  | (number, .stall) => number == 0
  | _ => false

def controlStalls (e : Endpoints) : Nat := e.log.countP isControlStall

theorem note_controlStalls (op : Op) {e : Endpoints} (h : isControlStall (e.selected, op) = false) :
    (e.note op).controlStalls = e.controlStalls := by
  rw [controlStalls, note, List.countP_cons, h]
  rfl

/-- A handler took the packet from the control endpoint, where RXSTPI now stands for `next`. -/
structure Served (next : Option Request) (e e' : Endpoints) : Prop where
  selected : e'.selected = 0
  setup : e'.setup = next
  accesses : e.accesses < e'.accesses
  controlStalls : e'.controlStalls = e.controlStalls

theorem clearSETUP_served {e : Endpoints} (h : e.selected = 0) : Served none e e.clearSETUP where
  selected := h
  setup := if_pos h
  accesses := Nat.lt_succ_self _
  controlStalls := note_controlStalls .clearSETUP rfl

section

variable {next : Option Request} {e e' : Endpoints} (env : Environment)

theorem Served.note (op : Op) (h : Served next e e') (hOp : isControlStall (0, op) = false) :
    Served next e (e'.note op) where
  selected := h.selected
  setup := h.setup
  accesses := Nat.lt_succ_of_lt h.accesses
  controlStalls := by
    rw [note_controlStalls op (by rw [h.selected, hOp]), h.controlStalls]

theorem Served.wait (op : Op) (h : Served next e e') (hOp : isControlStall (0, op) = false) :
    Served (env.nextSetup.or next) e (e'.wait env op) where
  selected := h.selected
  setup := congrArg env.nextSetup.or h.setup
  accesses := (h.note op hOp).accesses
  controlStalls := (h.note op hOp).controlStalls

theorem Served.clearStatusStage (h : Served next e e') (r : Request) :
    Served (env.nextSetup.or next) e (e'.clearStatusStage env r) := by
  rw [Endpoints.clearStatusStage]
  split
  · have hWait := h.wait env .awaitOUT rfl
    cases env.detached with
    | true => exact hWait
    | false => exact hWait.note _ rfl
  · have hWait := h.wait env .awaitIN rfl
    cases env.detached with
    | true => exact hWait
    | false => exact hWait.note _ rfl

theorem Served.after (h : Served next e e') (s : Endpoints) (hAccesses : s.accesses ≤ e.accesses)
    (hStalls : e.controlStalls = s.controlStalls) : Served next s e' where
  selected := h.selected
  setup := h.setup
  accesses := Nat.lt_of_le_of_lt hAccesses h.accesses
  controlStalls := h.controlStalls.trans hStalls

theorem served_statusStage (h : e.selected = 0) (r : Request) :
    Served env.nextSetup e (e.clearSETUP.clearStatusStage env r) := by
  simpa using (clearSETUP_served h).clearStatusStage env r

theorem served_writeControlStream (h : e.selected = 0) (buffer : Buffer) (stream : List Byte) (wLength : Word) :
    Served env.nextSetup e (e.clearSETUP.writeControlStream env buffer stream wLength).clearOUT := by
  have hWait := (clearSETUP_served h).wait env .awaitIN rfl
  rw [Option.or_none] at hWait
  exact (hWait.note (.writeStream buffer (env.sent stream wLength)) rfl).note .clearOUT rfl

theorem served_readControlStream (h : e.selected = 0) (length : Word) :
    Served env.nextSetup e (e.clearSETUP.readControlStream env length).clearIN := by
  have hWait := (clearSETUP_served h).wait env .awaitOUT rfl
  rw [Option.or_none] at hWait
  exact (hWait.note (.readStream (env.stored length)) rfl).note .clearIN rfl

theorem served_write (h : e.selected = 0) (r : Request) (op : Op) (hOp : isControlStall (0, op) = false) :
    Served env.nextSetup e ((e.clearSETUP.note op).clearIN.clearStatusStage env r) := by
  have hWritten : Served none e (e.clearSETUP.note op).clearIN := ((clearSETUP_served h).note op hOp).note .clearIN rfl
  simpa using hWritten.clearStatusStage env r

theorem served_waitWrite (h : e.selected = 0) (r : Request) (op : Op) (hOp : isControlStall (0, op) = false) :
    Served env.nextSetup e (((e.clearSETUP.waitINReady env).note op).clearIN.clearStatusStage env r) := by
  have hWait := (clearSETUP_served h).wait env .awaitIN rfl
  rw [Option.or_none] at hWait
  have hWritten : Served env.nextSetup e ((e.clearSETUP.waitINReady env).note op).clearIN :=
    (hWait.note op hOp).note .clearIN rfl
  simpa using hWritten.clearStatusStage env r

end

end Endpoints

open Endpoints

/-- The packet was taken and RXSTPI reads `flag` afterwards. -/
structure Takes (flag : Bool) (d d' : Device) : Prop where
  request : d'.request = d.request
  flag : d'.endpoints.isSETUPReceived = flag
  accesses : d.endpoints.accesses < d'.endpoints.accesses
  controlStalls : d'.endpoints.controlStalls = d.endpoints.controlStalls

theorem Endpoints.Served.takes {next : Option Request} {d d' : Device}
    (h : Served next d.endpoints d'.endpoints) (hRequest : d'.request = d.request) :
    Takes next.isSome d d' where
  request := hRequest
  flag := by rw [isSETUPReceived, h.selected, h.setup]; rfl
  accesses := h.accesses
  controlStalls := h.controlStalls

theorem Takes.changes {flag : Bool} {d d' : Device} (h : Takes flag d d') : d' ≠ d := by
  rintro rfl
  exact Nat.lt_irrefl _ h.accesses

def Hid.claims (r : Request) : Bool :=
  r.wIndex == hidInterfaceNumber &&
    (r.bmRequestType == fromInterface &&
        (r.bRequest == hidReqGetReport || r.bRequest == hidReqGetProtocol || r.bRequest == hidReqGetIdle) ||
      r.bmRequestType == toInterface &&
        (r.bRequest == hidReqSetReport || r.bRequest == hidReqSetProtocol || r.bRequest == hidReqSetIdle))

def AudioClass.isSamplingFreq (r : Request) : Bool :=
  endpointAddress r == endpointDirIn ||| dataINEndpointNumber &&
    endpointControl r == audioEPControlSamplingFreq

def AudioClass.claims (r : Request) : Bool :=
  !misdirected r &&
    (r.bRequest == reqSetInterface && r.bmRequestType == hostToDevice ||| typeStandard ||| recInterface ||
      r.bRequest == audioReqGetStatus &&
        (r.bmRequestType == hostToDevice ||| typeClass ||| recInterface ||
          r.bmRequestType == hostToDevice ||| typeClass ||| recEndpoint) ||
      r.bRequest == audioReqSetCurrent && isSamplingFreq r &&
        r.bmRequestType == hostToDevice ||| typeClass ||| recEndpoint ||
      r.bRequest == audioReqGetCurrent && isSamplingFreq r &&
        r.bmRequestType == deviceToHost ||| typeClass ||| recEndpoint)

def Standard.hasDescriptor (r : Request) : Bool :=
  r.wValue == 0x0300 ||| useInternalSerial || (callbackUSBGetDescriptor r.wValue).isSome

/-- The features that exist: remote wakeup, and the halt of every endpoint but the control endpoint. -/
def Standard.hasFeature (r : Request) : Bool :=
  let selector : Byte := r.wValue.setWidth 8
  let endpointIndex : Byte := r.wIndex.setWidth 8 &&& endpointEpnumMask
  r.bmRequestType == hostToDevice ||| typeStandard ||| recDevice && selector == featureSelDeviceRemoteWakeup ||
    r.bmRequestType == hostToDevice ||| typeStandard ||| recEndpoint &&
      !(selector == featureSelEndpointHalt && endpointIndex == 0)

def Standard.claims (r : Request) : Bool :=
  let standard (direction recipient : Byte) : Bool :=
    r.bmRequestType == direction ||| typeStandard ||| recipient
  r.bRequest == reqGetStatus && (standard deviceToHost recDevice || standard deviceToHost recEndpoint) ||
    (r.bRequest == reqClearFeature || r.bRequest == reqSetFeature) && hasFeature r ||
    r.bRequest == reqSetAddress && standard hostToDevice recDevice ||
    r.bRequest == reqGetDescriptor &&
      (standard deviceToHost recDevice || standard deviceToHost recInterface) && hasDescriptor r ||
    r.bRequest == reqGetConfiguration && standard deviceToHost recDevice ||
    r.bRequest == reqSetConfiguration && standard hostToDevice recDevice &&
      !decide (fixedNumConfigurations < (r.wValue.setWidth 8 : Byte))

/-- A handler takes the packets that it claims, and leaves the device as it is on the others. -/
def Handled (claims flag : Bool) (d d' : Device) : Prop :=
  claims = true ∧ Takes flag d d' ∨ claims = false ∧ d' = d

/-- A request code leads to a handler that tests the request type. -/
theorem taken_ite {p : Prop} [Decidable p] {claims flag : Bool} {d d' : Device}
    (hClaims : claims = true ↔ p) (hTakes : p → Takes flag d d') :
    Handled claims flag d (if p then d' else d) := by
  by_cases h : p
  · rw [if_pos h]
    exact Or.inl ⟨hClaims.mpr h, hTakes h⟩
  · rw [if_neg h]
    exact Or.inr ⟨Bool.eq_false_iff.mpr fun hTrue => h (hClaims.mp hTrue), rfl⟩

theorem taken_and {p : Prop} [Decidable p] {claims c flag : Bool} {d d' : Device}
    (hClaims : claims = true ↔ c = true ∧ p) (hTaken : Handled c flag d d') :
    Handled claims flag d (if p then d' else d) := by
  obtain ⟨hTrue, hTakes⟩ | ⟨hFalse, rfl⟩ := hTaken
  · exact taken_ite (hClaims.trans (and_iff_right hTrue)) fun _ => hTakes
  · have hRefused : claims = false := by
      rw [← Bool.not_eq_true, hClaims, hFalse]
      exact fun h => Bool.false_ne_true h.1
    exact Or.inr ⟨hRefused, ite_self _⟩

section

variable (env : Environment) {d : Device}

theorem Hid.getReport_served (d : Device) :
    Served env.nextSetup d.endpoints (Hid.getReport env d).endpoints :=
  (served_writeControlStream env (e := d.endpoints.selectEndpoint 0) rfl .report
    (callbackHIDDeviceCreateHIDReport env.buttons d).1.bytes d.request.wLength).after d.endpoints le_rfl rfl

/-- The packets for the interface that the handler takes, code by code as the switch tests them. -/
theorem Hid.claims_switch {r : Request} (hIndex : r.wIndex = hidInterfaceNumber) :
    claims r =
      if r.bRequest = hidReqGetReport then r.bmRequestType == fromInterface
      else if r.bRequest = hidReqSetReport then r.bmRequestType == toInterface
      else if r.bRequest = hidReqGetProtocol then r.bmRequestType == fromInterface
      else if r.bRequest = hidReqSetProtocol then r.bmRequestType == toInterface
      else if r.bRequest = hidReqSetIdle then r.bmRequestType == toInterface
      else if r.bRequest = hidReqGetIdle then r.bmRequestType == fromInterface
      else false := by
  rw [claims]
  split_ifs with hGetReport hSetReport hGetProtocol hSetProtocol hSetIdle hGetIdle
  · simp [hIndex, hGetReport, hidReqGetReport, hidReqSetReport, hidReqSetProtocol, hidReqSetIdle]
  · simp [hIndex, hSetReport, hidReqGetReport, hidReqGetProtocol, hidReqGetIdle, hidReqSetReport]
  · simp [hIndex, hGetProtocol, hidReqGetProtocol, hidReqSetReport, hidReqSetProtocol, hidReqSetIdle]
  · simp [hIndex, hSetProtocol, hidReqGetReport, hidReqGetProtocol, hidReqGetIdle, hidReqSetProtocol]
  · simp [hIndex, hSetIdle, hidReqGetReport, hidReqGetProtocol, hidReqGetIdle, hidReqSetIdle]
  · simp [hIndex, hGetIdle, hidReqGetIdle, hidReqSetReport, hidReqSetProtocol, hidReqSetIdle]
  · simp_all

theorem Hid.taken_or_unchanged (hSetup : d.endpoints.isSETUPReceived = true)
    (hSelected : d.endpoints.selected = 0) :
    Handled (Hid.claims d.request) env.nextSetup.isSome d (Hid.processControlRequest env d) := by
  have hStatus := served_statusStage env hSelected d.request
  have hAnswer := fun op hOp => served_waitWrite env hSelected d.request op hOp
  rw [Hid.processControlRequest]
  simp only [hSetup, Bool.not_true, Bool.false_eq_true, if_false]
  split
  next hIndex => exact Or.inr ⟨by simp [claims, hIndex], rfl⟩
  next hIndex =>
    rw [claims_switch (not_not.mp hIndex)]
    split
    next => exact taken_ite beq_iff_eq fun _ => (getReport_served env d).takes rfl
    split
    next => exact taken_ite beq_iff_eq fun _ => (served_readControlStream env hSelected d.request.wLength).takes rfl
    split
    next => exact taken_ite beq_iff_eq fun _ => (hAnswer _ rfl).takes rfl
    split
    next => exact taken_ite beq_iff_eq fun _ => hStatus.takes rfl
    split
    next => exact taken_ite beq_iff_eq fun _ => hStatus.takes rfl
    split
    next => exact taken_ite beq_iff_eq fun _ => (hAnswer _ rfl).takes rfl
    exact Or.inr ⟨rfl, rfl⟩

theorem AudioClass.endpointProperty_none (r : Request) (buffer : Nat → Byte) (s : AudioState) :
    endpointProperty r none buffer s =
      (s, ⟨isSamplingFreq r && (r.bRequest == audioReqSetCurrent || r.bRequest == audioReqGetCurrent), none,
        buffer⟩) := by
  rw [endpointProperty, callbackAudioDeviceGetSetEndpointProperty, isSamplingFreq]
  split_ifs <;> simp_all

theorem AudioClass.ne_getCurrent {bRequest : Byte} (hCode : isSetProperty bRequest = true) :
    bRequest ≠ audioReqGetCurrent := by
  rintro rfl
  exact absurd hCode (by decide)

theorem AudioClass.ne_setCurrent {bRequest : Byte} (hCode : isGetProperty bRequest = true) :
    bRequest ≠ audioReqSetCurrent := by
  rintro rfl
  exact absurd hCode (by decide)

theorem AudioClass.getEndpointProperty_answer {r : Request} (hCode : isGetProperty r.bRequest = true)
    (length : Word) (buffer : Nat → Byte) (s : AudioState) :
    (endpointProperty r (some length) buffer s).1 = s ∧
      ((endpointProperty r (some length) buffer s).2.ok =
        (isSamplingFreq r && r.bRequest == audioReqGetCurrent)) := by
  have hSet := ne_setCurrent hCode
  rw [endpointProperty, callbackAudioDeviceGetSetEndpointProperty, isSamplingFreq]
  split_ifs <;> simp_all

theorem AudioClass.setEndpointProperty_probe {d : Device} (hCode : isSetProperty d.request.bRequest = true) :
    endpointProperty d.request none env.stack d.audio =
      (d.audio, ⟨isSamplingFreq d.request && d.request.bRequest == audioReqSetCurrent, none, env.stack⟩) := by
  rw [endpointProperty_none, beq_false_of_ne (ne_getCurrent hCode), Bool.or_false]

theorem AudioClass.setEndpointProperty_taken (hSelected : d.endpoints.selected = 0)
    (hCode : isSetProperty d.request.bRequest = true) :
    Handled (isSamplingFreq d.request && d.request.bRequest == audioReqSetCurrent) env.nextSetup.isSome d
      (setEndpointProperty env d) := by
  rw [setEndpointProperty, setEndpointProperty_probe env hCode]
  cases isSamplingFreq d.request && d.request.bRequest == audioReqSetCurrent with
  | true =>
    exact Or.inl ⟨rfl, (served_readControlStream env hSelected d.request.wLength).takes rfl⟩
  | false => exact Or.inr ⟨rfl, rfl⟩

theorem AudioClass.getEndpointProperty_taken (hSelected : d.endpoints.selected = 0)
    (hCode : isGetProperty d.request.bRequest = true) :
    Handled (isSamplingFreq d.request && d.request.bRequest == audioReqGetCurrent) env.nextSetup.isSome d
      (getEndpointProperty env d) := by
  obtain ⟨hState, hOk⟩ := getEndpointProperty_answer hCode d.request.wLength env.stack d.audio
  rw [getEndpointProperty]
  simp only [hState, hOk]
  cases isSamplingFreq d.request && d.request.bRequest == audioReqGetCurrent with
  | true =>
    refine Or.inl ⟨rfl, ?_⟩
    rw [if_pos rfl]
    exact (served_writeControlStream env hSelected .property _ d.request.wLength).takes rfl
  | false => exact Or.inr ⟨rfl, rfl⟩

theorem AudioClass.setInterfaceProperty_eq (d : Device) : setInterfaceProperty env d = d := rfl

theorem AudioClass.getInterfaceProperty_eq (d : Device) : getInterfaceProperty env d = d := rfl

theorem AudioClass.claims_switch {r : Request} (hDirected : misdirected r = false) :
    claims r =
      if r.bRequest = reqSetInterface then r.bmRequestType == hostToDevice ||| typeStandard ||| recInterface
      else if r.bRequest = audioReqGetStatus then
        r.bmRequestType == hostToDevice ||| typeClass ||| recInterface ||
          r.bmRequestType == hostToDevice ||| typeClass ||| recEndpoint
      else if isSetProperty r.bRequest then
        (isSamplingFreq r && r.bRequest == audioReqSetCurrent) &&
          r.bmRequestType == hostToDevice ||| typeClass ||| recEndpoint
      else if isGetProperty r.bRequest then
        (isSamplingFreq r && r.bRequest == audioReqGetCurrent) &&
          r.bmRequestType == deviceToHost ||| typeClass ||| recEndpoint
      else false := by
  rw [claims, hDirected]
  split_ifs with hInterface hStatus hSet hGet
  · simp [hInterface, reqSetInterface, audioReqGetStatus, audioReqSetCurrent, audioReqGetCurrent]
  · simp [hStatus, reqSetInterface, audioReqGetStatus, audioReqSetCurrent, audioReqGetCurrent]
  · simp [beq_false_of_ne hInterface, beq_false_of_ne hStatus, beq_false_of_ne (ne_getCurrent hSet), Bool.and_comm]
  · simp [beq_false_of_ne hInterface, beq_false_of_ne hStatus, beq_false_of_ne (ne_setCurrent hGet), Bool.and_comm]
  · simp_all [isSetProperty, isGetProperty]

theorem AudioClass.taken_or_unchanged (hSetup : d.endpoints.isSETUPReceived = true)
    (hSelected : d.endpoints.selected = 0) :
    Handled (AudioClass.claims d.request) env.nextSetup.isSome d (AudioClass.processControlRequest env d) := by
  have hStatus := served_statusStage env hSelected d.request
  have hType : ∀ type, (d.request.bmRequestType == type) = true ↔ d.request.bmRequestType = type := fun _ => beq_iff_eq
  rw [AudioClass.processControlRequest]
  simp only [hSetup, Bool.not_true, Bool.false_eq_true, if_false]
  split
  next hMisdirected => exact Or.inr ⟨by simp [claims, hMisdirected], rfl⟩
  next hDirected =>
    rw [claims_switch (Bool.not_eq_true _ ▸ hDirected)]
    split
    next => exact taken_ite beq_iff_eq fun _ => hStatus.takes rfl
    split
    next =>
      refine taken_ite ?_ fun _ => hStatus.takes rfl
      rw [Bool.or_eq_true, hType, hType]
    split
    next hCode =>
      rw [setInterfaceProperty_eq, ite_self]
      refine taken_and ?_ (setEndpointProperty_taken env hSelected hCode)
      rw [Bool.and_eq_true, hType]
    split
    next hCode =>
      rw [getInterfaceProperty_eq, ite_self]
      refine taken_and ?_ (getEndpointProperty_taken env hSelected hCode)
      rw [Bool.and_eq_true, hType]
    exact Or.inr ⟨rfl, rfl⟩

namespace Standard

/-- The new configuration leaves a data endpoint selected, whose RXSTPI is never set. -/
def leaves (r : Request) : Bool := env.nextSetup.isSome && r.bRequest != reqSetConfiguration

theorem getStatus_takes (hSelected : d.endpoints.selected = 0)
    (hType : (d.request.bmRequestType == deviceToHost ||| typeStandard ||| recDevice ||
      d.request.bmRequestType == deviceToHost ||| typeStandard ||| recEndpoint) = true) :
    Takes env.nextSetup.isSome d (getStatus env d) := by
  rw [getStatus]
  split
  · exact (served_write env hSelected d.request (.write16 _) rfl).takes rfl
  split
  · exact ((served_write env (e := d.endpoints.selectEndpoint 0) rfl d.request (.write16 _) rfl).after
      d.endpoints le_rfl rfl).takes rfl
  · simp_all

theorem haltEndpoint_quiet (r : Request) {number : Byte} (h : number ≠ 0) (e : Endpoints) :
    e.accesses ≤ (haltEndpoint r number e).accesses ∧
      (haltEndpoint r number e).controlStalls = e.controlStalls := by
  rw [haltEndpoint]
  split
  · split
    · refine ⟨Nat.le_succ _, note_controlStalls .stall (e := e.selectEndpoint number) ?_⟩
      exact beq_false_of_ne h
    · exact ⟨Nat.le_add_right _ 3, rfl⟩
  · exact ⟨le_rfl, rfl⟩

theorem hasFeature_device {r : Request} (hType : r.bmRequestType = hostToDevice ||| typeStandard ||| recDevice) :
    hasFeature r = ((r.wValue.setWidth 8 : Byte) == featureSelDeviceRemoteWakeup) := by
  have hOther : (hostToDevice ||| typeStandard ||| recDevice) ≠ hostToDevice ||| typeStandard ||| recEndpoint := by
    decide
  simp [hasFeature, hType, hOther]

theorem hasFeature_endpoint {r : Request}
    (hType : r.bmRequestType = hostToDevice ||| typeStandard ||| recEndpoint) :
    hasFeature r = !((r.wValue.setWidth 8 : Byte) == featureSelEndpointHalt &&
      (r.wIndex.setWidth 8 &&& endpointEpnumMask : Byte) == 0) := by
  have hOther : (hostToDevice ||| typeStandard ||| recEndpoint) ≠ hostToDevice ||| typeStandard ||| recDevice := by
    decide
  simp [hasFeature, hType, hOther]

theorem clearSetFeature_device (hType : d.request.bmRequestType = hostToDevice ||| typeStandard ||| recDevice) :
    Handled (hasFeature d.request) env.nextSetup.isSome d (clearSetFeature env d) := by
  have hRecipient : d.request.bmRequestType &&& requestTypeRecipient = recDevice := by
    rw [hType]
    rfl
  have hFinish := served_statusStage env (e := d.endpoints.selectEndpoint 0) rfl d.request
  rw [clearSetFeature, if_pos hRecipient, hasFeature_device hType]
  exact taken_ite beq_iff_eq fun _ => (hFinish.after d.endpoints le_rfl rfl).takes rfl

theorem clearSetFeature_endpoint
    (hType : d.request.bmRequestType = hostToDevice ||| typeStandard ||| recEndpoint) :
    Handled (hasFeature d.request) env.nextSetup.isSome d (clearSetFeature env d) := by
  have hRecipient : d.request.bmRequestType &&& requestTypeRecipient = recEndpoint := by
    rw [hType]
    rfl
  have hOther : recEndpoint ≠ recDevice := by decide
  have hFinish := fun e : Endpoints => served_statusStage env (e := e.selectEndpoint 0) rfl d.request
  rw [clearSetFeature, hRecipient, if_neg hOther, if_pos rfl, hasFeature_endpoint hType]
  split
  next hSelector =>
    dsimp only
    split
    next hIndex => exact Or.inr ⟨by simp [hSelector, hIndex], rfl⟩
    next hIndex =>
      obtain ⟨hAccesses, hStalls⟩ := haltEndpoint_quiet d.request hIndex d.endpoints
      refine Or.inl ⟨?_, ((hFinish _).after d.endpoints hAccesses hStalls).takes rfl⟩
      rw [beq_false_of_ne hIndex, Bool.and_false, Bool.not_false]
  next hSelector =>
    exact Or.inl ⟨by simp [hSelector], ((hFinish d.endpoints).after d.endpoints le_rfl rfl).takes rfl⟩

theorem clearSetFeature_taken
    (hType : (d.request.bmRequestType == hostToDevice ||| typeStandard ||| recDevice ||
      d.request.bmRequestType == hostToDevice ||| typeStandard ||| recEndpoint) = true) :
    Handled (hasFeature d.request) env.nextSetup.isSome d (clearSetFeature env d) := by
  rw [Bool.or_eq_true, beq_iff_eq, beq_iff_eq] at hType
  obtain hDevice | hEndpoint := hType
  · exact clearSetFeature_device env hDevice
  · exact clearSetFeature_endpoint env hEndpoint

theorem getDescriptor_taken (hSelected : d.endpoints.selected = 0) :
    Handled (hasDescriptor d.request) env.nextSetup.isSome d (getDescriptor env d) := by
  have hSend := fun descriptor =>
    served_writeControlStream env hSelected (.descriptor descriptor) (env.descriptors descriptor) d.request.wLength
  rw [getDescriptor]
  split
  next hSerial =>
    exact Or.inl ⟨by simp [hasDescriptor, hSerial], (hSend .serial).takes rfl⟩
  next hSerial =>
    cases hFound : callbackUSBGetDescriptor d.request.wValue with
    | none => exact Or.inr ⟨by simp_all [hasDescriptor], rfl⟩
    | some descriptor => exact Or.inl ⟨by simp [hasDescriptor, hFound], (hSend descriptor).takes rfl⟩

theorem setAddress_takes (hSelected : d.endpoints.selected = 0) :
    Takes env.nextSetup.isSome d (setAddress env d) := by
  have hWait := (served_statusStage env hSelected d.request).wait env .awaitIN rfl
  rw [Option.or_self] at hWait
  exact hWait.takes rfl

theorem setConfiguration_taken (hSelected : d.endpoints.selected = 0) :
    Handled (!decide (fixedNumConfigurations < (d.request.wValue.setWidth 8 : Byte))) false d
      (setConfiguration env d) := by
  have hStatus := served_statusStage env hSelected d.request
  rw [setConfiguration]
  split
  next hAbove => exact Or.inr ⟨by simp [hAbove], rfl⟩
  next hWithin =>
    refine Or.inl ⟨by simp [hWithin], rfl, rfl, ?_, ?_⟩
    · exact Nat.lt_add_right 2 hStatus.accesses
    · exact hStatus.controlStalls

/-- The packets that the handler takes, code by code as the switch tests them. -/
theorem claims_switch (r : Request) :
    claims r =
      if r.bRequest = reqGetStatus then
        r.bmRequestType == deviceToHost ||| typeStandard ||| recDevice ||
          r.bmRequestType == deviceToHost ||| typeStandard ||| recEndpoint
      else if r.bRequest = reqClearFeature ∨ r.bRequest = reqSetFeature then hasFeature r
      else if r.bRequest = reqSetAddress then r.bmRequestType == hostToDevice ||| typeStandard ||| recDevice
      else if r.bRequest = reqGetDescriptor then
        hasDescriptor r && (r.bmRequestType == deviceToHost ||| typeStandard ||| recDevice ||
          r.bmRequestType == deviceToHost ||| typeStandard ||| recInterface)
      else if r.bRequest = reqGetConfiguration then r.bmRequestType == deviceToHost ||| typeStandard ||| recDevice
      else if r.bRequest = reqSetConfiguration then
        !decide (fixedNumConfigurations < (r.wValue.setWidth 8 : Byte)) &&
          r.bmRequestType == hostToDevice ||| typeStandard ||| recDevice
      else false := by
  rw [claims]
  split_ifs with hStatus hFeature hAddress hDescriptor hGetConfiguration hSetConfiguration
  · simp [hStatus, reqGetStatus, reqClearFeature, reqSetFeature, reqSetAddress, reqGetDescriptor, reqGetConfiguration,
      reqSetConfiguration]
  · obtain hClear | hSet := hFeature
    · simp [hClear, reqGetStatus, reqClearFeature, reqSetAddress, reqGetDescriptor, reqGetConfiguration,
        reqSetConfiguration]
    · simp [hSet, reqGetStatus, reqClearFeature, reqSetFeature, reqSetAddress, reqGetDescriptor, reqGetConfiguration,
        reqSetConfiguration]
  · simp [hAddress, reqGetStatus, reqClearFeature, reqSetFeature, reqSetAddress, reqGetDescriptor, reqGetConfiguration,
      reqSetConfiguration]
  · simp [hDescriptor, reqGetStatus, reqClearFeature, reqSetFeature, reqSetAddress, reqGetDescriptor,
      reqGetConfiguration, reqSetConfiguration, Bool.and_comm]
  · simp [hGetConfiguration, reqGetStatus, reqClearFeature, reqSetFeature, reqSetAddress, reqGetDescriptor,
      reqGetConfiguration, reqSetConfiguration]
  · simp [hSetConfiguration, reqGetStatus, reqClearFeature, reqSetFeature, reqSetAddress, reqGetDescriptor,
      reqGetConfiguration, reqSetConfiguration, Bool.and_comm]
  · simp_all

theorem leaves_of_code {code : Byte} {r : Request} (hCode : r.bRequest = code) (hOther : code ≠ reqSetConfiguration) :
    leaves env r = env.nextSetup.isSome := by
  rw [leaves, hCode, bne_iff_ne.mpr hOther, Bool.and_true]

theorem taken_or_unchanged (hSelected : d.endpoints.selected = 0) :
    Handled (claims d.request) (leaves env d.request) d (processControlRequest env d) := by
  rw [processControlRequest, claims_switch]
  dsimp only
  split
  next hCode =>
    rw [leaves_of_code env hCode (by decide)]
    exact taken_ite Iff.rfl (getStatus_takes env hSelected)
  split
  next hCode =>
    have hLeaves : leaves env d.request = env.nextSetup.isSome :=
      hCode.elim (fun h => leaves_of_code env h (by decide)) (fun h => leaves_of_code env h (by decide))
    rw [hLeaves]
    split
    next hType => exact clearSetFeature_taken env hType
    next hType => exact Or.inr ⟨by simp_all [hasFeature], rfl⟩
  split
  next hCode =>
    rw [leaves_of_code env hCode (by decide)]
    exact taken_ite Iff.rfl fun _ => setAddress_takes env hSelected
  split
  next hCode =>
    rw [leaves_of_code env hCode (by decide)]
    exact taken_and (Bool.and_eq_true_iff ..) (getDescriptor_taken env hSelected)
  split
  next hCode =>
    rw [leaves_of_code env hCode (by decide)]
    exact taken_ite Iff.rfl fun _ => (served_write env hSelected d.request _ rfl).takes rfl
  split
  next hCode =>
    have hLeaves : leaves env d.request = false := by simp [leaves, hCode]
    rw [hLeaves]
    exact taken_and (Bool.and_eq_true_iff ..) (setConfiguration_taken env hSelected)
  exact Or.inr ⟨rfl, rfl⟩

end Standard

inductive Handler where
  | vendor
  | hid
  | audio
  | standard

def Handler.run (r : Request) : Handler → Device → Device
  | .vendor, d => if accepts r then vendorRequest env d else d
  | .hid, d => if accepts r then d else Hid.processControlRequest env d
  | .audio, d => if accepts r then d else AudioClass.processControlRequest env d
  | .standard, d => if d.endpoints.isSETUPReceived then Standard.processControlRequest env d else d

def taken (r : Request) (d : Device) : Device :=
  { (receive r d).control (·.selectEndpoint 0) with request := r }

def Handler.entry (r : Request) (d : Device) : Handler → Device
  | .vendor => taken r d
  | .hid => Handler.vendor.run env r (taken r d)
  | .audio => Handler.hid.run env r (Handler.vendor.run env r (taken r d))
  | .standard => Handler.audio.run env r (Handler.hid.run env r (Handler.vendor.run env r (taken r d)))

def Handler.exit (r : Request) (d : Device) (handler : Handler) : Device :=
  handler.run env r (handler.entry env r d)

def Handler.Acts (r : Request) (d : Device) (handler : Handler) : Prop :=
  handler.exit env r d ≠ handler.entry env r d

theorem processControlRequest_taken (r : Request) (d : Device) :
    processControlRequest env (taken r d) =
      if (Handler.standard.exit env r d).endpoints.isSETUPReceived then
        (Handler.standard.exit env r d).control (·.stallTransaction.clearSETUP)
      else Handler.standard.exit env r d := by
  have hEvent : eventUSBDeviceControlRequest env (taken r d) = Handler.standard.entry env r d := by
    rw [eventUSBDeviceControlRequest, Handler.entry, Handler.run, Handler.run, Handler.run]
    by_cases h : accepts r
    · rw [if_pos h, if_pos h, if_pos h]
      exact if_pos h
    · rw [if_neg h, if_neg h, if_neg h]
      exact if_neg h
  rw [processControlRequest, hEvent]
  rfl

/-- The dispatch contract for one packet. -/
structure Dispatched (r : Request) (d : Device) : Prop where
  single : ∀ handler other : Handler, handler.Acts env r d → other.Acts env r d → handler = other
  cleared : ∀ handler : Handler, handler.Acts env r d →
    (handler.exit env r d).endpoints.isSETUPReceived = false
  noFallThrough : ∀ handler : Handler, handler.Acts env r d → handler ≠ .standard →
    (Handler.standard.entry env r d).endpoints.isSETUPReceived = false
  notStalled : ∀ handler : Handler, handler.Acts env r d →
    (processControlRequest env (taken r d)).endpoints.controlStalls = d.endpoints.controlStalls
  completed : accepts r → env.detached = false →
    (processControlRequest env (taken r d)).endpoints.log.head? = some (0, .clearIN)

/-- Some class or standard handler takes the packet, and still waits on the control endpoint at its end. -/
def awaits (r : Request) : Bool :=
  Hid.claims r || AudioClass.claims r || Standard.claims r && r.bRequest != reqSetConfiguration

def Overtaken (r : Request) : Prop := (env.nextSetup.isSome && awaits r) = true

theorem vendorRequest_endpoints (d : Device) :
    (vendorRequest env d).endpoints = d.endpoints.clearStatusStage env d.request := by
  rw [vendorRequest]
  split <;> rfl

theorem clearStatusStage_keeps (r : Request) {e : Endpoints} (h : e.isSETUPReceived = true) :
    (e.clearStatusStage env r).isSETUPReceived = true ∧
      e.accesses < (e.clearStatusStage env r).accesses := by
  rw [isSETUPReceived, Bool.and_eq_true] at h
  have hKept : ∀ op, (e.wait env op).isSETUPReceived = true := by
    intro op
    rw [isSETUPReceived, Bool.and_eq_true]
    refine ⟨h.1, ?_⟩
    rw [wait, Option.isSome_or, h.2, Bool.or_true]
  rw [clearStatusStage]
  split
  · cases env.detached with
    | true => exact ⟨hKept .awaitOUT, Nat.lt_succ_self _⟩
    | false => exact ⟨hKept .awaitOUT, Nat.lt_add_of_pos_right Nat.two_pos⟩
  · cases env.detached with
    | true => exact ⟨hKept .awaitIN, Nat.lt_succ_self _⟩
    | false => exact ⟨hKept .awaitIN, Nat.lt_add_of_pos_right Nat.two_pos⟩

variable {env} {r : Request}

theorem not_dispatched_of_accepts (h : accepts r) (d : Device) : ¬ Dispatched env r d := by
  have hExit : Handler.vendor.exit env r d = vendorRequest env (taken r d) := if_pos h
  obtain ⟨hKept, hAccesses⟩ := clearStatusStage_keeps env r
    (rfl : (taken r d).endpoints.isSETUPReceived = true)
  intro hDispatched
  have hActs : Handler.vendor.Acts env r d := by
    intro hSame
    have hEndpoints := congrArg Device.endpoints (hExit.symm.trans hSame)
    rw [vendorRequest_endpoints] at hEndpoints
    exact absurd (congrArg accesses hEndpoints) hAccesses.ne'
  have hCleared := hDispatched.cleared .vendor hActs
  rw [hExit, vendorRequest_endpoints] at hCleared
  exact Bool.false_ne_true (hCleared.symm.trans hKept)

theorem dispatched_iff_of_takes (handler : Handler) (hAccepts : ¬ accepts r)
    (hEntry : handler.entry env r d = taken r d)
    (h : Takes (env.nextSetup.isSome && awaits r) (handler.entry env r d) (handler.exit env r d))
    (hOthers : (handler.exit env r d).endpoints.isSETUPReceived = false →
      ∀ other : Handler, other ≠ handler → ¬ other.Acts env r d)
    (hLast : (handler.exit env r d).endpoints.isSETUPReceived = false →
      handler ≠ .standard → Handler.standard.entry env r d = handler.exit env r d)
    (hFinal : (handler.exit env r d).endpoints.isSETUPReceived = false →
      Handler.standard.exit env r d = handler.exit env r d) :
    Dispatched env r d ↔ ¬ Overtaken env r := by
  rw [Overtaken]
  cases hFlag : env.nextSetup.isSome && awaits r with
  | true =>
    rw [hFlag] at h
    refine iff_of_false ?_ (not_not.mpr rfl)
    intro hDispatched
    have hCleared := hDispatched.cleared handler h.changes
    rw [h.flag] at hCleared
    exact Bool.false_ne_true hCleared.symm
  | false =>
    rw [hFlag] at h
    have hSole : ∀ other : Handler, other.Acts env r d → other = handler := by
      intro other hActs
      by_contra hOther
      exact hOthers h.flag other hOther hActs
    refine iff_of_true ⟨?_, ?_, ?_, ?_, fun hYes => absurd hYes hAccepts⟩ Bool.false_ne_true
    · intro first second hFirst hSecond
      rw [hSole first hFirst, hSole second hSecond]
    · intro other hActs
      rw [hSole other hActs]
      exact h.flag
    · intro other hActs hOther
      rw [hSole other hActs] at hOther
      rw [hLast h.flag hOther]
      exact h.flag
    · intro other hActs
      rw [processControlRequest_taken, hFinal h.flag, h.flag, if_neg Bool.false_ne_true, h.controlStalls,
        hEntry]
      rfl

theorem dispatched_of_silent (hAccepts : ¬ accepts r) (h : ∀ handler : Handler, ¬ handler.Acts env r d) :
    Dispatched env r d where
  single := fun handler _ hActs _ => absurd hActs (h handler)
  cleared := fun handler hActs => absurd hActs (h handler)
  noFallThrough := fun handler hActs _ => absurd hActs (h handler)
  notStalled := fun handler hActs => absurd hActs (h handler)
  completed := fun hYes => absurd hYes hAccepts

theorem audio_idle {d : Device} (h : d.endpoints.isSETUPReceived = false) :
    AudioClass.processControlRequest env d = d := by
  rw [AudioClass.processControlRequest, h]
  rfl

theorem standard_idle {d : Device} (h : d.endpoints.isSETUPReceived = false) :
    Handler.standard.run env r d = d := by
  rw [Handler.run, h]
  rfl

theorem vendor_idle (hAccepts : ¬ accepts r) : ¬ Handler.vendor.Acts env r d :=
  not_not.mpr (if_neg hAccepts)

theorem hid_entry (hAccepts : ¬ accepts r) : Handler.hid.entry env r d = taken r d := if_neg hAccepts

theorem hid_exit (hAccepts : ¬ accepts r) :
    Handler.hid.exit env r d = Hid.processControlRequest env (taken r d) := by
  rw [Handler.exit, hid_entry hAccepts]
  exact if_neg hAccepts

theorem audio_exit (hAccepts : ¬ accepts r) :
    Handler.audio.exit env r d = AudioClass.processControlRequest env (Handler.hid.exit env r d) :=
  if_neg hAccepts

theorem standard_entry : Handler.standard.entry env r d = Handler.audio.exit env r d := rfl

theorem dispatched_iff_of_hid (hAccepts : ¬ accepts r) (hClaims : Hid.claims r = true)
    (h : Takes env.nextSetup.isSome (taken r d) (Hid.processControlRequest env (taken r d))) :
    Dispatched env r d ↔ ¬ Overtaken env r := by
  have hFlag : (env.nextSetup.isSome && awaits r) = env.nextSetup.isSome := by
    rw [awaits, hClaims, Bool.true_or, Bool.true_or, Bool.and_true]
  rw [← hid_exit hAccepts, ← hid_entry hAccepts, ← hFlag] at h
  have hAudio : (Handler.hid.exit env r d).endpoints.isSETUPReceived = false →
      Handler.audio.exit env r d = Handler.hid.exit env r d := fun hClear => by
    rw [audio_exit hAccepts, audio_idle hClear]
  have hStandard : (Handler.hid.exit env r d).endpoints.isSETUPReceived = false →
      Handler.standard.exit env r d = Handler.hid.exit env r d := fun hClear => by
    rw [Handler.exit, standard_entry, hAudio hClear, standard_idle hClear]
  refine dispatched_iff_of_takes .hid hAccepts (hid_entry hAccepts) h ?_ (fun hClear _ => hAudio hClear) hStandard
  intro hClear other hOther
  cases other with
  | vendor => exact vendor_idle hAccepts
  | hid => exact absurd rfl hOther
  | audio => exact not_not.mpr (hAudio hClear)
  | standard => exact not_not.mpr ((hStandard hClear).trans (hAudio hClear).symm)

theorem dispatched_iff_of_audio (hAccepts : ¬ accepts r) (hHid : Handler.hid.exit env r d = taken r d)
    (hClaims : AudioClass.claims r = true)
    (h : Takes env.nextSetup.isSome (taken r d) (AudioClass.processControlRequest env (taken r d))) :
    Dispatched env r d ↔ ¬ Overtaken env r := by
  have hFlag : (env.nextSetup.isSome && awaits r) = env.nextSetup.isSome := by
    rw [awaits, hClaims, Bool.or_true, Bool.true_or, Bool.and_true]
  have hExit : Handler.audio.exit env r d = AudioClass.processControlRequest env (taken r d) := by
    rw [audio_exit hAccepts, hHid]
  rw [← hExit, ← hHid, ← hFlag] at h
  have hStandard : (Handler.audio.exit env r d).endpoints.isSETUPReceived = false →
      Handler.standard.exit env r d = Handler.audio.exit env r d := standard_idle
  refine dispatched_iff_of_takes .audio hAccepts hHid h ?_ (fun _ _ => rfl) hStandard
  intro hClear other hOther
  cases other with
  | vendor => exact vendor_idle hAccepts
  | hid => exact not_not.mpr (hHid.trans (hid_entry hAccepts).symm)
  | audio => exact absurd rfl hOther
  | standard => exact not_not.mpr (hStandard hClear)

theorem dispatched_iff_of_standard (hAccepts : ¬ accepts r) (hHid : Handler.hid.exit env r d = taken r d)
    (hAudio : Handler.audio.exit env r d = taken r d)
    (hOthers : Hid.claims r = false ∧ AudioClass.claims r = false)
    (hClaims : Standard.claims r = true)
    (h : Takes (Standard.leaves env r) (taken r d) (Standard.processControlRequest env (taken r d))) :
    Dispatched env r d ↔ ¬ Overtaken env r := by
  have hFlag : (env.nextSetup.isSome && awaits r) = Standard.leaves env r := by
    rw [awaits, hOthers.1, hOthers.2, hClaims]
    rfl
  have hExit : Handler.standard.exit env r d = Standard.processControlRequest env (taken r d) := by
    rw [Handler.exit, standard_entry, hAudio]
    rfl
  rw [← hExit, ← hAudio, ← hFlag] at h
  refine dispatched_iff_of_takes .standard hAccepts hAudio h ?_ (fun _ hOther => absurd rfl hOther) (fun _ => rfl)
  intro hClear other hOther
  cases other with
  | vendor => exact vendor_idle hAccepts
  | hid => exact not_not.mpr (hHid.trans (hid_entry hAccepts).symm)
  | audio => exact not_not.mpr (hAudio.trans hHid.symm)
  | standard => exact absurd rfl hOther

/-- The contract holds of every packet but the accepted vendor writes and the packets that the host
does not wait for. -/
theorem dispatched_iff (env : Environment) (r : Request) (d : Device) :
    Dispatched env r d ↔ ¬ accepts r ∧ ¬ Overtaken env r := by
  by_cases hAccepts : accepts r
  · exact iff_of_false (not_dispatched_of_accepts hAccepts d) fun h => h.1 hAccepts
  rw [and_iff_right hAccepts]
  obtain ⟨hClaims, hTakes⟩ | ⟨hHidClaims, hHid⟩ := Hid.taken_or_unchanged env (d := taken r d) rfl rfl
  · exact dispatched_iff_of_hid hAccepts hClaims hTakes
  rw [← hid_exit hAccepts] at hHid
  obtain ⟨hClaims, hTakes⟩ | ⟨hAudioClaims, hAudio⟩ :=
    AudioClass.taken_or_unchanged env (d := taken r d) rfl rfl
  · exact dispatched_iff_of_audio hAccepts hHid hClaims hTakes
  rw [← hHid, ← audio_exit hAccepts, hHid] at hAudio
  obtain ⟨hClaims, hTakes⟩ | ⟨hClaims, hStandard⟩ := Standard.taken_or_unchanged env (d := taken r d) rfl
  · exact dispatched_iff_of_standard hAccepts hHid hAudio ⟨hHidClaims, hAudioClaims⟩ hClaims hTakes
  have hOvertaken : ¬ Overtaken env r := by
    have hAwaits : awaits r = false := by
      rw [awaits, show Hid.claims r = false from hHidClaims, show AudioClass.claims r = false from hAudioClaims,
        show Standard.claims r = false from hClaims]
      rfl
    rw [Overtaken, hAwaits, Bool.and_false]
    exact Bool.false_ne_true
  refine iff_of_true (dispatched_of_silent hAccepts ?_) hOvertaken
  intro handler
  cases handler with
  | vendor => exact vendor_idle hAccepts
  | hid => exact not_not.mpr (hHid.trans (hid_entry hAccepts).symm)
  | audio => exact not_not.mpr (hAudio.trans hHid.symm)
  | standard =>
    refine not_not.mpr ?_
    rw [Handler.exit, standard_entry, hAudio]
    exact hStandard

end

/-- The first vendor write after reset, of 7 to cell 3: it is carried out, and ends in a stall. -/
theorem vendor_write_stalled :
    (processControlRequest patient (taken ⟨64, 3, 7, 0, 0⟩ initial)).data 3 = 7 ∧
      (processControlRequest patient (taken ⟨64, 3, 7, 0, 0⟩ initial)).endpoints.controlStalls = 1 ∧
      ¬ Dispatched patient ⟨64, 3, 7, 0, 0⟩ initial :=
  ⟨rfl, rfl, not_dispatched_of_accepts ⟨rfl, by decide⟩ initial⟩

end WheelDisplay.Usb
