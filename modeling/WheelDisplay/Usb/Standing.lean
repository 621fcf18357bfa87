import WheelDisplay.Usb.Globals

/-! # What the host has set and what it is told

The host sets the idle period, the protocol and the configuration, and asks for them
again. `told` collects, of all that goes to the endpoints, the reports and the single
bytes, which are the answers to these questions.
-/

namespace WheelDisplay.Usb

deriving instance DecidableEq for Report

/-- A report goes out as a packet, which a control transfer may have cut. -/
inductive Told where
  | report (endpoint : Byte) (packet : List Byte)
  | byte (endpoint : Byte) (value : Byte)

def tellOf : Byte × Op → List Told
  | (endpoint, .writeReport report) => [.report endpoint report.bytes]
  | (endpoint, .writeStream .report packets) => packets.map (.report endpoint)
  | (endpoint, .write8 value) => [.byte endpoint value]
  | _ => []

namespace Endpoints

/-- The latest first, like the log. -/
def told (e : Endpoints) : List Told := e.log.flatMap fun entry => (tellOf entry).reverse

variable (e : Endpoints) (env : Environment)

@[simp] theorem selected_clearSETUP : e.clearSETUP.selected = e.selected := rfl

@[simp] theorem selected_waitINReady : (e.waitINReady env).selected = e.selected := rfl

@[simp] theorem told_selectEndpoint (number : Byte) : (e.selectEndpoint number).told = e.told := rfl

@[simp] theorem told_clearSETUP : e.clearSETUP.told = e.told := rfl

@[simp] theorem told_clearIN : e.clearIN.told = e.told := rfl

@[simp] theorem told_clearOUT : e.clearOUT.told = e.told := rfl

@[simp] theorem told_waitINReady : (e.waitINReady env).told = e.told := rfl

@[simp] theorem told_write8 (value : Byte) : (e.note (.write8 value)).told = .byte e.selected value :: e.told := rfl

@[simp] theorem told_write16 (value : Word) : (e.note (.write16 value)).told = e.told := rfl

@[simp] theorem told_sendDescriptor (descriptor : Descriptor) (stream : List Byte) (wLength : Word) :
    (e.writeControlStream env (.descriptor descriptor) stream wLength).told = e.told := rfl

@[simp] theorem told_stallTransaction : e.stallTransaction.told = e.told := rfl

@[simp] theorem told_configureEndpoint (number : Byte) : (e.configureEndpoint number).told = e.told := rfl

@[simp] theorem told_clearStatusStage (r : Request) : (e.clearStatusStage env r).told = e.told := by
  rw [clearStatusStage]
  split <;> cases env.detached <;> rfl

theorem told_haltEndpoint (r : Request) (number : Byte) : (Standard.haltEndpoint r number e).told = e.told := by
  rw [Standard.haltEndpoint]
  split
  · split <;> rfl
  · rfl

end Endpoints

structure Standing where
  hid : HidState
  prevReport : Report
  configurationNumber : Byte
  told : List Told

def Device.standing (d : Device) : Standing := ⟨d.hid, d.prevReport, d.configurationNumber, d.endpoints.told⟩

/-- A request of the HID class for the interface. -/
def isHid (code type : Byte) (r : Request) : Prop :=
  r.wIndex = hidInterfaceNumber ∧ r.bRequest = code ∧ r.bmRequestType = type

instance (code type : Byte) (r : Request) : Decidable (isHid code type r) := inferInstanceAs (Decidable (_ ∧ _))

/-- A case that also looks at the type, where no later case takes its code. -/
theorem ite_case {α : Type*} {code type : Prop} [Decidable code] [Decidable type] {served unserved rest : α}
    (h : code → rest = unserved) :
    (if code then if type then served else unserved else rest) = if code ∧ type then served else rest := by
  split_ifs with hCode hType hBoth hBoth
  · rfl
  · exact absurd ⟨hCode, hType⟩ hBoth
  · exact absurd hBoth.2 hType
  · exact (h hCode).symm
  · exact absurd (And.left ‹_›) hCode
  · rfl

theorem Hid.processControlRequest_eq (env : Environment) {d : Device} (h : d.endpoints.isSETUPReceived = true) :
    Hid.processControlRequest env d =
      if isHid hidReqGetReport fromInterface d.request then getReport env d
      else if isHid hidReqSetReport toInterface d.request then setReport env d
      else if isHid hidReqGetProtocol fromInterface d.request then getProtocol env d
      else if isHid hidReqSetProtocol toInterface d.request then setProtocol env d
      else if isHid hidReqSetIdle toInterface d.request then setIdle env d
      else if isHid hidReqGetIdle fromInterface d.request then getIdle env d
      else d := by
  simp only [Hid.processControlRequest, h, isHid, Bool.not_true, Bool.false_eq_true, if_false, ne_eq]
  obtain hIndex | hIndex := eq_or_ne d.request.wIndex hidInterfaceNumber
  · simp only [hIndex, not_true_eq_false, if_false, true_and]
    rw [ite_case, ite_case, ite_case, ite_case, ite_case, ite_case]
    all_goals
      intro hCode
      simp [hCode, hidReqGetReport, hidReqSetReport, hidReqGetProtocol, hidReqSetProtocol, hidReqSetIdle,
        hidReqGetIdle]
  · simp only [hIndex, not_false_eq_true, if_true, false_and, if_false]

namespace Standing

def tell (message : Told) (s : Standing) : Standing := { s with told := message :: s.told }

/-- GET_REPORT is answered by the report that it samples, cut to what was asked for. -/
def requestReport (buttons : Byte) (answered : Bool) (wLength : Word) (s : Standing) : Standing :=
  let report : Report := ⟨buttons.setWidth 16, 0⟩
  if wLength ≠ 0 ∧ answered = true then
    { s with prevReport := report }.tell (.report 0 (report.bytes.take wLength.toNat))
  else { s with prevReport := report }

def requestHid (buttons : Byte) (answered : Bool) (r : Request) (s : Standing) : Standing :=
  if isHid hidReqGetReport Hid.fromInterface r then s.requestReport buttons answered r.wLength
  else if isHid hidReqGetProtocol Hid.fromInterface r then s.tell (.byte 0 (if s.hid.usingReportProtocol then 1 else 0))
  else if isHid hidReqSetProtocol Hid.toInterface r then
    { s with hid := { s.hid with usingReportProtocol := r.wValue &&& 0xFF != 0 } }
  else if isHid hidReqSetIdle Hid.toInterface r then
    { s with hid := { s.hid with idleCount := (r.wValue &&& 0xFF00) >>> 6 } }
  else if isHid hidReqGetIdle Hid.fromInterface r then s.tell (.byte 0 ((s.hid.idleCount >>> 2).setWidth 8))
  else s

def isGetConfiguration (r : Request) : Prop :=
  r.bRequest = reqGetConfiguration ∧ r.bmRequestType = deviceToHost ||| typeStandard ||| recDevice

instance (r : Request) : Decidable (isGetConfiguration r) := inferInstanceAs (Decidable (_ ∧ _))

def isSetConfiguration (r : Request) : Prop :=
  r.bRequest = reqSetConfiguration ∧ r.bmRequestType = hostToDevice ||| typeStandard ||| recDevice ∧
    ¬ fixedNumConfigurations < (r.wValue.setWidth 8 : Byte)

instance (r : Request) : Decidable (isSetConfiguration r) := inferInstanceAs (Decidable (_ ∧ _ ∧ _))

def requestStandard (r : Request) (s : Standing) : Standing :=
  if isGetConfiguration r then s.tell (.byte 0 s.configurationNumber)
  else if isSetConfiguration r then { s with hid := ⟨true, 0, 500, 0⟩, configurationNumber := r.wValue.setWidth 8 }
  else s

def request (buttons : Byte) (answered : Bool) (r : Request) (s : Standing) : Standing :=
  (s.requestHid buttons answered r).requestStandard r

def poll (frameNumber : Word) (buttons : Byte) (s : Standing) : Standing :=
  let report : Report := ⟨buttons.setWidth 16, 0⟩
  if report ≠ s.prevReport ∨ Hid.idlePeriodElapsed s.hid = true then
    { s with
      prevReport := report
      hid := { s.hid with idleMSRemaining := s.hid.idleCount, prevFrameNum := frameNumber } }.tell
        (.report 1 report.bytes)
  else { s with prevReport := report, hid := { s.hid with prevFrameNum := frameNumber } }

end Standing

section Drivers

variable (env : Environment) {d : Device}

theorem control_standing {f : Endpoints → Endpoints} {d : Device} (h : (f d.endpoints).told = d.endpoints.told) :
    (d.control f).standing = d.standing := by
  rw [Device.standing, Device.standing, Device.control, h]

theorem selected_of_received {e : Endpoints} (h : e.isSETUPReceived = true) : e.selected = 0 :=
  eq_of_beq (Bool.and_eq_true_iff.mp h).1

/-- A report fits one packet, so the data stage sends one or none. -/
theorem sent_report (report : Report) (wLength : Word) :
    env.sent report.bytes wLength =
      if wLength ≠ 0 ∧ offered env.polls = true then [report.bytes.take wLength.toNat] else [] := by
  have hShort : report.bytes.length < controlEndpointSize := by
    rw [report.bytes_length]
    decide
  exact Writing.sent_short (List.cons_ne_nil _ _) hShort wLength env.polls

theorem Hid.getReport_standing (d : Device) :
    (getReport env d).standing = d.standing.requestReport env.buttons (offered env.polls) d.request.wLength := by
  have hTold : (getReport env d).endpoints.told =
      ((env.sent (⟨env.buttons.setWidth 16, 0⟩ : Report).bytes d.request.wLength).map (.report 0)).reverse ++
        d.endpoints.told := rfl
  rw [Device.standing, hTold, sent_report, Standing.requestReport]
  split <;> rfl

theorem Hid.processControlRequest_standing (h : d.endpoints.isSETUPReceived = true) :
    (Hid.processControlRequest env d).standing =
      d.standing.requestHid env.buttons (offered env.polls) d.request := by
  have hSelected := selected_of_received h
  rw [Hid.processControlRequest_eq env h, Standing.requestHid]
  split
  · exact getReport_standing env d
  split
  next hSetReport =>
    have hOther : ∀ {code type : Byte}, code ≠ hidReqSetReport → ¬ isHid code type d.request :=
      fun hNe hIs => hNe (hIs.2.1.symm.trans hSetReport.2.1)
    rw [if_neg (hOther (by decide)), if_neg (hOther (by decide)), if_neg (hOther (by decide)),
      if_neg (hOther (by decide))]
    rfl
  split
  next =>
    simp [getProtocol, Device.standing, Device.control, Standing.tell, hSelected]
    rfl
  split
  next => simp [setProtocol, Device.standing, Device.control]
  split
  next => simp [setIdle, Device.standing, Device.control]
  split
  next => simp [getIdle, Device.standing, Device.control, Standing.tell, hSelected]
  next => rfl

theorem AudioClass.processControlRequest_standing : (AudioClass.processControlRequest env d).standing = d.standing := by
  have hInterface : (setInterface env d).standing = d.standing := by
    simp [setInterface, Device.standing, Device.control]
  have hStatus : (getStatus env d).standing = d.standing := control_standing (by simp)
  have hSet : (setEndpointProperty env d).standing = d.standing := by
    simp only [setEndpointProperty]
    split <;> rfl
  have hGet : (getEndpointProperty env d).standing = d.standing := by
    simp only [getEndpointProperty]
    split <;> rfl
  rw [processControlRequest]
  split_ifs <;> first | rfl | assumption

theorem Standard.getStatus_standing : (getStatus env d).standing = d.standing := by
  rw [getStatus]
  split
  · exact control_standing (by simp)
  split
  · exact control_standing (by simp)
  · rfl

theorem Standard.clearSetFeature_standing : (clearSetFeature env d).standing = d.standing := by
  simp only [clearSetFeature]
  split_ifs
  · exact control_standing (by simp)
  · rfl
  · rfl
  · exact (control_standing (by simp)).trans (control_standing (Endpoints.told_haltEndpoint ..))
  · exact control_standing (by simp)
  · rfl

theorem Standard.setAddress_standing : (setAddress env d).standing = d.standing := by
  simp [setAddress, Device.standing, Device.control]

theorem Standard.getDescriptor_standing : (getDescriptor env d).standing = d.standing := by
  rw [getDescriptor]
  split
  · exact control_standing (by simp)
  split
  · rfl
  · exact control_standing (by simp)

theorem Standard.getConfiguration_standing (h : d.endpoints.selected = 0) :
    (getConfiguration env d).standing = d.standing.tell (.byte 0 d.configurationNumber) := by
  simp [getConfiguration, Device.standing, Device.control, Standing.tell, h]

theorem Standard.setConfiguration_standing (hSmall : ¬ fixedNumConfigurations < (d.request.wValue.setWidth 8 : Byte)) :
    (setConfiguration env d).standing =
      { d.standing with hid := ⟨true, 0, 500, 0⟩, configurationNumber := d.request.wValue.setWidth 8 } := by
  rw [setConfiguration, if_neg hSmall]
  simp [Device.standing, Device.control, eventUSBDeviceConfigurationChanged, AudioClass.configureEndpoints,
    Hid.configureEndpoints]

theorem Standard.processControlRequest_standing (h : d.endpoints.selected = 0) :
    (Standard.processControlRequest env d).standing = d.standing.requestStandard d.request := by
  have hSilent : d.request.bRequest ≠ reqGetConfiguration → d.request.bRequest ≠ reqSetConfiguration →
      d.standing.requestStandard d.request = d.standing := by
    intro hGet hSet
    rw [Standing.requestStandard, if_neg fun hIs => hGet hIs.1, if_neg fun hIs => hSet hIs.1]
  rw [processControlRequest]
  dsimp only
  split
  next hCode =>
    rw [hSilent (by rw [hCode]; decide) (by rw [hCode]; decide)]
    split <;> first | exact getStatus_standing env | rfl
  split
  next hCode =>
    rw [hSilent (by obtain hCode | hCode := hCode <;> rw [hCode] <;> decide)
      (by obtain hCode | hCode := hCode <;> rw [hCode] <;> decide)]
    split <;> first | exact clearSetFeature_standing env | rfl
  split
  next hCode =>
    rw [hSilent (by rw [hCode]; decide) (by rw [hCode]; decide)]
    split <;> first | exact setAddress_standing env | rfl
  split
  next hCode =>
    rw [hSilent (by rw [hCode]; decide) (by rw [hCode]; decide)]
    split <;> first | exact getDescriptor_standing env | rfl
  split
  next hCode =>
    rw [Standing.requestStandard, if_neg (c := Standing.isSetConfiguration d.request) fun hIs =>
      absurd (hIs.1.symm.trans hCode) (by decide)]
    split
    next hType =>
      rw [if_pos ⟨hCode, eq_of_beq hType⟩, getConfiguration_standing env h]
      rfl
    next hType => rw [if_neg fun hIs : Standing.isGetConfiguration d.request => hType (beq_iff_eq.mpr hIs.2)]
  split
  next hCode =>
    rw [Standing.requestStandard, if_neg (c := Standing.isGetConfiguration d.request) fun hIs =>
      absurd (hIs.1.symm.trans hCode) (by decide)]
    split
    next hType =>
      by_cases hLarge : fixedNumConfigurations < (d.request.wValue.setWidth 8 : Byte)
      · rw [if_neg fun hIs : Standing.isSetConfiguration d.request => hIs.2.2 hLarge, setConfiguration, if_pos hLarge]
      · rw [if_pos ⟨hCode, eq_of_beq hType, hLarge⟩, setConfiguration_standing env hLarge]
    next hType => rw [if_neg fun hIs : Standing.isSetConfiguration d.request => hType (beq_iff_eq.mpr hIs.2.1)]
  next hGet hSet => rw [hSilent hGet hSet]

theorem event_request : (eventUSBDeviceControlRequest env d).request = d.request := by
  have hHid : (Hid.processControlRequest env d).request = d.request := by
    rw [Hid.processControlRequest]
    split_ifs <;> rfl
  have hVendor : (vendorRequest env d).request = d.request := by
    rw [vendorRequest]
    split <;> rfl
  have hAudio : ∀ d : Device, (AudioClass.processControlRequest env d).request = d.request := by
    intro d
    have hSet : (AudioClass.setEndpointProperty env d).request = d.request := by
      simp only [AudioClass.setEndpointProperty]
      split <;> rfl
    have hGet : (AudioClass.getEndpointProperty env d).request = d.request := by
      simp only [AudioClass.getEndpointProperty]
      split <;> rfl
    rw [AudioClass.processControlRequest]
    split_ifs <;> first | rfl | assumption
  rw [eventUSBDeviceControlRequest]
  split
  · exact hVendor
  · rw [hAudio, hHid]

theorem requestHid_of_type {r : Request} (hFrom : r.bmRequestType ≠ Hid.fromInterface)
    (hTo : r.bmRequestType ≠ Hid.toInterface) (buttons : Byte) (answered : Bool) (s : Standing) :
    s.requestHid buttons answered r = s := by
  rw [Standing.requestHid, if_neg fun h => hFrom h.2.2, if_neg fun h => hFrom h.2.2, if_neg fun h => hTo h.2.2,
    if_neg fun h => hTo h.2.2, if_neg fun h => hFrom h.2.2]

theorem event_standing (h : d.endpoints.isSETUPReceived = true) :
    (eventUSBDeviceControlRequest env d).standing =
      d.standing.requestHid env.buttons (offered env.polls) d.request := by
  rw [eventUSBDeviceControlRequest]
  split
  next hAccepts =>
    rw [requestHid_of_type (by rw [hAccepts.1]; decide) (by rw [hAccepts.1]; decide), vendorRequest]
    split <;> exact control_standing (by simp)
  next => rw [AudioClass.processControlRequest_standing, Hid.processControlRequest_standing env h]

/-- The class drivers leave the packets of the device alone. -/
theorem event_device (hType : d.request.bmRequestType = deviceToHost ||| typeStandard ||| recDevice ∨
    d.request.bmRequestType = hostToDevice ||| typeStandard ||| recDevice) :
    eventUSBDeviceControlRequest env d = d := by
  have hNe : ∀ type : Byte, type ≠ deviceToHost ||| typeStandard ||| recDevice →
      type ≠ hostToDevice ||| typeStandard ||| recDevice → d.request.bmRequestType ≠ type := by
    rintro type hFrom hTo rfl
    exact hType.elim hFrom hTo
  have hHid : Hid.processControlRequest env d = d := by
    simp [Hid.processControlRequest, hNe Hid.fromInterface (by decide) (by decide),
      hNe Hid.toInterface (by decide) (by decide)]
  have hAudio : AudioClass.processControlRequest env d = d := by
    simp [AudioClass.processControlRequest, hNe (hostToDevice ||| typeStandard ||| recInterface) (by decide) (by decide),
      hNe (hostToDevice ||| typeClass ||| recInterface) (by decide) (by decide),
      hNe (hostToDevice ||| typeClass ||| recEndpoint) (by decide) (by decide),
      hNe (deviceToHost ||| typeClass ||| recEndpoint) (by decide) (by decide),
      hNe (deviceToHost ||| typeClass ||| recInterface) (by decide) (by decide)]
  rw [eventUSBDeviceControlRequest, if_neg fun hAccepts => hNe 64 (by decide) (by decide) hAccepts.1, hHid, hAudio]

theorem processControlRequest_standing (h : d.endpoints.isSETUPReceived = true) :
    (processControlRequest env d).standing = d.standing.request env.buttons (offered env.polls) d.request := by
  have hStall : ∀ d : Device, (if d.endpoints.isSETUPReceived = true then
      d.control (·.stallTransaction.clearSETUP) else d).standing = d.standing := by
    intro d
    split
    · exact control_standing (by simp)
    · rfl
  rw [processControlRequest, Standing.request, hStall, ← event_standing env h]
  split
  next hLeft => rw [Standard.processControlRequest_standing env (selected_of_received hLeft), event_request]
  next hTaken =>
    have hNotDevice : ¬ (d.request.bmRequestType = deviceToHost ||| typeStandard ||| recDevice ∨
        d.request.bmRequestType = hostToDevice ||| typeStandard ||| recDevice) := by
      intro hType
      rw [event_device env hType] at hTaken
      exact hTaken h
    rw [Standing.requestStandard, if_neg fun hIs => hNotDevice (.inl hIs.2), if_neg fun hIs => hNotDevice (.inr hIs.2.1)]

end Drivers

theorem usbTask_standing (env : Environment) (d : Device) :
    (usbTask env d).standing =
      (takenUp d).elim d.standing (d.standing.request env.buttons (offered env.polls)) := by
  rw [usbTask, takenUp]
  split
  · rfl
  · rw [control_standing (Endpoints.told_selectEndpoint ..)]
    simp only [Device.control, Endpoints.selectEndpoint]
    cases hSetup : d.endpoints.setup with
    | none => rfl
    | some r => exact processControlRequest_standing env rfl

theorem Hid.usbTask_standing (frameNumber : Word) (ready : Bool) (buttons : Byte) (d : Device) :
    (Hid.usbTask frameNumber ready buttons d).standing =
      (Hid.sampledBy frameNumber ready buttons d).elim d.standing (d.standing.poll frameNumber) := by
  rw [usbTask, sampledBy]
  split
  next hState => rw [if_neg fun h => hState h.1]; rfl
  next hState =>
    split
    next hFrame => rw [if_neg fun h => h.2.1 hFrame]; rfl
    next hFrame =>
      cases ready with
      | false =>
        rw [if_neg fun h : _ ∧ _ ∧ false = true => Bool.false_ne_true h.2.2]
        rfl
      | true =>
        rw [if_pos (⟨not_not.mp hState, hFrame, rfl⟩ : _ ∧ _ ∧ true = true), Option.elim_some, Standing.poll]
        simp only [Bool.not_true, Bool.false_eq_true, if_false]
        have hSent : ((⟨buttons.setWidth 16, 0⟩ : Report) ≠ d.prevReport ∨ idlePeriodElapsed d.hid = true) ↔
            (((buttons.setWidth 16 : Word) != d.prevReport.button || (0 : Byte) != d.prevReport.fix) ||
              idlePeriodElapsed d.hid) = true := by
          obtain ⟨button, fix⟩ := d.prevReport
          simp only [ne_eq, Report.mk.injEq, Bool.or_eq_true, bne_iff_ne, not_and_or]
        split
        next hTrue => exact (if_pos (hSent.mpr hTrue)).symm
        next hFalse => exact (if_neg (mt hSent.mp hFalse)).symm

end WheelDisplay.Usb
