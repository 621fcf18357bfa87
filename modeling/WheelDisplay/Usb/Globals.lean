import WheelDisplay.Usb.Standard

/-! # The globals of wheel-display.c under the USB tasks

`data` and `updatePending` change only by an accepted vendor write, and the two
button words only by a sample of the buttons.
-/

namespace WheelDisplay.Usb

open Audio

structure Globals where
  data : Nat → Word
  updatePending : Byte
  prevButtonMask : Word
  buttonChange : Word

def Device.globals (d : Device) : Globals := ⟨d.data, d.updatePending, d.prevButtonMask, d.buttonChange⟩

namespace Globals

def sample (buttons : Byte) (g : Globals) : Globals :=
  { g with
    buttonChange := (g.prevButtonMask ^^^ buttons.setWidth 16) &&& buttons.setWidth 16
    prevButtonMask := buttons.setWidth 16 }

def write (r : Request) (g : Globals) : Globals :=
  { g with
    data := Function.update g.data r.bRequest.toNat r.wValue
    updatePending := if g.data r.bRequest.toNat ≠ r.wValue then 1 else g.updatePending }

end Globals

def isGetReport (r : Request) : Prop :=
  r.wIndex = hidInterfaceNumber ∧ r.bRequest = hidReqGetReport ∧ r.bmRequestType = Hid.fromInterface

instance (r : Request) : Decidable (isGetReport r) := inferInstanceAs (Decidable (_ ∧ _))

def Hid.sampledBy (frameNumber : Word) (ready : Bool) (buttons : Byte) (d : Device) : Option Byte :=
  if d.deviceState = .configured ∧ d.hid.prevFrameNum ≠ frameNumber ∧ ready = true then some buttons else none

def takenUp (d : Device) : Option Request := if d.deviceState = .unattached then none else d.endpoints.setup

theorem Hid.usbTask_globals (frameNumber : Word) (ready : Bool) (buttons : Byte) (d : Device) :
    (Hid.usbTask frameNumber ready buttons d).globals =
      (Hid.sampledBy frameNumber ready buttons d).elim d.globals fun b => d.globals.sample b := by
  rw [Hid.usbTask, Hid.sampledBy]
  by_cases hState : d.deviceState = .configured
  · by_cases hFrame : d.hid.prevFrameNum = frameNumber
    · rw [if_neg (not_not.mpr hState), if_pos hFrame, if_neg fun h => h.2.1 hFrame]
      rfl
    · rw [if_neg (not_not.mpr hState), if_neg hFrame]
      cases ready with
      | false =>
        rw [if_neg fun h : _ ∧ _ ∧ false = true => Bool.false_ne_true h.2.2]
        rfl
      | true =>
        rw [if_pos (⟨hState, hFrame, rfl⟩ : _ ∧ _ ∧ true = true)]
        simp only [Bool.not_true, Bool.false_eq_true, if_false]
        split <;> rfl
  · rw [if_pos hState, if_neg fun h => hState h.1]
    rfl

theorem Hid.processControlRequest_globals (env : Environment) {d : Device} (h : d.endpoints.isSETUPReceived = true) :
    (Hid.processControlRequest env d).globals =
      if isGetReport d.request then d.globals.sample env.buttons else d.globals := by
  rw [Hid.processControlRequest, h]
  simp only [Bool.not_true, Bool.false_eq_true, if_false]
  by_cases hGet : isGetReport d.request
  · rw [if_neg (not_not.mpr hGet.1), if_pos hGet.2.1, if_pos hGet.2.2, if_pos hGet]
    rfl
  · rw [if_neg hGet]
    split
    next => rfl
    next hIndex =>
      split
      next hCode =>
        have hDirection : d.request.bmRequestType ≠ fromInterface :=
          fun hType => hGet ⟨not_not.mp hIndex, hCode, hType⟩
        rw [if_neg hDirection]
      next => split_ifs <;> rfl

theorem AudioClass.processControlRequest_globals (env : Environment) (d : Device) :
    (AudioClass.processControlRequest env d).globals = d.globals := by
  have hSet : (setEndpointProperty env d).globals = d.globals := by
    simp only [setEndpointProperty]
    split <;> rfl
  have hGet : (getEndpointProperty env d).globals = d.globals := by
    simp only [getEndpointProperty]
    split <;> rfl
  rw [AudioClass.processControlRequest]
  split_ifs <;> first | rfl | exact hSet | exact hGet

theorem Standard.processControlRequest_globals (env : Environment) (d : Device) :
    (Standard.processControlRequest env d).globals = d.globals := by
  have hStatus : (getStatus env d).globals = d.globals := by
    rw [getStatus]
    split_ifs <;> rfl
  have hFeature : (clearSetFeature env d).globals = d.globals := by
    simp only [clearSetFeature]
    split_ifs <;> rfl
  have hDescriptor : (getDescriptor env d).globals = d.globals := by
    rw [getDescriptor]
    split
    · rfl
    · split <;> rfl
  have hConfiguration : (setConfiguration env d).globals = d.globals := by
    rw [setConfiguration]
    split <;> rfl
  rw [Standard.processControlRequest]
  split_ifs <;> first | rfl | assumption

theorem Standard.processControlRequest_vendor (env : Environment) {d : Device} (h : d.request.bmRequestType = 64) :
    Standard.processControlRequest env d = d := by
  simp [Standard.processControlRequest, h, deviceToHost, hostToDevice, typeStandard, recDevice, recInterface,
    recEndpoint]

theorem vendorRequest_eq (env : Environment) (d : Device) :
    ∃ e, vendorRequest env d = { d with
      data := Function.update d.data d.request.bRequest.toNat d.request.wValue
      updatePending := if d.data d.request.bRequest.toNat ≠ d.request.wValue then 1 else d.updatePending
      endpoints := e } := by
  rw [vendorRequest]
  split
  next => exact ⟨_, rfl⟩
  next hSame =>
    rw [← not_not.mp hSame, Function.update_eq_self]
    exact ⟨_, rfl⟩

/-- An accepted packet changes the cell that it names, `updatePending` and the endpoint registers. -/
theorem processControlRequest_accepted (env : Environment) {d : Device} (h : accepts d.request) :
    ∃ e, processControlRequest env d = { d with
      data := Function.update d.data d.request.bRequest.toNat d.request.wValue
      updatePending := if d.data d.request.bRequest.toNat ≠ d.request.wValue then 1 else d.updatePending
      endpoints := e } := by
  obtain ⟨e, hVendor⟩ := vendorRequest_eq env d
  have hStandard : Standard.processControlRequest env (vendorRequest env d) = vendorRequest env d := by
    apply Standard.processControlRequest_vendor
    rw [hVendor]
    exact h.1
  rw [processControlRequest, eventUSBDeviceControlRequest, if_pos h, hStandard]
  simp only [ite_self]
  have hStall : ∃ e', (if (vendorRequest env d).endpoints.isSETUPReceived = true then
      (vendorRequest env d).control (·.stallTransaction.clearSETUP) else vendorRequest env d) =
      { vendorRequest env d with endpoints := e' } := by
    split <;> exact ⟨_, rfl⟩
  obtain ⟨e', hStall⟩ := hStall
  refine ⟨e', hStall.trans ?_⟩
  rw [hVendor]

theorem control_globals (f : Endpoints → Endpoints) (d : Device) : (d.control f).globals = d.globals := rfl

theorem processControlRequest_globals (env : Environment) {d : Device} (h : d.endpoints.isSETUPReceived = true) :
    (processControlRequest env d).globals =
      if accepts d.request then d.globals.write d.request
      else if isGetReport d.request then d.globals.sample env.buttons
      else d.globals := by
  by_cases hAccepts : accepts d.request
  · obtain ⟨e, hVendor⟩ := processControlRequest_accepted env hAccepts
    rw [hVendor, if_pos hAccepts]
    rfl
  · have hClasses : (eventUSBDeviceControlRequest env d).globals =
        if isGetReport d.request then d.globals.sample env.buttons else d.globals := by
      rw [eventUSBDeviceControlRequest, if_neg hAccepts, AudioClass.processControlRequest_globals,
        Hid.processControlRequest_globals env h]
    rw [if_neg hAccepts, ← hClasses, processControlRequest]
    split_ifs <;> simp only [control_globals, Standard.processControlRequest_globals]

theorem usbTask_globals (env : Environment) (d : Device) :
    (usbTask env d).globals = (takenUp d).elim d.globals fun r =>
      if accepts r then d.globals.write r
      else if isGetReport r then d.globals.sample env.buttons
      else d.globals := by
  rw [usbTask, takenUp]
  split
  · rfl
  · rw [control_globals]
    simp only [Device.control, Endpoints.selectEndpoint]
    cases hSetup : d.endpoints.setup with
    | none => rfl
    | some r =>
      exact processControlRequest_globals env rfl

theorem Hid.usbTask_data (frameNumber : Word) (ready : Bool) (buttons : Byte) (d : Device) :
    (Hid.usbTask frameNumber ready buttons d).data = d.data ∧
      (Hid.usbTask frameNumber ready buttons d).updatePending = d.updatePending := by
  have hGlobals := Hid.usbTask_globals frameNumber ready buttons d
  cases hSample : Hid.sampledBy frameNumber ready buttons d <;> rw [hSample] at hGlobals <;>
    exact ⟨congrArg Globals.data hGlobals, congrArg Globals.updatePending hGlobals⟩

theorem usbTask_unaccepted (env : Environment) {d : Device} (h : ∀ r ∈ takenUp d, ¬ accepts r) :
    (usbTask env d).data = d.data ∧ (usbTask env d).updatePending = d.updatePending := by
  have hGlobals := usbTask_globals env d
  cases hTaken : takenUp d with
  | none =>
    rw [hTaken] at hGlobals
    exact ⟨congrArg Globals.data hGlobals, congrArg Globals.updatePending hGlobals⟩
  | some r =>
    rw [hTaken, Option.elim_some, if_neg (h r hTaken)] at hGlobals
    split at hGlobals <;> exact ⟨congrArg Globals.data hGlobals, congrArg Globals.updatePending hGlobals⟩

theorem usbTask_accepted (env : Environment) {d : Device} {r : Request} (hTaken : takenUp d = some r)
    (h : accepts r) :
    ∃ e, usbTask env d = { d with
      request := r
      data := Function.update d.data r.bRequest.toNat r.wValue
      updatePending := if d.data r.bRequest.toNat ≠ r.wValue then 1 else d.updatePending
      endpoints := e } := by
  rw [takenUp] at hTaken
  split at hTaken
  · cases hTaken
  next hAttached =>
    obtain ⟨e, hPacket⟩ := processControlRequest_accepted env
      (d := { d.control (·.selectEndpoint 0) with request := r }) h
    rw [usbTask, if_neg hAttached]
    simp only [Device.control, Endpoints.selectEndpoint, hTaken] at hPacket ⊢
    rw [hPacket]
    exact ⟨_, rfl⟩

/-- A packet writes one cell or none. -/
theorem usbTask_cases (env : Environment) (d : Device) :
    (usbTask env d).data = d.data ∧ (usbTask env d).updatePending = d.updatePending ∨
      ∃ r, takenUp d = some r ∧ accepts r ∧ (usbTask env d).data = Function.update d.data r.bRequest.toNat r.wValue ∧
        (usbTask env d).updatePending = if d.data r.bRequest.toNat ≠ r.wValue then 1 else d.updatePending := by
  by_cases hAccepted : ∃ r ∈ takenUp d, accepts r
  · obtain ⟨r, hTaken, hAccepts⟩ := hAccepted
    obtain ⟨e, hTask⟩ := usbTask_accepted env hTaken hAccepts
    rw [hTask]
    exact .inr ⟨r, hTaken, hAccepts, rfl, rfl⟩
  · exact .inl (usbTask_unaccepted env fun r hTaken hAccepts => hAccepted ⟨r, hTaken, hAccepts⟩)

end WheelDisplay.Usb
