import WheelDisplay.Firmware.MainLoop
import WheelDisplay.Usb.Globals

/-! # Vendor writes to data

The test of `EVENT_USB_Device_ControlRequest` compares the index with `sizeof(data)`,
which counts bytes: 64 for the 32 cells.
-/

namespace WheelDisplay.Firmware

open Lcd Usb

def handled (f : Firmware) : Event → Option Request
  | .task _ => if f.next = .usb then takenUp f.device else none
  | _ => none

def accepted (f : Firmware) (e : Event) : Option Request := (handled f e).filter accepts

def cells (f : Firmware) : Fin dataLength → Word := fun j => f.device.data j

def lastWrite (cells : Fin dataLength → Word) (r : Request) : Fin dataLength → Word := fun j =>
  if j.val = r.bRequest.toNat then r.wValue else cells j

/-- An accepted write keeps to `data`: it sets its cell, and `updatePending` when the cell
changes. USB_USBTask also reads the packet and drives the endpoints. -/
structure Lands (r : Request) (f f' : Firmware) : Prop where
  inside : r.bRequest.toNat < dataLength
  written : f'.device.data r.bRequest.toNat = r.wValue
  others : ∀ j, j ≠ r.bRequest.toNat → f'.device.data j = f.device.data j
  pending : f'.device.updatePending =
    if f.device.data r.bRequest.toNat ≠ r.wValue then 1 else f.device.updatePending
  globals : f' = { f with
    next := .body
    device := { f.device with
      request := r
      endpoints := f'.device.endpoints
      data := f'.device.data
      updatePending := f'.device.updatePending } }

/-- What one step may do to `data` and `updatePending` for the packet that it takes up. -/
def Contract (f : Firmware) (e : Event) : Prop :=
  ∀ r, handled f e = some r →
    if accepts r then Lands r f (step f e)
    else (step f e).device.data = f.device.data ∧ (step f e).device.updatePending = f.device.updatePending

def WithinData (f : Firmware) (e : Event) : Prop :=
  ∀ r, handled f e = some r → accepts r → r.bRequest.toNat < dataLength

theorem handled_eq_some {f : Firmware} {e : Event} {r : Request} (h : handled f e = some r) :
    ∃ found, e = .task found ∧ f.next = .usb ∧ takenUp f.device = some r := by
  cases e with
  | task found =>
    rw [handled] at h
    split at h
    next hNext => exact ⟨found, rfl, hNext, h⟩
    next => cases h
  | _ => cases h

theorem runTask_usb (found : Surroundings) {f : Firmware} (h : f.next = .usb) :
    f.runTask found = { f with device := usbTask found.host f.device, next := .body } := by
  rw [runTask, h]

theorem lands_iff {f : Firmware} {e : Event} {r : Request} (hHandled : handled f e = some r) (h : accepts r) :
    Lands r f (step f e) ↔ r.bRequest.toNat < dataLength := by
  obtain ⟨found, rfl, hNext, hTaken⟩ := handled_eq_some hHandled
  obtain ⟨endpoints, hTask⟩ := usbTask_accepted found.host hTaken h
  constructor
  · exact Lands.inside
  · intro hInside
    rw [step, runTask_usb found hNext, hTask]
    refine ⟨hInside, Function.update_self .., ?_, rfl, rfl⟩
    intro j hj
    exact Function.update_of_ne hj ..

theorem step_rejected {f : Firmware} {e : Event} {r : Request} (hHandled : handled f e = some r)
    (h : ¬ accepts r) :
    (step f e).device.data = f.device.data ∧ (step f e).device.updatePending = f.device.updatePending := by
  obtain ⟨found, rfl, hNext, hTaken⟩ := handled_eq_some hHandled
  have hNone : ∀ r ∈ takenUp f.device, ¬ accepts r := by
    intro r' hTaken'
    rw [Option.some.inj (hTaken'.symm.trans hTaken)]
    exact h
  rw [step, runTask_usb found hNext]
  exact usbTask_unaccepted found.host hNone

theorem contract_iff (f : Firmware) (e : Event) : Contract f e ↔ WithinData f e := by
  apply forall_congr'
  intro r
  apply imp_congr_right
  intro hHandled
  split
  next h => rw [lands_iff hHandled h, forall_prop_of_true h]
  next h => exact iff_of_true (step_rejected hHandled h) fun hYes => absurd hYes h

theorem step_data_of_unhandled {f : Firmware} {e : Event} (h : handled f e = none) :
    (step f e).device.data = f.device.data := by
  cases e with
  | task found =>
    rw [step, runTask]
    split
    next => exact (Hid.usbTask_data ..).1
    next hNext =>
      rw [handled, if_pos hNext] at h
      have hNone : ∀ r ∈ takenUp f.device, ¬ accepts r := fun r hTaken => absurd (h.symm.trans hTaken) nofun
      exact (usbTask_unaccepted found.host hNone).1
    next =>
      obtain ⟨pending, hBody⟩ := body_device found.voice found.noise f
      simp only [hBody]
  | _ => rfl

theorem step_cells (f : Firmware) (e : Event) :
    cells (step f e) = (accepted f e).toList.foldl lastWrite (cells f) := by
  rw [accepted]
  cases hHandled : handled f e with
  | none =>
    funext j
    exact congrFun (step_data_of_unhandled hHandled) j
  | some r =>
    by_cases hAccepts : accepts r
    · obtain ⟨found, rfl, hNext, hTaken⟩ := handled_eq_some hHandled
      obtain ⟨endpoints, hTask⟩ := usbTask_accepted found.host hTaken hAccepts
      rw [Option.filter_some, if_pos (decide_eq_true hAccepts), step, runTask_usb found hNext, hTask]
      funext j
      exact Function.update_apply ..
    · rw [Option.filter_some, if_neg fun hYes => hAccepts (of_decide_eq_true hYes)]
      funext j
      exact congrFun (step_rejected hHandled hAccepts).1 j

/-- Along every run the array is the fold of the accepted writes, and the contract holds of every
packet exactly when no accepted write has an index past the array. -/
theorem vendor_writes_iff (beyond : Nat → LCDtext) (events : List Event) :
    (StepRun.Along step Contract (entry beyond) events ∧
        ∀ before after, events = before ++ after →
          cells (run beyond before) =
            (StepRun.emitted step accepted (entry beyond) before).foldl lastWrite (cells (entry beyond))) ↔
      StepRun.Along step WithinData (entry beyond) events := by
  have hFold : ∀ before, cells (run beyond before) =
      (StepRun.emitted step accepted (entry beyond) before).foldl lastWrite (cells (entry beyond)) :=
    fun before => StepRun.project_run accepted lastWrite cells step_cells (entry beyond) before
  rw [and_iff_left fun before _ _ => hFold before]
  constructor
  · exact StepRun.along_mono fun f e => (contract_iff f e).mp
  · exact StepRun.along_mono fun f e => (contract_iff f e).mpr

/-- The request 32 is accepted, and its value goes to the word after the array. -/
theorem write_past_data :
    ¬ StepRun.Along step Contract (entry fun _ => blank)
        [.wakeUp, .reset, .setup ⟨64, 32, 7, 0, 0⟩, .task idle, .task idle] ∧
      (run (fun _ => blank) [.wakeUp, .reset, .setup ⟨64, 32, 7, 0, 0⟩, .task idle, .task idle]).device.data 32 = 7 := by
  refine ⟨?_, rfl⟩
  rintro ⟨-, -, -, -, hWrite, -⟩
  have hLands := hWrite ⟨64, 32, 7, 0, 0⟩ rfl
  rw [if_pos (by decide)] at hLands
  exact absurd hLands.inside (by decide)

end WheelDisplay.Firmware
