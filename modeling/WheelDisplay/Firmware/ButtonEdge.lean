import WheelDisplay.Firmware.MainLoop
import WheelDisplay.Usb.Globals

/-! # Button presses and the rotations they cause

`buttonChange` is a level: it holds the presses of the last sample until the next
sample, however many turns of the loop come between.
-/

namespace WheelDisplay.Firmware

open Lcd Usb DisplayType

/-- The mask that the step samples, in `HID_Device_USBTask` or for a GET_REPORT. -/
def sampled (f : Firmware) : Event → Option Byte
  | .task found =>
    match f.next with
    | .hid => Hid.sampledBy found.frameNumber found.ready found.buttons f.device
    | .usb => (takenUp f.device).bind fun r => if isGetReport r then some found.host.buttons else none
    | .body => none
  | _ => none

def rotated (button : Fin 2) : Nat := button.val + 2

/-- The firmware under observation: the last mask sampled, 0 before the first, and the presses
that no turn has come to yet. -/
structure Watch where
  firmware : Firmware
  last : Byte
  pending : Byte

namespace Watch

def start (beyond : Nat → LCDtext) : Watch := ⟨entry beyond, 0, 0⟩

def step (w : Watch) (e : Event) : Watch where
  firmware := w.firmware.step e
  last := (sampled w.firmware e).getD w.last
  pending :=
    match sampled w.firmware e with
    | some mask => mask &&& ~~~w.last
    | none => if isTurn w.firmware e then 0 else w.pending

def presses (button : Fin 2) (w : Watch) (e : Event) : Nat :=
  match sampled w.firmware e with
  | some mask => if w.last.getLsbD button = false ∧ mask.getLsbD button = true then 1 else 0
  | none => 0

def rotations (button : Fin 2) (w : Watch) (e : Event) : Nat :=
  if (w.firmware.step e).lcdtypes (rotated button) = w.firmware.lcdtypes (rotated button) then 0 else 1

def outstanding (button : Fin 2) (w : Watch) : Nat := if w.pending.getLsbD button then 1 else 0

/-- A sample finds no press outstanding, and a turn acts on none but an outstanding press. -/
def Timely (w : Watch) (e : Event) : Prop :=
  ∀ button : Fin 2,
    (sampled w.firmware e ≠ none → w.pending.getLsbD button = false) ∧
      (isTurn w.firmware e = true → w.firmware.device.buttonChange.getLsbD button = true →
        w.pending.getLsbD button = true)

end Watch

theorem rotateTop_two (types : Nat → Byte) : rotateTop types 2 ≠ types 2 := by
  rw [rotateTop]
  split
  next hSpeed =>
    rw [hSpeed, assign_right]
    decide
  next hSpeed =>
    split
    next hRpm =>
      rw [hRpm, assign_right]
      decide
    next => exact fun h => hSpeed h.symm

theorem rotateTop_three (types : Nat → Byte) : rotateTop types 3 = types 3 := by
  rw [rotateTop]
  split_ifs <;> rfl

theorem rotateSecond_two (types : Nat → Byte) : rotateSecond types 2 = types 2 := by
  rw [rotateSecond]
  split_ifs <;> rfl

theorem rotateSecond_three (types : Nat → Byte) : rotateSecond types 3 ≠ types 3 := by
  rw [rotateSecond]
  split
  next hNeed =>
    rw [hNeed, assign_left (by decide)]
    decide
  next hNeed =>
    split
    next hFuel =>
      rw [hFuel, assign_left (by decide)]
      decide
    next =>
      split
      next hLap =>
        rw [hLap, assign_left (by decide)]
        decide
      next => exact fun h => hNeed h.symm

def rotateBoth (top second : Bool) (types : Nat → Byte) : Nat → Byte :=
  let types := if top then rotateTop types else types
  if second then rotateSecond types else types

theorem rotateBoth_eq_iff (top second : Bool) (types : Nat → Byte) (button : Fin 2) :
    rotateBoth top second types (rotated button) = types (rotated button) ↔
      (if button = 0 then top else second) = false := by
  fin_cases button
  · change rotateBoth top second types 2 = types 2 ↔ top = false
    cases top <;> cases second <;> simp [rotateBoth, rotateSecond_two, rotateTop_two]
  · change rotateBoth top second types 3 = types 3 ↔ second = false
    have hTop := rotateTop_three types
    have hBoth : rotateSecond (rotateTop types) 3 ≠ types 3 := hTop ▸ rotateSecond_three (rotateTop types)
    cases top <;> cases second <;> simp [rotateBoth, rotateSecond_three, hTop, hBoth]

theorem body_lcdtypes (voice noise : Nlms.Sample) (f : Firmware) (button : Fin 2) :
    (body voice noise f).lcdtypes (rotated button) = f.lcdtypes (rotated button) ↔
      f.device.buttonChange.getLsbD button = false := by
  obtain ⟨filter, sample, hBody⟩ := body_eq voice noise f
  simp only [hBody, update_lcdtypes]
  rw [catchButtons]
  split
  next hNone =>
    rw [hNone]
    exact iff_of_true rfl BitVec.getLsbD_zero
  next =>
    refine (rotateBoth_eq_iff (f.device.buttonChange.getLsbD 0) (f.device.buttonChange.getLsbD 1) f.lcdtypes
      button).trans ?_
    fin_cases button <;> rfl

def buttonWords (f : Firmware) : Word × Word := (f.device.prevButtonMask, f.device.buttonChange)

theorem Globals.words {g g' : Globals} (h : g = g') :
    (g.prevButtonMask, g.buttonChange) = (g'.prevButtonMask, g'.buttonChange) := by rw [h]

theorem step_buttonWords (f : Firmware) (e : Event) :
    buttonWords (f.step e) = (sampled f e).elim (buttonWords f) fun mask =>
      (mask.setWidth 16, (f.device.prevButtonMask ^^^ mask.setWidth 16) &&& mask.setWidth 16) := by
  cases e with
  | task found =>
    rw [step, runTask, sampled]
    cases hNext : f.next with
    | hid =>
      refine (Globals.words (Hid.usbTask_globals found.frameNumber found.ready found.buttons f.device)).trans ?_
      cases hSample : Hid.sampledBy found.frameNumber found.ready found.buttons f.device with
      | none => rfl
      | some mask => rfl
    | usb =>
      refine (Globals.words (usbTask_globals found.host f.device)).trans ?_
      cases hTaken : takenUp f.device with
      | none => rfl
      | some r =>
        simp only [Option.elim_some, Option.bind_some]
        by_cases hAccepts : accepts r
        · have hOther : ¬ isGetReport r := by
            rintro ⟨-, -, hType⟩
            rw [hAccepts.1] at hType
            exact absurd hType (by decide)
          rw [if_pos hAccepts, if_neg hOther]
          rfl
        · rw [if_neg hAccepts]
          split <;> rfl
    | body =>
      obtain ⟨pending, hBody⟩ := body_device found.voice found.noise f
      simp only [buttonWords, hBody, Option.elim_none]
  | _ => rfl

namespace Watch

/-- The observer's record of the last sample is the firmware's, and an outstanding press is in `buttonChange`. -/
structure Recorded (w : Watch) : Prop where
  last : w.firmware.device.prevButtonMask = w.last.setWidth 16
  pending : ∀ button : Fin 2, w.pending.getLsbD button = true →
    w.firmware.device.buttonChange.getLsbD button = true

theorem edge_bit (last mask : Byte) (button : Fin 2) :
    ((last.setWidth 16 ^^^ mask.setWidth 16) &&& (mask.setWidth 16 : Word)).getLsbD button =
      (mask &&& ~~~last).getLsbD button := by
  have hBits : button.val < 8 := by omega
  have hWord : button.val < 16 := by omega
  simp only [BitVec.getLsbD_and, BitVec.getLsbD_xor, BitVec.getLsbD_setWidth, BitVec.getLsbD_not, hBits, hWord,
    decide_true, Bool.true_and]
  cases last.getLsbD button <;> cases mask.getLsbD button <;> rfl

theorem step_recorded (w : Watch) (e : Event) (h : Recorded w) : Recorded (w.step e) := by
  have hWords := step_buttonWords w.firmware e
  cases hSampled : sampled w.firmware e with
  | none =>
    rw [hSampled] at hWords
    obtain ⟨hLast, hChange⟩ := Prod.mk.inj hWords
    refine ⟨?_, ?_⟩
    · rw [step, hSampled]
      exact hLast.trans h.last
    · intro button hPending
      rw [step, hSampled] at hPending ⊢
      refine (congrArg (·.getLsbD button) hChange).trans (h.pending button ?_)
      cases hTurn : isTurn w.firmware e with
      | true =>
        simp only [hTurn, if_true] at hPending
        exact absurd hPending (by simp)
      | false =>
        simpa only [hTurn, Bool.false_eq_true, if_false] using hPending
  | some mask =>
    rw [hSampled] at hWords
    obtain ⟨hLast, hChange⟩ := Prod.mk.inj hWords
    refine ⟨?_, ?_⟩
    · rw [step, hSampled]
      exact hLast
    · intro button hPending
      rw [step, hSampled] at hPending ⊢
      refine (congrArg (·.getLsbD button) hChange).trans ?_
      rw [h.last, edge_bit]
      exact hPending

theorem rotations_eq (button : Fin 2) (w : Watch) (e : Event) :
    rotations button w e =
      if isTurn w.firmware e = true ∧ w.firmware.device.buttonChange.getLsbD button = true then 1 else 0 := by
  have hTypes : (w.firmware.step e).lcdtypes (rotated button) = w.firmware.lcdtypes (rotated button) ↔
      ¬ (isTurn w.firmware e = true ∧ w.firmware.device.buttonChange.getLsbD button = true) := by
    cases e with
    | task found =>
      rw [Firmware.step, runTask, isTurn]
      cases hNext : w.firmware.next with
      | hid => exact iff_of_true rfl fun h => absurd h.1 (by decide)
      | usb => exact iff_of_true rfl fun h => absurd h.1 (by decide)
      | body =>
        refine (body_lcdtypes found.voice found.noise w.firmware button).trans ?_
        simp
    | _ => exact iff_of_true rfl fun h => Bool.false_ne_true h.1
  rw [rotations]
  simp only [hTypes, ite_not]

theorem isTurn_of_sampled {f : Firmware} {e : Event} {mask : Byte} (h : sampled f e = some mask) :
    isTurn f e = false := by
  cases e with
  | task found =>
    cases hNext : f.next with
    | body =>
      rw [sampled, hNext] at h
      cases h
    | _ =>
      rw [isTurn, hNext]
      rfl
  | _ => rfl

theorem presses_eq (button : Fin 2) {w : Watch} {e : Event} {mask : Byte} (h : sampled w.firmware e = some mask) :
    presses button w e = outstanding button (w.step e) := by
  have hBits : button.val < 8 := by omega
  rw [presses, outstanding, step, h]
  simp only [BitVec.getLsbD_and, BitVec.getLsbD_not, hBits, decide_true, Bool.true_and, Bool.and_eq_true,
    Bool.not_eq_true', and_comm]

theorem balanced_iff {w : Watch} (h : Recorded w) (e : Event) :
    (∀ button, StepRun.Balanced step (presses button) (rotations button) (outstanding button) w e) ↔
      Timely w e := by
  apply forall_congr'
  intro button
  rw [StepRun.Balanced, rotations_eq]
  cases hSampled : sampled w.firmware e with
  | some mask =>
    rw [isTurn_of_sampled hSampled, ← presses_eq button hSampled, outstanding]
    cases w.pending.getLsbD button <;> simp
  | none =>
    have hPresses : presses button w e = 0 := by rw [presses, hSampled]
    rw [hPresses, outstanding, outstanding, step, hSampled]
    cases hTurn : isTurn w.firmware e with
    | false => simp
    | true =>
      have hPending := h.pending button
      cases hChange : w.firmware.device.buttonChange.getLsbD button <;>
        cases hBit : w.pending.getLsbD button <;> simp_all

end Watch

/-- Every press is acted on by one rotation, save the one still outstanding, on every stretch of a
run exactly when the steps of the run are timely. -/
theorem presses_acted_once_iff (beyond : Nat → LCDtext) (events : List Event) :
    (∀ button, ∀ before segment after, events = before ++ segment ++ after →
        let first := StepRun.run Watch.step (Watch.start beyond) before
        let last := StepRun.run Watch.step (Watch.start beyond) (before ++ segment)
        StepRun.tally Watch.step (Watch.rotations button) first segment + Watch.outstanding button last =
          StepRun.tally Watch.step (Watch.presses button) first segment + Watch.outstanding button first) ↔
      StepRun.Along Watch.step Watch.Timely (Watch.start beyond) events := by
  have hStart : Watch.Recorded (Watch.start beyond) := by
    refine ⟨rfl, ?_⟩
    intro button hPending
    exact absurd hPending (by simp [Watch.start])
  rw [← StepRun.along_congr_of_invariant Watch.Recorded (fun w e h _ => Watch.step_recorded w e h)
    (fun w e h => Watch.balanced_iff h e) hStart events, StepRun.along_forall]
  exact forall_congr' fun button => StepRun.along_balanced_iff.symm

/-- The first button goes down in frame 1, and the loop turns twice in that frame. -/
def held : List Event :=
  [.wakeUp, .reset, .setup ⟨0, 9, 1, 0, 0⟩, .task idle, .task idle, .task idle,
    .task { idle with frameNumber := 1, ready := true, buttons := 1 }, .task idle, .task idle,
    .task { idle with frameNumber := 1, ready := true, buttons := 1 }, .task idle, .task idle]

/-- One press, two rotations, and none outstanding. -/
theorem press_rotates_twice :
    ¬ ∀ before segment after, held = before ++ segment ++ after →
      let first := StepRun.run Watch.step (Watch.start fun _ => blank) before
      let last := StepRun.run Watch.step (Watch.start fun _ => blank) (before ++ segment)
      StepRun.tally Watch.step (Watch.rotations 0) first segment + Watch.outstanding 0 last =
        StepRun.tally Watch.step (Watch.presses 0) first segment + Watch.outstanding 0 first := by
  intro h
  have hAll := h [] held [] rfl
  exact absurd hAll (by decide +kernel)

end WheelDisplay.Firmware
