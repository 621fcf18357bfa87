import WheelDisplay.Firmware.ButtonEdge

/-! # The rows after any number of rotations

The first button rotates the top row through three pairs. The second row starts with a
pair to which it does not come back, and then goes through four.
-/

namespace WheelDisplay.Firmware

open Lcd DisplayType

def topRow (rotations : Nat) : DisplayType × DisplayType :=
  match rotations % 3 with
  | 0 => (rpm, speed)
  | 1 => (pos, rpm)
  | _ => (speed, pos)

def secondRow : Nat → DisplayType × DisplayType
  | 0 => (pos, lap)
  | n + 1 =>
    match n % 4 with
    | 0 => (fuelNeed, lapsRem)
    | 1 => (fuel, fuelNeed)
    | 2 => (lap, fuel)
    | _ => (lapsRem, lap)

def slots (top second : DisplayType × DisplayType) : Nat → Byte := fun i =>
  [typeGear, top.1.code, top.2.code, second.1.code, second.2.code, laptime.code, delta.code].getD i 0

theorem assign_top (left right : DisplayType) (top second : DisplayType × DisplayType) :
    assign 1 2 left right (slots top second) = slots (left, right) second := by
  funext i
  obtain rfl | rfl | hOther : i = 1 ∨ i = 2 ∨ i ≠ 1 ∧ i ≠ 2 := by omega
  · rfl
  · rfl
  · rw [assign_other hOther.1 hOther.2]
    obtain _ | _ | _ | i := i
    · rfl
    · exact absurd rfl hOther.1
    · exact absurd rfl hOther.2
    · rfl

theorem assign_second (left right : DisplayType) (top second : DisplayType × DisplayType) :
    assign 3 4 left right (slots top second) = slots top (left, right) := by
  funext i
  obtain rfl | rfl | hOther : i = 3 ∨ i = 4 ∨ i ≠ 3 ∧ i ≠ 4 := by omega
  · rfl
  · rfl
  · rw [assign_other hOther.1 hOther.2]
    obtain _ | _ | _ | _ | _ | i := i
    · rfl
    · rfl
    · rfl
    · exact absurd rfl hOther.1
    · exact absurd rfl hOther.2
    · rfl

theorem rotateTop_slots (n : Nat) (second : DisplayType × DisplayType) :
    rotateTop (slots (topRow n) second) = slots (topRow (n + 1)) second := by
  have hCases : n % 3 = 0 ∧ (n + 1) % 3 = 1 ∨ n % 3 = 1 ∧ (n + 1) % 3 = 2 ∨ n % 3 = 2 ∧ (n + 1) % 3 = 0 := by omega
  obtain ⟨hNow, hNext⟩ | ⟨hNow, hNext⟩ | ⟨hNow, hNext⟩ := hCases
  · rw [topRow, topRow, hNow, hNext]
    exact assign_top ..
  · rw [topRow, topRow, hNow, hNext]
    exact assign_top ..
  · rw [topRow, topRow, hNow, hNext]
    exact assign_top ..

theorem rotateSecond_slots (n : Nat) (top : DisplayType × DisplayType) :
    rotateSecond (slots top (secondRow n)) = slots top (secondRow (n + 1)) := by
  cases n with
  | zero => exact assign_second ..
  | succ n =>
    have hCases : n % 4 = 0 ∧ (n + 1) % 4 = 1 ∨ n % 4 = 1 ∧ (n + 1) % 4 = 2 ∨ n % 4 = 2 ∧ (n + 1) % 4 = 3 ∨
        n % 4 = 3 ∧ (n + 1) % 4 = 0 := by omega
    obtain ⟨hNow, hNext⟩ | ⟨hNow, hNext⟩ | ⟨hNow, hNext⟩ | ⟨hNow, hNext⟩ := hCases
    all_goals
      rw [secondRow, secondRow, hNow, hNext]
      exact assign_second ..

/-- The turns of the body that act on a press of the button. -/
def actsOn (button : Fin 2) (f : Firmware) (e : Event) : Nat :=
  if isTurn f e = true ∧ f.device.buttonChange.getLsbD button = true then 1 else 0

def InRows (f : Firmware) (rotations : Fin 2 → Nat) : Prop :=
  f.lcdtypes = slots (topRow (rotations ⟨0, Nat.two_pos⟩)) (secondRow (rotations ⟨1, Nat.one_lt_two⟩))

theorem catchButtons_lcdtypes (f : Firmware) :
    (catchButtons f).lcdtypes =
      rotateBoth (f.device.buttonChange.getLsbD 0) (f.device.buttonChange.getLsbD 1) f.lcdtypes := by
  rw [catchButtons]
  split
  next hNone =>
    rw [hNone]
    rfl
  next => rfl

theorem rotateBoth_slots (tops seconds : Nat) (top second : Bool) :
    rotateBoth top second (slots (topRow tops) (secondRow seconds)) =
      slots (topRow (tops + if top = true then 1 else 0)) (secondRow (seconds + if second = true then 1 else 0)) := by
  cases top <;> cases second
  · rfl
  · exact rotateSecond_slots ..
  · exact rotateTop_slots ..
  · change rotateSecond (rotateTop _) = _
    rw [rotateTop_slots, rotateSecond_slots]
    rfl

theorem step_inRows (f : Firmware) (rotations : Fin 2 → Nat) (e : Event) (h : InRows f rotations) :
    InRows (f.step e) fun button => rotations button + actsOn button f e := by
  cases hTurn : isTurn f e with
  | false =>
    have hNone : ∀ button, actsOn button f e = 0 := by
      intro button
      rw [actsOn, hTurn, if_neg fun hActs => Bool.false_ne_true hActs.1]
    have hKept : (f.step e).lcdtypes = f.lcdtypes := by
      cases e with
      | task found =>
        rw [step, runTask]
        cases hNext : f.next with
        | hid => rfl
        | usb => rfl
        | body =>
          rw [isTurn, hNext] at hTurn
          cases hTurn
      | _ => rfl
    rw [InRows, hKept, hNone, hNone]
    exact h
  | true =>
    have hKept : (f.step e).lcdtypes = (catchButtons f).lcdtypes := by
      cases e with
      | task found =>
        obtain ⟨filter, sample, hBody⟩ := body_eq found.voice found.noise f
        have hNext : f.next = .body := eq_of_beq hTurn
        rw [step, runTask, hNext]
        simp only [hBody]
        exact update_lcdtypes (catchButtons f)
      | _ => cases hTurn
    rw [InRows, hKept, catchButtons_lcdtypes, h, rotateBoth_slots]
    simp only [actsOn, hTurn, true_and]

/-- In every run the rows hold what the presses acted on have rotated them to, and the other three slots what
they held at the start. -/
theorem rows_rotated (beyond : Nat → LCDtext) (events : List Event) :
    (run beyond events).lcdtypes =
      slots (topRow (StepRun.tally step (actsOn 0) (entry beyond) events))
        (secondRow (StepRun.tally step (actsOn 1) (entry beyond) events)) := by
  have hStart : InRows (entry beyond) fun _ => 0 := rfl
  have hRun := StepRun.run_tallies InRows step_inRows hStart events
  simp only [Nat.zero_add] at hRun
  exact hRun

end WheelDisplay.Firmware
