import WheelDisplay.Firmware.Wired

/-! # The buttons that are outputs

`GPIOSetDir(0x0f, 0x00)` makes the upper half of port A outputs, and every report is read
after `GPIOWrite(0, 1)` has driven them low. With IPOL set they read as pressed.
-/

namespace WheelDisplay.Firmware

open Spi Mcp23s17 Usb

theorem sampled_observe (f : Firmware) (found : Surroundings) (buttons : Byte) (voice noise : Nlms.Sample) :
    sampled f (.task (found.observe buttons voice noise)) = (sampled f (.task found)).map fun _ => buttons := by
  rw [sampled, sampled]
  cases f.next with
  | hid =>
    dsimp only
    rw [Hid.sampledBy, Hid.sampledBy, apply_ite (Option.map fun _ => buttons)]
    rfl
  | usb =>
    dsimp only
    cases takenUp f.device with
    | none => rfl
    | some r =>
      rw [Option.bind_some, Option.bind_some, apply_ite (Option.map fun _ => buttons)]
      rfl
  | body => rfl

theorem change_masked (last mask kept : Word) :
    (last ^^^ mask) &&& mask &&& kept = (last &&& kept ^^^ mask &&& kept) &&& (mask &&& kept) := by
  apply BitVec.eq_of_getLsbD_eq
  intro i hi
  simp only [BitVec.getLsbD_and, BitVec.getLsbD_xor]
  cases last.getLsbD i <;> cases mask.getLsbD i <;> cases kept.getLsbD i <;> rfl

theorem buttons_upper (world : Outside) : (world.buttons.setWidth 16 : Word) &&& 0xFFF0 = 0x00F0 := by
  have hAll : ∀ level : Byte, ((0xF0 ||| ~~~level &&& 0x0F).setWidth 16 : Word) &&& 0xFFF0 = 0x00F0 := by
    decide +kernel
  exact hAll (world.level 0)

/-- The upper half of port A, which the firmware drives low, reads as four buttons that are held. -/
def Phantom (s : Facing) : Prop := s.firmware.device.prevButtonMask &&& 0xFFF0 = if s.polled then 0x00F0 else 0

/-- The presses of these four that a poll finds: all of them the first time, none later. -/
def PressedOnce (floor : Fin 2 → Word) (s : Facing) (happening : Happening) : Prop :=
  s.polls happening = true →
    (s.step floor happening).firmware.device.buttonChange &&& 0xFFF0 = if s.polled then 0 else 0x00F0

theorem step_words (floor : Fin 2 → Word) (s : Facing) (happening : Happening) :
    buttonWords (s.step floor happening).firmware =
      if s.polls happening then
        (s.world.buttons.setWidth 16,
          (s.firmware.device.prevButtonMask ^^^ s.world.buttons.setWidth 16) &&& s.world.buttons.setWidth 16)
      else buttonWords s.firmware := by
  cases happening with
  | outside world undriven => rfl
  | firmware e =>
    cases e with
    | task found =>
      have hStep : (s.step floor (.firmware (.task found))).firmware =
          s.firmware.step (.task (s.observed floor found)) := rfl
      have hPolls : s.polls (.firmware (.task found)) = (sampled s.firmware (.task found)).isSome := rfl
      rw [hStep, hPolls, step_buttonWords, Facing.observed]
      split
      next hBody =>
        have hNone : ∀ found, sampled s.firmware (.task found) = none := by
          intro found
          rw [sampled]
          simp only [hBody]
        rw [hNone, hNone]
        rfl
      next =>
        rw [sampled_observe]
        cases sampled s.firmware (.task found) <;> rfl
    | _ => rfl

theorem step_phantom (floor : Fin 2 → Word) (s : Facing) (happening : Happening) (h : Phantom s) :
    Phantom (s.step floor happening) ∧ PressedOnce floor s happening := by
  have hWords := step_words floor s happening
  have hPolled : (s.step floor happening).polled = (s.polled || s.polls happening) := rfl
  rw [Phantom, PressedOnce, hPolled]
  cases hPolls : s.polls happening with
  | true =>
    rw [hPolls, if_pos rfl] at hWords
    obtain ⟨hMask, hChange⟩ := Prod.ext_iff.mp hWords
    dsimp only [buttonWords] at hMask hChange
    refine ⟨?_, fun _ => ?_⟩
    · rw [hMask, buttons_upper, Bool.or_true, if_pos rfl]
    · rw [hChange, change_masked, buttons_upper, h]
      cases s.polled <;> rfl
  | false =>
    rw [hPolls] at hWords
    obtain ⟨hMask, -⟩ := Prod.ext_iff.mp hWords
    dsimp only [buttonWords] at hMask
    refine ⟨?_, fun hTrue => absurd hTrue Bool.false_ne_true⟩
    rw [if_neg Bool.false_ne_true] at hMask
    rw [hMask, Bool.or_false]
    exact h

/-- The four outputs of port A count as pressed in the first poll of a run and in no other. -/
theorem phantom_buttons (floor : Fin 2 → Word) (beyond : Nat → Lcd.LCDtext) (world : Outside)
    (happenings : List Happening) :
    StepRun.Along (Facing.step floor) (fun s happening => Phantom s ∧ PressedOnce floor s happening)
      ⟨entry beyond, world, false⟩ happenings := by
  have hStart : Phantom ⟨entry beyond, world, false⟩ := BitVec.zero_and
  exact StepRun.along_of_invariant Phantom (fun s happening h => (step_phantom floor s happening h).1)
    (fun s happening h => ⟨h, (step_phantom floor s happening h).2⟩) hStart happenings

end WheelDisplay.Firmware
