import WheelDisplay.Firmware.UpdatePass
import WheelDisplay.Firmware.Wired

/-! # What holds while no update is pending

A write that changes `data` asks for an update, and so does a press. Until one of
them comes, the outputs and the display go on showing what the last update gave them.
-/

namespace WheelDisplay.Firmware

open Lcd Labels Usb Spi

/-- The value is one that a message shows whatever its label held before. -/
def Presentable (type : Byte) (value : Word) : Prop := value ≠ 0 ∧ (isTimeCode type → ¬ Overlong value)

structure Settled (f : Firmware) : Prop where
  leds : f.gpiob = (f.device.data typeShiftleds &&& 0x7F).setWidth 8
  backlight : f.ocr1c = f.device.data typeBacklight
  gear : ShowsGear f
  rows : ∀ row, Presentable (rowType f row) (rowValue f row) → Shows row f

def Quiet (f : Firmware) : Prop := f.device.updatePending = 0

theorem Settled.congr {f f' : Firmware} (h : Settled f) (hData : f'.device.data = f.device.data)
    (hTypes : f'.lcdtypes = f.lcdtypes) (hLabels : f'.labels = f.labels) (hLeds : f'.gpiob = f.gpiob)
    (hBacklight : f'.ocr1c = f.ocr1c) : Settled f' := by
  have hType : rowType f' = rowType f := by
    funext row
    rw [rowType, rowType, hTypes]
  have hValue : rowValue f' = rowValue f := by
    funext row
    rw [rowValue, rowValue, hType, hData]
  refine ⟨?_, ?_, ?_, ?_⟩
  · rw [hLeds, hData, h.leds]
  · rw [hBacklight, hData, h.backlight]
  · rw [ShowsGear, hData, hLabels]
    exact h.gear
  · intro row
    rw [Shows, valueLabel, hLabels, hType, hValue]
    exact h.rows row

theorem showable_of_presentable {f : Firmware} {row : Fin 6} (h : Presentable (rowType f row) (rowValue f row)) :
    Showable row f := by
  rw [Showable, if_neg h.1]
  exact h.2

theorem update_settled {f : Firmware} (h : Regular f) (hPending : f.device.updatePending ≠ 0) : Settled (update f) := by
  obtain ⟨hTypes, hData⟩ := update_types_data f
  refine ⟨?_, ?_, update_gear h hPending, ?_⟩
  · rw [hData, update, if_neg hPending]
  · rw [hData, update, if_neg hPending]
  · intro row hPresentable
    rw [rowType, rowValue, rowType, hTypes, hData] at hPresentable
    exact (update_shows_iff h hPending row).mpr (showable_of_presentable hPresentable)

/-- A turn that finds no update pending and no press does nothing. -/
theorem turn_quiet {f : Firmware} (h : (catchButtons f).device.updatePending = 0) :
    update (catchButtons f) = f ∧ Quiet f := by
  have hSame : update (catchButtons f) = f := by
    rw [update, if_pos h]
    rw [catchButtons] at h ⊢
    split at h
    next hNone => rw [if_pos hNone]
    next => exact absurd h (by decide : (1 : Byte) ≠ 0)
  refine ⟨hSame, ?_⟩
  rw [← hSame, Quiet, update, if_pos h]
  exact h

/-- What leaves no update pending changed nothing in `data`. -/
theorem usbTask_quiet (env : Environment) {d : Device} (h : (usbTask env d).updatePending = 0) :
    (usbTask env d).data = d.data ∧ d.updatePending = 0 := by
  obtain ⟨hData, hPending⟩ | ⟨r, -, -, hData, hPending⟩ := usbTask_cases env d
  · exact ⟨hData, hPending.symm.trans h⟩
  · rw [h] at hPending
    split at hPending
    next => exact absurd hPending (by decide)
    next hSame =>
      rw [← not_not.mp hSame, Function.update_eq_self] at hData
      exact ⟨hData, hPending.symm⟩

theorem step_turn {f : Firmware} {e : Event} (hTurn : isTurn f e = true) :
    ∃ filter sample, step f e =
      { update (catchButtons f) with filter := filter, audioSample := sample, next := .hid } := by
  cases e with
  | task found =>
    have hNext : f.next = .body := eq_of_beq hTurn
    obtain ⟨filter, sample, hBody⟩ := body_eq found.voice found.noise f
    refine ⟨filter, sample, ?_⟩
    rw [step, runTask, hNext]
    simp only [hBody]
  | _ => cases hTurn

/-- Nothing that shows has changed, and no update is pending only where none was and nothing in `data` has changed
either. -/
structure Kept (f f' : Firmware) : Prop where
  types : f'.lcdtypes = f.lcdtypes
  labels : f'.labels = f.labels
  drawn : f'.drawn = f.drawn
  leds : f'.gpiob = f.gpiob
  backlight : f'.ocr1c = f.ocr1c
  quiet : Quiet f' → Quiet f ∧ f'.device.data = f.device.data

theorem step_kept {f : Firmware} {e : Event} (hTurn : isTurn f e = false) : Kept f (step f e) := by
  cases e with
  | task found =>
    rw [step, runTask]
    cases hNext : f.next with
    | hid =>
      obtain ⟨hData, hPending⟩ := Hid.usbTask_data found.frameNumber found.ready found.buttons f.device
      exact ⟨rfl, rfl, rfl, rfl, rfl, fun hQuiet => ⟨hPending.symm.trans hQuiet, hData⟩⟩
    | usb => exact ⟨rfl, rfl, rfl, rfl, rfl, fun hQuiet => (usbTask_quiet found.host hQuiet).symm⟩
    | body =>
      rw [isTurn, hNext] at hTurn
      cases hTurn
  | _ => exact ⟨rfl, rfl, rfl, rfl, rfl, fun hQuiet => ⟨hQuiet, rfl⟩⟩

/-- A step updates the display, or leaves alone what shows. -/
theorem step_cases (f : Firmware) (e : Event) :
    ¬ Updates f e ∧ Kept f (step f e) ∨ Updates f e ∧ Kept (update (catchButtons f)) (step f e) := by
  cases hTurn : isTurn f e with
  | true =>
    obtain ⟨filter, sample, hStep⟩ := step_turn hTurn
    rw [hStep]
    obtain hQuiet | hPending := eq_or_ne (catchButtons f).device.updatePending 0
    · rw [(turn_quiet hQuiet).1]
      exact .inl ⟨fun hUpdates => hUpdates.2 hQuiet, rfl, rfl, rfl, rfl, rfl, fun hAfter => ⟨hAfter, rfl⟩⟩
    · exact .inr ⟨⟨hTurn, hPending⟩, rfl, rfl, rfl, rfl, rfl, fun hAfter => ⟨hAfter, rfl⟩⟩
  | false => exact .inl ⟨fun hUpdates => Bool.false_ne_true (hTurn.symm.trans hUpdates.1), step_kept hTurn⟩

theorem Settled.kept {f f' : Firmware} (hSettled : Quiet f → Settled f) (hKept : Kept f f') : Quiet f' → Settled f' := by
  intro hQuiet
  obtain ⟨hBefore, hData⟩ := hKept.quiet hQuiet
  exact (hSettled hBefore).congr hData hKept.types hKept.labels hKept.leds hKept.backlight

theorem step_settled {f : Firmware} (e : Event) (h : Regular f) (hSettled : Quiet f → Settled f) :
    Quiet (step f e) → Settled (step f e) := by
  obtain ⟨-, hKept⟩ | ⟨hUpdates, hKept⟩ := step_cases f e
  · exact Settled.kept hSettled hKept
  · exact Settled.kept (fun _ => update_settled (catchButtons_regular h) hUpdates.2) hKept

theorem run_settled (beyond : Nat → LCDtext) (events : List Event) :
    Quiet (run beyond events) → Settled (run beyond events) := by
  have hInvariant : Regular (run beyond events) ∧ (Quiet (run beyond events) → Settled (run beyond events)) :=
    StepRun.run_invariant (fun f => Regular f ∧ (Quiet f → Settled f))
      (fun f e hBoth => ⟨step_regular f e hBoth.1, step_settled e hBoth.1 hBoth.2⟩)
      ⟨entry_regular beyond, fun hQuiet : (1 : Byte) = 0 => absurd hQuiet (by decide)⟩ events
  exact hInvariant.2

/-- Whenever no update is pending, the lights, the backlight and the gear are those of `data`, and every row shows its
value, unless that is 0 or a time too long for the text. -/
theorem quiet_settled (beyond : Nat → LCDtext) {events : List Event}
    (h : (run beyond events).device.updatePending = 0) : Settled (run beyond events) :=
  run_settled beyond events h

theorem quiet_settled_five : Settled (run (fun _ => blank) (returning.take 6)) :=
  quiet_settled (fun _ => blank) (by decide +kernel)

/-- Whenever no update is pending, the lights on port B are those that the host wrote. -/
theorem lights_settled {wiring : (ChipName → Option Byte) → Byte} (hWiring : SerialBus.Faithful wiring)
    (floor : Fin 2 → Word) (voiceFirst : Bool) (beyond : Nat → LCDtext) (world : Outside) (undriven : Byte)
    (happenings : List Happening) :
    let w := StepRun.run (Wired.step wiring floor voiceFirst) (Wired.start wiring beyond world undriven) happenings
    w.firmware.device.updatePending = 0 →
      w.bench.peripherals.expander.register (Mcp23s17.olat 1) = (w.firmware.device.data typeShiftleds &&& 0x7F).setWidth 8 := by
  intro w hQuiet
  obtain ⟨hFirmware, hBoard⟩ := run_matches hWiring floor voiceFirst beyond world undriven happenings
  have hRun := hFirmware.trans (facing_run floor beyond world happenings)
  have hSettled : Settled w.firmware := by
    rw [hRun] at hQuiet ⊢
    exact run_settled beyond _ hQuiet
  rw [hBoard.register, ← hFirmware]
  exact hSettled.leds

/-- The host writes the lights, and the loop turns once. -/
def lit : List Happening :=
  [.wakeUp, .reset, .setup ⟨64, 8, 0x2A, 0, 0⟩, .task idle, .task idle, .task idle].map .firmware

theorem lights_settled_lit :
    let w := StepRun.run (Wired.step wiredAnd (fun _ => 0) true)
      (Wired.start wiredAnd (fun _ => blank) thirdPressed 0) lit
    w.bench.peripherals.expander.register (Mcp23s17.olat 1) = (w.firmware.device.data typeShiftleds &&& 0x7F).setWidth 8 ∧
      w.firmware.device.data typeShiftleds = 0x2A :=
  ⟨lights_settled wiredAnd_faithful (fun _ => 0) true (fun _ => blank) thirdPressed 0 lit (by decide +kernel),
    by decide +kernel⟩

end WheelDisplay.Firmware
