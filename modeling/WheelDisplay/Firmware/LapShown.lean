import WheelDisplay.Firmware.GearShown
import WheelDisplay.Firmware.Rotation
import WheelDisplay.Lcd.Clear
import WheelDisplay.Lcd.LapLine

/-! # The lap time on the panel

The rows of the two times are never rotated. An update sends the lap time to its label and
draws it over the one before, and a time of 0 leaves the label as it is.
-/

namespace WheelDisplay.Firmware

open Ks0108 Lcd Labels Usb DisplayType

def deltaLabel : Nat := 13

/-- The times that an update finds in `data` fit their texts. -/
def TimesFit (f : Firmware) (e : Event) : Prop :=
  Updates f e → ¬ Overlong (f.device.data laptime.code.toNat) ∧ ¬ Overlong (f.device.data delta.code.toNat)

instance (f : Firmware) (e : Event) : Decidable (TimesFit f e) :=
  inferInstanceAs (Decidable (isTurn f e = true ∧ (catchButtons f).device.updatePending ≠ 0 → _ ∧ _))

/-- The last of the values that is not 0. -/
def lastLap (values : List Word) : Option Word := (values.filter (· ≠ 0)).getLast?

theorem Placed.lapPlace {t : LCDtext} (h : Placed lapLabel t) : LapPlace t := by
  obtain ⟨hX, hY⟩ | ⟨hUpper, -, -⟩ := h.place
  · exact ⟨h.font, hX, hY⟩
  · exact absurd hUpper (by decide)

theorem Placed.outside_lap {k : Nat} {t : LCDtext} (h : Placed k t) (hLow : 2 ≤ k) (hHigh : k < 14) (hLap : k ≠ lapLabel)
    (hDelta : k = deltaLabel → t.len ≤ 13) : lapLine.Outside t := by
  have hHomes : ∀ k < 14, 2 ≤ k → k ≠ lapLabel → ((home k).font = fontSmall ∨ (home k).font = fontLarge) ∧
      Aside (home k).font (home k).y (home k).x ∧ (home k).x ≤ 120 := by
    decide +kernel
  obtain ⟨hFont, hAside, hColumn⟩ := hHomes k hHigh hLow hLap
  have hShort : t.len ≤ 13 := by
    by_cases hLast : k = deltaLabel
    · exact hDelta hLast
    · exact h.short hLap hLast
  rw [← h.font] at hFont hAside
  refine ⟨hFont, .inr ?_⟩
  obtain ⟨hX, hY⟩ | ⟨-, hX, -⟩ := h.place
  · rw [← hX, ← hY] at hAside
    exact ⟨hAside, hX ▸ hColumn, hShort⟩
  · rw [hX]
    exact ⟨.inl (by decide), by decide, hShort⟩

theorem InRows.times {f : Firmware} {rotations : Fin 2 → Nat} (h : InRows f rotations) :
    f.lcdtypes 5 = laptime.code ∧ f.lcdtypes 6 = delta.code := by
  rw [h]
  exact ⟨rfl, rfl⟩

theorem InRows.catchButtons {f : Firmware} {rotations : Fin 2 → Nat} (h : InRows f rotations) :
    ∃ rotations', InRows (catchButtons f) rotations' := by
  refine ⟨fun button => rotations button + if f.device.buttonChange.getLsbD button = true then 1 else 0, ?_⟩
  rw [InRows, catchButtons_lcdtypes, h, rotateBoth_slots]

theorem processMessages_valued {f : Firmware} (h : Regular f) (row : Fin 6) {type : DisplayType}
    (hType : f.lcdtypes (row.val + 1) = type.code) (hNeed : type ≠ fuelNeed) :
    Valued type (f.device.data type.code.toNat) 0 (f.labels (headerPos row + 1))
      (processMessages f.lcdtypes f.device.data f.labels (headerPos row + 1)) := by
  obtain ⟨type', hCode, -, due, -, hValued⟩ := processMessages_row h.typed f.device.data f.labels row
  obtain rfl := code_injective (hType.symm.trans hCode)
  rw [hType, h.zero row, valueBetween_eq fun _ => hNeed] at hValued
  exact hValued

structure LapDrawn (panel : Panel) (f : Firmware) (lap : Option Word) : Prop where
  arranged : Arranged f
  rows : ∃ rotations, InRows f rotations
  delta : (f.labels deltaLabel).len ≤ 13
  due : LapDue lap (f.labels lapLabel) (panel.run f.drawn).screen
  shown : Quiet f → Lined (lapCells lap) (panel.run f.drawn).screen
  sent : Quiet f → nextLap lap (f.device.data laptime.code.toNat) = lap

theorem update_lapDrawn {panel : Panel} {f : Firmware} {lap : Option Word} (hArranged : Arranged f)
    {rotations : Fin 2 → Nat} (hRows : InRows f rotations) (hDelta : (f.labels deltaLabel).len ≤ 13)
    (hDue : LapDue lap (f.labels lapLabel) (panel.run f.drawn).screen) (hPending : f.device.updatePending ≠ 0)
    (hFit : ¬ Overlong (f.device.data laptime.code.toNat) ∧ ¬ Overlong (f.device.data delta.code.toNat)) :
    LapDrawn panel (update f) (nextLap lap (f.device.data laptime.code.toNat)) := by
  have hPlaced := (messages_arranged hArranged).1
  have hTimes := hRows.times
  have hLapValue := processMessages_valued hArranged.regular ⟨4, by decide⟩ hTimes.1 (by decide)
  have hDeltaValue := processMessages_valued hArranged.regular ⟨5, by decide⟩ hTimes.2 (by decide)
  have hLap := hDue.valued rfl hLapValue hFit.1
  have hShort := hDeltaValue.short rfl hFit.2 hDelta
  have hPlace : LapPlace (processMessages f.lcdtypes f.device.data f.labels lapLabel) :=
    (hPlaced lapLabel (by decide) (by decide)).lapPlace
  obtain ⟨hDrawn, hShown⟩ := lcdUpdate_lap (panel.run f.drawn) (fun k hLow hHigh hNe =>
    (hPlaced k hLow hHigh).outside_lap hLow hHigh hNe fun hLast => hLast ▸ hShort) hPlace hLap
  rw [← Panel.run_append, ← update_drawn hPending, ← update_labels hPending] at hDrawn
  rw [← Panel.run_append, ← update_drawn hPending] at hShown
  refine ⟨update_arranged hArranged, ⟨rotations, (update_lcdtypes f).trans hRows⟩, ?_, hDrawn, fun _ => hShown,
    fun _ => ?_⟩
  · rw [update_labels hPending, (lcdUpdate_refreshed _ (by decide) (by decide)).len]
    exact hShort
  · rw [(update_types_data f).2]
    exact nextLap_again lap _

theorem turn_lapDrawn {panel : Panel} {f : Firmware} {lap : Option Word} (h : LapDrawn panel f lap)
    (hPending : (catchButtons f).device.updatePending ≠ 0)
    (hFit : ¬ Overlong (f.device.data laptime.code.toNat) ∧ ¬ Overlong (f.device.data delta.code.toNat)) :
    LapDrawn panel (update (catchButtons f)) (nextLap lap (f.device.data laptime.code.toNat)) := by
  obtain ⟨hDrawn, hData⟩ := catchButtons_outputs f
  obtain ⟨_, hRows⟩ := h.rows
  obtain ⟨_, hRotated⟩ := hRows.catchButtons
  have hDelta : ((catchButtons f).labels deltaLabel).len ≤ 13 := by
    rw [catchButtons_len]
    exact h.delta
  have hDue : LapDue lap ((catchButtons f).labels lapLabel) (panel.run (catchButtons f).drawn).screen := by
    rw [hDrawn]
    obtain hSame | hSame := catchButtons_label f lapLabel
    · rw [hSame]
      exact h.due
    · rw [hSame]
      exact h.due.setRedraw
  rw [← hData] at hFit ⊢
  exact update_lapDrawn (catchButtons_arranged h.arranged) hRotated hDelta hDue hPending hFit

theorem LapDrawn.kept {panel : Panel} {f f' : Firmware} {lap : Option Word} (h : LapDrawn panel f lap)
    (hKept : Kept f f') : LapDrawn panel f' lap := by
  obtain ⟨rotations, hRows⟩ := h.rows
  refine ⟨h.arranged.kept hKept, ⟨rotations, hKept.types.trans hRows⟩, hKept.labels ▸ h.delta, ?_, ?_, ?_⟩
  · rw [hKept.labels, hKept.drawn]
    exact h.due
  · intro hQuiet
    rw [hKept.drawn]
    exact h.shown (hKept.quiet hQuiet).1
  · intro hQuiet
    obtain ⟨hBefore, hData⟩ := hKept.quiet hQuiet
    rw [hData]
    exact h.sent hBefore

theorem step_lapDrawn {panel : Panel} (f : Firmware) (lap : Option Word) (e : Event) (h : LapDrawn panel f lap)
    (hFit : TimesFit f e) :
    LapDrawn panel (step f e) ((sentTo laptime.code.toNat f e).elim lap (nextLap lap)) := by
  obtain ⟨hNone, hKept⟩ | ⟨hUpdates, hKept⟩ := step_cases f e
  · rw [sentTo_none hNone]
    exact h.kept hKept
  · rw [sentTo_some hUpdates]
    exact (turn_lapDrawn h hUpdates.2 (hFit hUpdates)).kept hKept

theorem run_nextLap (lap : Option Word) (values : List Word) :
    StepRun.run nextLap lap values = (lastLap values).or lap := by
  induction values generalizing lap with
  | nil => rfl
  | cons value rest ih =>
    rw [StepRun.run_cons, ih, nextLap]
    obtain rfl | hNew := eq_or_ne value 0
    · rw [if_pos rfl, lastLap, lastLap, List.filter_cons_of_neg (by decide)]
    · rw [if_neg hNew, lastLap, lastLap, List.filter_cons_of_pos (by exact decide_eq_true hNew), List.getLast?_cons]
      cases (rest.filter (· ≠ 0)).getLast? <;> rfl

/-- The lap times that the updates of a run found in `data`. -/
def lapsSent (beyond : Nat → LCDtext) (events : List Event) : List Word :=
  StepRun.emitted step (sentTo laptime.code.toNat) (entry beyond) events

theorem entry_lapDrawn (panel : Panel) (beyond : Nat → LCDtext) : LapDrawn panel (entry beyond) none := by
  have hBlank : Lined [] (panel.run ks0108Clear).screen := by
    intro j _
    rw [Raster.paint_nil]
    exact (ks0108Clear_panel panel (Panel.chipOf j)).1 7 (BitVec.ofNat 6 j)
  refine ⟨entry_arranged beyond, ⟨fun _ => 0, rfl⟩, (by decide : (0 : Byte) ≤ 13), ?_, ?_, ?_⟩
  · refine ⟨⟨rfl, rfl, fun _ _ => rfl⟩, [], hBlank, rfl, Nat.zero_le _, fun hClear => ?_⟩
    exact absurd (hClear.symm.trans (LCDtext.getRedraw_setRedraw _)) (by decide)
  · intro hQuiet
    exact absurd hQuiet (by decide : (1 : Byte) ≠ 0)
  · intro hQuiet
    exact absurd hQuiet (by decide : (1 : Byte) ≠ 0)

theorem run_lapDrawn (panel : Panel) (beyond : Nat → LCDtext) {events : List Event}
    (hFit : StepRun.Along step TimesFit (entry beyond) events) :
    LapDrawn panel (run beyond events) (lastLap (lapsSent beyond events)) := by
  have hRun : LapDrawn panel (run beyond events) (StepRun.run nextLap none (lapsSent beyond events)) :=
    StepRun.run_follows_along (LapDrawn panel) step_lapDrawn (entry_lapDrawn panel beyond) hFit
  rw [run_nextLap, Option.or_none] at hRun
  exact hRun

/-- As long as the times fit their texts and no write meets a busy controller, the left half of the last page behind the
ports shows, whenever no update is pending, the last lap time other than 0 that an update found in `data`, and no other
one could look the same. It is the one that stands in `data`, unless that is 0. -/
theorem lap_on_panel (panel : Panel) {latency : Nat → Nat} {busy : Fin 2 → Nat} (fuel : Nat)
    {beyond : Nat → LCDtext} {events : List Event}
    (hReady : StepRun.Along (loadStep latency) Ready ⟨busy, 0⟩ (run beyond events).drawn)
    (hFit : StepRun.Along step TimesFit (entry beyond) events) (h : (run beyond events).device.updatePending = 0) :
    let lap := lastLap (lapsSent beyond events)
    let value := (run beyond events).device.data laptime.code.toNat
    (∃ b, issue (fuel + 1) (run beyond events).drawn (powered latency busy) = some b ∧
        ReadsLap lap (observed panel b.trace).screen) ∧
      (value ≠ 0 → lap = some value) := by
  intro lap value
  have hDrawn := run_lapDrawn panel beyond hFit
  obtain ⟨b, hIssue, hPanel⟩ := issue_panel hReady panel fuel
  refine ⟨⟨b, hIssue, ?_⟩, fun hValue => ?_⟩
  · rw [hPanel]
    exact hDrawn.due.spells.readsLap (hDrawn.shown h)
  · exact (hDrawn.sent h).symm.trans (if_neg hValue)

/-- The host sends the lap time 1:05.3, and the loop turns once. -/
def lapped : List Event :=
  [.wakeUp, .reset, .setup ⟨64, 0x10, 0x0453, 0, 0⟩, .task idle, .task idle, .task idle]

theorem lap_on_panel_lapped :
    lastLap (lapsSent (fun _ => blank) lapped) = some 0x0453 ∧
      ∃ b, issue 1 (run (fun _ => blank) lapped).drawn (powered (fun _ => 1) fun _ => 1) = some b ∧
        ReadsLap (lastLap (lapsSent (fun _ => blank) lapped)) (observed litPanel b.trace).screen := by
  have hFit : StepRun.Along step TimesFit (entry fun _ => blank) lapped := by decide +kernel
  have hReady : ∀ calls, StepRun.Along (loadStep fun _ => 1) Ready ⟨fun _ => 1, 0⟩ calls :=
    ready_of_prompt (fun _ => le_rfl) fun _ => le_rfl
  obtain ⟨hPanel, hSent⟩ := lap_on_panel litPanel 0 (hReady _) hFit (by decide +kernel)
  have hValue : (run (fun _ => blank) lapped).device.data laptime.code.toNat = 0x0453 := by decide +kernel
  rw [hValue] at hSent
  exact ⟨hSent (by decide), hPanel⟩

end WheelDisplay.Firmware
