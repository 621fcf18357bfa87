import WheelDisplay.Firmware.Places
import WheelDisplay.Ks0108.Transfer
import WheelDisplay.Lcd.GearArea

/-! # The gear on the panel

An update sends the gear to its label and draws what is due. The other labels stay outside
the area of the gear in every run, also the one that FUEL_NEED runs over and moves.
-/

namespace WheelDisplay.Firmware

open Ks0108 Lcd Labels Usb DisplayType

theorem Placed.outside_gear {k : Nat} {t : LCDtext} (h : Placed k t) (hLow : 2 ≤ k) (hHigh : k < 14) :
    gearArea.Outside t := by
  have hHomes : ∀ k < 14, 2 ≤ k → ((home k).font = fontSmall ∨ (home k).font = fontLarge) ∧
      (k < 10 → Clear (home k).font (home k).y (home k).x ∧ (home k).x ≤ 120) ∧
      (10 ≤ k → (home k).font ≠ fontLarge ∧ 6 ≤ (home k).y ∧ (home k).y < 8) := by
    decide +kernel
  obtain ⟨hFont, hAbove, hBelow⟩ := hHomes k hHigh hLow
  rw [← h.font] at hFont hAbove hBelow
  refine ⟨hFont, ?_⟩
  obtain ⟨hX, hY⟩ | ⟨hMoved, hX, hY⟩ := h.place
  · rw [← hX, ← hY] at hAbove
    rw [← hY] at hBelow
    obtain hUpper | hLower := Nat.lt_or_ge k 10
    · exact .inr ⟨(hAbove hUpper).1, (hAbove hUpper).2, h.short (by omega) (by omega)⟩
    · exact .inl fun _ => .inr (.inr (hBelow hLower))
  · refine .inr ⟨.inr (.inl ?_), ?_, h.short (by omega) (by omega)⟩
    · rw [hX]
      decide
    · rw [hX]
      decide

theorem processMessages_due {types : Nat → Byte} (h : Typed types) (data : Nat → Word) {l : Labels} {screen : Screen}
    (hDue : GearDue l screen) : GearDue (processMessages types data l) screen := by
  rw [GearDue, processMessages_posGear h, processGear]
  split
  · rw [modify_eq, set_same]
    exact .inl (LCDtext.getRedraw_setRedraw _)
  · exact hDue

theorem catchButtons_due {f : Firmware} {screen : Screen} (h : GearDue f.labels screen) :
    GearDue (catchButtons f).labels screen := by
  rw [GearDue]
  obtain hSame | hSame := catchButtons_label f posGear
  · rw [hSame]
    exact h
  · rw [hSame]
    exact .inl (LCDtext.getRedraw_setRedraw _)

theorem catchButtons_outputs (f : Firmware) :
    (catchButtons f).drawn = f.drawn ∧ (catchButtons f).device.data = f.device.data := by
  rw [catchButtons]
  split <;> exact ⟨rfl, rfl⟩

theorem update_drawn {f : Firmware} (hPending : f.device.updatePending ≠ 0) :
    (update f).drawn = f.drawn ++ (lcdUpdate (processMessages f.lcdtypes f.device.data f.labels)).1 := by
  rw [update, if_neg hPending]

/-- What an update finds in `data` for a type. -/
def sentTo (type : Nat) (f : Firmware) (e : Event) : Option Word :=
  if isTurn f e = true ∧ (catchButtons f).device.updatePending ≠ 0 then some (f.device.data type) else none

structure GearDrawn (panel : Panel) (f : Firmware) (gear : Word) : Prop where
  arranged : Arranged f
  number : (f.labels posGear).number = gear
  due : GearDue f.labels (panel.run f.drawn).screen
  shown : Quiet f → ShowsGlyph (gear.setWidth 8) (panel.run f.drawn).screen

theorem update_gearDrawn {panel : Panel} {f : Firmware} {gear : Word} (hArranged : Arranged f)
    (hNumber : (f.labels posGear).number = gear) (hDue : GearDue f.labels (panel.run f.drawn).screen)
    (hPending : f.device.updatePending ≠ 0) :
    GearDrawn panel (update f) (nextGear gear (f.device.data typeGear.toNat)) := by
  have hTyped := hArranged.regular.typed
  obtain ⟨hPlaced, hSmall⟩ := messages_arranged hArranged
  have hShown := lcdUpdate_gear (panel.run f.drawn) (fun k hLow hHigh => (hPlaced k hLow hHigh).outside_gear hLow hHigh)
    hSmall (processMessages_due hTyped f.device.data hDue)
  have hGear : ((lcdUpdate (processMessages f.lcdtypes f.device.data f.labels)).2 posGear).number =
      nextGear gear (f.device.data typeGear.toNat) := by
    rw [update_number, processMessages_number hTyped, hNumber]
  rw [← Panel.run_append, ← update_drawn hPending, hGear] at hShown
  refine ⟨update_arranged hArranged, ?_, .inr ?_, fun _ => hShown⟩
  · rw [update_labels hPending, hGear]
  · rw [update_labels hPending, hGear]
    exact hShown

theorem turn_gearDrawn {panel : Panel} {f : Firmware} {gear : Word} (h : GearDrawn panel f gear)
    (hPending : (catchButtons f).device.updatePending ≠ 0) :
    GearDrawn panel (update (catchButtons f)) (nextGear gear (f.device.data typeGear.toNat)) := by
  obtain ⟨hDrawn, hData⟩ := catchButtons_outputs f
  have hNumber : ((catchButtons f).labels posGear).number = gear := (catchButtons_number f posGear).trans h.number
  have hDue : GearDue (catchButtons f).labels (panel.run (catchButtons f).drawn).screen := by
    rw [hDrawn]
    exact catchButtons_due h.due
  rw [← hData]
  exact update_gearDrawn (catchButtons_arranged h.arranged) hNumber hDue hPending

theorem GearDrawn.kept {panel : Panel} {f f' : Firmware} {gear : Word} (h : GearDrawn panel f gear) (hKept : Kept f f') :
    GearDrawn panel f' gear := by
  refine ⟨h.arranged.kept hKept, hKept.labels ▸ h.number, ?_, ?_⟩
  · rw [hKept.labels, hKept.drawn]
    exact h.due
  · intro hQuiet
    rw [hKept.drawn]
    exact h.shown (hKept.quiet hQuiet).1

theorem sentTo_none {f : Firmware} {e : Event} (h : ¬ Updates f e) (type : Nat) : sentTo type f e = none := if_neg h

theorem sentTo_some {f : Firmware} {e : Event} (h : Updates f e) (type : Nat) :
    sentTo type f e = some (f.device.data type) := if_pos h

theorem step_gearDrawn {panel : Panel} (f : Firmware) (gear : Word) (e : Event) (h : GearDrawn panel f gear) :
    GearDrawn panel (step f e) ((sentTo typeGear.toNat f e).elim gear (nextGear gear)) := by
  obtain ⟨hNone, hKept⟩ | ⟨hUpdates, hKept⟩ := step_cases f e
  · rw [sentTo_none hNone]
    exact h.kept hKept
  · rw [sentTo_some hUpdates]
    exact (turn_gearDrawn h hUpdates.2).kept hKept

theorem run_nextGear (gear : Word) (values : List Word) : StepRun.run nextGear gear values = (lastGear values).getD gear := by
  induction values generalizing gear with
  | nil => rfl
  | cons value rest ih => rw [StepRun.run_cons, ih, lastGear_cons, nextGear]

/-- The gears that the updates of a run found in `data`. -/
def gearsSent (beyond : Nat → LCDtext) (events : List Event) : List Word :=
  StepRun.emitted step (sentTo typeGear.toNat) (entry beyond) events

theorem run_gearDrawn (panel : Panel) (beyond : Nat → LCDtext) (events : List Event) :
    GearDrawn panel (run beyond events) ((lastGear (gearsSent beyond events)).getD 8) := by
  have hStart : GearDrawn panel (entry beyond) 8 := by
    have hRedraw := LCDtext.getRedraw_setRedraw { blank with font := fontHuge, number := 8 }
    refine ⟨entry_arranged beyond, rfl, .inl hRedraw, ?_⟩
    intro hQuiet
    exact absurd hQuiet (by decide : (1 : Byte) ≠ 0)
  have hRun := StepRun.run_follows (GearDrawn panel) step_gearDrawn hStart events
  rw [run_nextGear] at hRun
  exact hRun

/-- When no write has met a busy controller and no update is pending, the panel behind the ports shows the last gear
below 9 that an update found in `data`, which is the one that stands there; only the first two of its 25 columns may
have been blanked. -/
theorem gear_on_panel (panel : Panel) {latency : Nat → Nat} {busy : Fin 2 → Nat} (fuel : Nat)
    {beyond : Nat → LCDtext} {events : List Event}
    (hReady : StepRun.Along (loadStep latency) Ready ⟨busy, 0⟩ (run beyond events).drawn)
    (h : (run beyond events).device.updatePending = 0) :
    let gear := (lastGear (gearsSent beyond events)).getD 8
    (∃ b, issue (fuel + 1) (run beyond events).drawn (powered latency busy) = some b ∧
        ShowsGlyph (gear.setWidth 8) (observed panel b.trace).screen) ∧
      ((run beyond events).device.data typeGear.toNat < 9 → gear = (run beyond events).device.data typeGear.toNat) := by
  intro gear
  have hDrawn := run_gearDrawn panel beyond events
  obtain ⟨b, hIssue, hPanel⟩ := issue_panel hReady panel fuel
  refine ⟨⟨b, hIssue, ?_⟩, fun hValid => hDrawn.number.symm.trans ((run_settled beyond events h).gear hValid)⟩
  rw [hPanel]
  exact hDrawn.shown h

/-- The host sends the gear 3, and the loop turns once. Each controller is busy at the first look after a write. -/
def third : List Event :=
  [.wakeUp, .reset, .setup ⟨64, 0x1F, 3, 0, 0⟩, .task idle, .task idle, .task idle]

theorem gear_on_panel_third :
    let gear := (lastGear (gearsSent (fun _ => blank) third)).getD 8
    gear = 3 ∧ ∃ b, issue 1 (run (fun _ => blank) third).drawn (powered (fun _ => 1) fun _ => 1) = some b ∧
      ShowsGlyph (gear.setWidth 8) (observed litPanel b.trace).screen := by
  have hReady : ∀ calls, StepRun.Along (loadStep fun _ => 1) Ready ⟨fun _ => 1, 0⟩ calls :=
    ready_of_prompt (fun _ => le_rfl) fun _ => le_rfl
  exact ⟨by decide +kernel, (gear_on_panel litPanel 0 (hReady _) (by decide +kernel)).1⟩

end WheelDisplay.Firmware
