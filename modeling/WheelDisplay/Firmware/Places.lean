import WheelDisplay.Firmware.Settled
import WheelDisplay.Lcd.Territory

/-! # Where the labels stand

Every label keeps the font and the place that `LCDinit` gave it. Only the header of FUEL_NEED
moves a label, the one that it runs over: to the right half of the display and off its pages.
-/

namespace WheelDisplay.Firmware

open Lcd Labels Usb DisplayType

def home (k : Nat) : LCDtext := lcdInit (zeroed fun _ => blank) k

/-- The times on the last two rows can be of any length. -/
structure Placed (k : Nat) (t : LCDtext) : Prop where
  font : t.font = (home k).font
  place : t.x = (home k).x ∧ t.y = (home k).y ∨ k < 10 ∧ t.x = 0x61 ∧ t.y = 0x70
  short : k ≠ 11 → k ≠ 13 → t.len ≤ 13

def AllPlaced (l : Labels) : Prop := ∀ k, 2 ≤ k → k < 14 → Placed k (l k)

theorem Placed.congr {k : Nat} {t t' : LCDtext} (h : Placed k t)
    (hSame : t'.font = t.font ∧ t'.x = t.x ∧ t'.y = t.y) (hLen : k ≠ 11 → k ≠ 13 → t.len ≤ 13 → t'.len ≤ 13) :
    Placed k t' := by
  obtain ⟨hFont, hX, hY⟩ := hSame
  refine ⟨hFont.trans h.font, ?_, fun hLap hDelta => hLen hLap hDelta (h.short hLap hDelta)⟩
  rw [hX, hY]
  exact h.place

theorem AllPlaced.of_rows {l : Labels}
    (h : ∀ row : Fin 6, Placed (headerPos row) (l (headerPos row)) ∧ Placed (headerPos row + 1) (l (headerPos row + 1))) :
    AllPlaced l := by
  intro k hLow hHigh
  have hRow : k / 2 - 1 < 6 := by omega
  obtain ⟨hHeader, hLabel⟩ := h ⟨k / 2 - 1, hRow⟩
  obtain hHere | hHere : headerPos ⟨k / 2 - 1, hRow⟩ = k ∨ headerPos ⟨k / 2 - 1, hRow⟩ + 1 = k := by
    simp only [headerPos]
    omega
  · exact hHere ▸ hHeader
  · exact hHere ▸ hLabel

theorem AllPlaced.row {l : Labels} (h : AllPlaced l) (row : Fin 6) :
    Placed (headerPos row) (l (headerPos row)) ∧ Placed (headerPos row + 1) (l (headerPos row + 1)) :=
  ⟨h _ (headerPos_ge row) (headerPos_lt row), h _ (Nat.le_succ_of_le (headerPos_ge row)) (headerPos_succ_lt row)⟩

theorem modify_congr {l l' : Labels} {j : Nat} (h : l j = l' j) (k : Nat) (f : LCDtext → LCDtext) :
    l.modify k f j = l'.modify k f j := by
  rw [modify_eq, modify_eq]
  obtain rfl | hOther := eq_or_ne j k
  · rw [set_same, set_same, h]
  · rw [set_other _ _ hOther, set_other _ _ hOther, h]

theorem lcdInit_home (beyond : Nat → LCDtext) {k : Nat} (hHigh : k < 14) : lcdInit (zeroed beyond) k = home k := by
  have hStart : zeroed beyond k = zeroed (fun _ => blank) k := (if_pos hHigh).trans (if_pos hHigh).symm
  rw [home, lcdInit, lcdInit]
  iterate 13 apply modify_congr
  exact hStart

theorem lcdInit_placed (beyond : Nat → LCDtext) : AllPlaced (lcdInit (zeroed beyond)) := by
  intro k hLow hHigh
  obtain ⟨font, x, y, hLabel⟩ := lcdInit_label beyond hLow hHigh
  have hShort : (lcdInit (zeroed beyond) k).len ≤ 13 := by
    rw [hLabel]
    exact (by decide : (0 : Byte) ≤ 13)
  rw [lcdInit_home beyond hHigh] at hShort ⊢
  exact ⟨rfl, .inl ⟨rfl, rfl⟩, fun _ _ => hShort⟩

theorem headerAfter_placed (type : DisplayType) (due : Bool) {k : Nat} {t : LCDtext} (h : Placed k t) :
    Placed k (headerAfter type due t) := by
  obtain ⟨hX, hY, -, hFont⟩ : SameGeometry t (headerAfter type due t) := headerAfter_geometry t
  refine h.congr ⟨hFont, hX, hY⟩ fun _ _ hShort => ?_
  rw [headerAfter]
  split
  · split
    next => exact (by decide : (13 : Byte) ≤ 13)
    next hNeed =>
      have hLen := headed_len hNeed t
      have hHeader := type.header_length hNeed
      bv_omega
  · exact hShort

theorem collided_placed {k : Nat} (hk : k < 10) {t : LCDtext} (h : Placed k t) : Placed k (collided t) :=
  ⟨h.font, .inr ⟨hk, rfl, rfl⟩, fun _ _ => (by decide : (0 : Byte) ≤ 13)⟩

theorem Messaged.placed {type : DisplayType} {value : Word} {row : Fin 6} (hTime : type.isTime = decide (4 ≤ row.val))
    {header label header' label' : LCDtext} (h : Messaged type value header label header' label')
    (hHeader : Placed (headerPos row) header) (hLabel : Placed (headerPos row + 1) label) :
    Placed (headerPos row) header' ∧ Placed (headerPos row + 1) label' := by
  obtain ⟨due, rfl, hValued⟩ := h
  refine ⟨headerAfter_placed type due hHeader, ?_⟩
  have hBetween : Placed (headerPos row + 1) (valueBetween type due label) := by
    rw [valueBetween]
    split
    next hNeed =>
      rw [Bool.and_eq_true, decide_eq_true_eq] at hNeed
      have hRow : ¬ 4 ≤ row.val := of_decide_eq_false (hTime.symm.trans (hNeed.2 ▸ rfl))
      exact collided_placed (by simp only [headerPos]; omega) hLabel
    next => exact hLabel
  obtain ⟨hX, hY, -, hFont⟩ := hValued.geometry
  refine hBetween.congr ⟨hFont, hX, hY⟩ fun hLap hDelta hShort => ?_
  have hInteger : type.isTime = false := by
    rw [hTime, decide_eq_false_iff_not]
    simp only [headerPos] at hLap hDelta
    omega
  rw [hValued.len hInteger]
  exact hShort

theorem processMessages_placed {types : Nat → Byte} (h : Typed types) (data : Nat → Word) {l : Labels}
    (hPlaced : AllPlaced l) : AllPlaced (processMessages types data l) := by
  refine .of_rows fun row => ?_
  obtain ⟨type, -, hTime, hMessaged⟩ := processMessages_row h data l row
  obtain ⟨hHeader, hLabel⟩ := hPlaced.row row
  exact hMessaged.placed hTime hHeader hLabel

theorem lcdUpdate_placed {l : Labels} (h : AllPlaced l) : AllPlaced (lcdUpdate l).2 := by
  intro k hLow hHigh
  have hRefreshed := lcdUpdate_refreshed l hLow hHigh
  exact (h k hLow hHigh).congr hRefreshed.place fun _ _ hShort => hRefreshed.len ▸ hShort

theorem processMessages_posGear {types : Nat → Byte} (h : Typed types) (data : Nat → Word) (l : Labels) :
    processMessages types data l posGear = processGear (data typeGear.toNat) l posGear := by
  obtain ⟨t, hRows, -⟩ := h.rows
  have hOther : ∀ i ∈ List.range' 1 6, posGear ≠ 2 * i ∧ posGear ≠ 2 * i + 1 := by
    intro i hi
    obtain ⟨hLow, -⟩ := List.mem_range'_1.mp hi
    simp only [posGear]
    omega
  rw [processMessages_eq, (processTypes_rows data List.nodup_range' hRows _).2 posGear hOther, h.1]

def nextGear (gear value : Word) : Word := if value < 9 then value else gear

theorem processMessages_number {types : Nat → Byte} (h : Typed types) (data : Nat → Word) (l : Labels) :
    (processMessages types data l posGear).number = nextGear (l posGear).number (data typeGear.toNat) := by
  rw [processMessages_posGear h, processGear_gear, nextGear]

theorem nextGear_lt {gear : Word} (h : gear < 9) (value : Word) : nextGear gear value < 9 := by
  rw [nextGear]
  split
  next hValue => exact hValue
  next => exact h

structure Arranged (f : Firmware) : Prop where
  regular : Regular f
  placed : AllPlaced f.labels
  gear : (f.labels posGear).number < 9

theorem catchButtons_arranged {f : Firmware} (h : Arranged f) : Arranged (catchButtons f) := by
  refine ⟨catchButtons_regular h.regular, ?_, ?_⟩
  · intro k hLow hHigh
    obtain hSame | hSame := catchButtons_label f k
    · rw [hSame]
      exact h.placed k hLow hHigh
    · rw [hSame]
      exact (h.placed k hLow hHigh).congr ⟨rfl, rfl, rfl⟩ fun _ _ => id
  · rw [catchButtons_number]
    exact h.gear

/-- What an update sends to the labels is arranged as they were. -/
theorem messages_arranged {f : Firmware} (h : Arranged f) :
    AllPlaced (processMessages f.lcdtypes f.device.data f.labels) ∧
      (processMessages f.lcdtypes f.device.data f.labels posGear).number < 9 := by
  refine ⟨processMessages_placed h.regular.typed f.device.data h.placed, ?_⟩
  rw [processMessages_number h.regular.typed]
  exact nextGear_lt h.gear _

theorem update_number (l : Labels) : ((lcdUpdate l).2 posGear).number = (l posGear).number := by
  rw [lcdUpdate_other l (.inl (by decide)), updateGear_number]

theorem update_arranged {f : Firmware} (h : Arranged f) : Arranged (update f) := by
  obtain hQuiet | hPending := eq_or_ne f.device.updatePending 0
  · rw [update, if_pos hQuiet]
    exact h
  · obtain ⟨hPlaced, hGear⟩ := messages_arranged h
    refine ⟨update_regular h.regular, ?_, ?_⟩
    · rw [update_labels hPending]
      exact lcdUpdate_placed hPlaced
    · rw [update_labels hPending, update_number]
      exact hGear

theorem Arranged.kept {f f' : Firmware} (h : Arranged f) (hKept : Kept f f') : Arranged f' := by
  refine ⟨⟨hKept.types ▸ h.regular.typed, hKept.labels ▸ h.regular.zero, ?_⟩, hKept.labels ▸ h.placed,
    hKept.labels ▸ h.gear⟩
  intro row hRow
  rw [valueLabel, hKept.labels]
  exact h.regular.integers row hRow

theorem entry_arranged (beyond : Nat → LCDtext) : Arranged (entry beyond) :=
  ⟨entry_regular beyond, lcdInit_placed beyond, (by decide : (8 : Word) < 9)⟩

end WheelDisplay.Firmware
