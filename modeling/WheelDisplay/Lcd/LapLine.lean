import WheelDisplay.Lcd.Displayed
import WheelDisplay.Lcd.Gear
import WheelDisplay.Lcd.SmallText
import WheelDisplay.Lcd.Territory
import WheelDisplay.Lcd.TimeText

/-! # The line of the lap time

The lap time has the left half of the last page for itself. A time that fits its text takes at
most 64 columns, the other labels on that page are on the right controller, and the rest
of the display is on other pages.
-/

namespace WheelDisplay.Lcd

open CString Ks0108 Labels Raster

def lapLabel : Nat := 11

/-- Whatever is drawn in the font from the column on keeps off the left half of the last page. -/
def Aside (font y x : Byte) : Prop := 64 ≤ x ∨ if font = fontLarge then y < 6 else y < 7

instance (font y x : Byte) : Decidable (Aside font y x) := inferInstanceAs (Decidable (_ ∨ _))

theorem Aside.mono {font y x x' : Byte} (h : Aside font y x) (hx : x ≤ x') : Aside font y x' := by
  obtain hRight | hAbove := h
  · exact .inl (by bv_omega)
  · exact .inr hAbove

theorem labelPage_above {font y : Byte} (h : if font = fontLarge then y < 6 else y < 7) :
    OnPages font y ∧ ∀ i < rows font, 7 ≠ labelPage y i := by
  rw [OnPages, rows]
  split at h
  next hLarge =>
    rw [if_pos hLarge, if_pos hLarge]
    refine ⟨by bv_omega, fun i hi => ?_⟩
    obtain rfl | rfl : i = 0 ∨ i = 1 := by omega
    · rw [labelPage_zero]
      bv_omega
    · rw [labelPage_one]
      bv_omega
  next hSmall =>
    rw [if_neg hSmall, if_neg hSmall]
    refine ⟨by bv_omega, fun i hi => ?_⟩
    obtain rfl : i = 0 := Nat.lt_one_iff.mp hi
    rw [labelPage_zero]
    bv_omega

def lapLine : Territory where
  kept before after := ∀ j < 64, after 7 j = before 7 j
  clear := Aside
  refl _ _ _ := rfl
  trans h h' j hj := (h' j hj).trans (h j hj)
  mono := Aside.mono
  glyph h glyph panel j hj := by
    obtain hRight | hAbove := h
    · exact (writeGlyph_right hRight _ _ glyph).left panel 7 hj
    · obtain ⟨hPages, hOther⟩ := labelPage_above hAbove
      exact writeGlyph_otherPage (by omega) panel _ hPages hOther glyph
  cleanUp h panel j hj := by
    obtain hRight | hAbove := h
    · exact (cleanUp_right hRight _).left panel 7 hj
    · obtain ⟨hPages, hOther⟩ := labelPage_above hAbove
      exact cleanUp_otherPage (by omega) panel _ hPages hOther

theorem textBytes_of_string {k : Nat} {l : Labels} {s : List Byte} (h : (l k).string = some s)
    (hLen : (l k).len.toNat = s.length) : textBytes k l = s := by
  obtain ⟨-, rest, hText⟩ := content_eq_some h
  have hLength : s.length < 9 := by
    have hNine := congrArg List.length hText
    rw [List.length_ofFn, List.length_append, List.length_cons] at hNine
    omega
  apply List.ext_getElem
  · rw [textBytes, List.length_map, List.length_range, hLen]
  · intro i _ hi
    have hIndex : i < 9 := hi.trans hLength
    have hByte : (List.ofFn (l k).text)[i]? = (s ++ 0 :: rest)[i]? := by rw [hText]
    rw [List.getElem?_ofFn, dif_pos hIndex, List.getElem?_append_left hi, List.getElem?_eq_getElem hi] at hByte
    simp only [textBytes, List.getElem_map, List.getElem_range, byteAt_text l k hIndex]
    exact Option.some.inj hByte

/-- The text of the lap time, or what `LCDinit` leaves there before the first one. -/
def lapText : Option Word → List Byte
  | none => [0x30]
  | some value => timeText value

def lapCells (lap : Option Word) : List (Option Byte) := textCells fontSmall (lapText lap) 0

def Spells (t : LCDtext) : Option Word → Prop
  | none => t.len = 0 ∧ t.number = 0 ∧ ∀ i : Fin 9, 0 < i.val → t.text i = 0
  | some value => ¬ Overlong value ∧ t.string = some (timeText value) ∧ t.len.toNat = (timeText value).length

theorem lapText_legible (lap : Option Word) : Legible (lapText lap) := by
  cases lap with
  | none =>
    rw [lapText, Legible]
    decide
  | some value => exact glyphOf_timeText value

theorem lapCells_length {lap : Option Word} (h : ∀ value ∈ lap, ¬ Overlong value) : (lapCells lap).length ≤ 64 := by
  have hText : (lapText lap).length ≤ 8 := by
    cases lap with
    | none => decide
    | some value => exact Nat.le_of_lt_succ ((timeText_length_lt_iff value).mpr (h value rfl))
  exact (textWidth_small (lapText lap)).trans (Nat.mul_le_mul_left 8 hText)

theorem Spells.cells_length {t : LCDtext} {lap : Option Word} (h : Spells t lap) : (lapCells lap).length ≤ 64 := by
  apply lapCells_length
  rintro value rfl
  exact h.1

/-- The bytes after the 0 are NUL, for which the font has no glyph. -/
theorem Spells.cells {k : Nat} {l : Labels} {lap : Option Word} (h : Spells (l k) lap) :
    textCells fontSmall (drawnBytes k l) 0 = lapCells lap := by
  cases lap with
  | none =>
    obtain ⟨hLen, hNumber, hText⟩ := h
    have hRest : (List.ofFn (l k).text).drop 2 = List.replicate 7 0 := by
      apply List.ext_getElem
      · simp
      · intro i _ hi
        rw [List.getElem_drop, List.getElem_ofFn, List.getElem_replicate]
        exact hText _ (Nat.lt_of_lt_of_le Nat.two_pos (Nat.le_add_right 2 i))
    have hZero : itoa (0 : Word).toInt = [0x30] := by decide +kernel
    rw [drawnBytes_number hLen, hNumber, hZero]
    change textCells fontSmall (([0x30] ++ 0 :: (List.ofFn (l k).text).drop 2).take 5) 0 = _
    rw [hRest]
    rfl
  | some value =>
    obtain ⟨-, hString, hLen⟩ := h
    have hDrawn : ¬ (l k).len < 1 := by
      have hPos := timeText_length_pos value
      bv_omega
    rw [drawnBytes, if_neg hDrawn, textBytes_of_string hString hLen]
    rfl

/-- The left half of the last page shows the cells, and is blank after them. -/
def Lined (cells : List (Option Byte)) (screen : Screen) : Prop :=
  ∀ j < 64, screen 7 j = paint (fun _ => 0) 0 cells j

theorem formatNumber_drawn (k : Nat) (l : Labels) :
    drawText k (formatNumber k l) = drawBytes (l k) (textBytes k (formatNumber k l)) ∧
      (formatNumber k l k).x = (l k).x := by
  have hLabel : formatNumber k l k =
      { overwrite (l k) 0 (itoa (l k).number.toInt ++ [0]) with len := numberLength (l k).number } := by
    rw [formatNumber_eq, set_same]
  rw [drawText_eq, hLabel]
  exact ⟨rfl, rfl⟩

theorem lcdWritestring_width (k : Nat) (l : Labels) :
    ((lcdWritestring k l).2 k).width = (drawBytes (l k) (drawnBytes k l)).1 - (l k).x := by
  by_cases hNum : (l k).len < 1
  · obtain ⟨hDrawn, hColumn⟩ := formatNumber_drawn k l
    simp only [lcdWritestring, drawnBytes, hNum, if_true, hDrawn]
    rw [modify_eq, modify_eq, set_same, set_same, ← hColumn]
    rfl
  · simp only [lcdWritestring, drawnBytes, hNum, if_false, drawText_eq]
    rw [modify_eq, set_same]
    rfl

structure LapPlace (t : LCDtext) : Prop where
  font : t.font = fontSmall
  x : t.x = 0
  y : t.y = 7

/-- The line shows what the label spells, unless it is about to be redrawn, and the label knows how wide that is. -/
structure LapDue (lap : Option Word) (t : LCDtext) (screen : Screen) : Prop where
  spells : Spells t lap
  drawn : ∃ cells, Lined cells screen ∧ t.width.toNat = cells.length ∧ cells.length ≤ 64 ∧
    (t.getRedraw = false → cells = lapCells lap)

theorem LapDue.congr {lap : Option Word} {t t' : LCDtext} {screen : Screen} (h : LapDue lap t screen)
    (hSpells : Spells t' lap) (hWidth : t'.width = t.width) (hRedraw : t'.getRedraw = false → t.getRedraw = false) :
    LapDue lap t' screen := by
  obtain ⟨cells, hLined, hLength, hFits, hDrawn⟩ := h.drawn
  exact ⟨hSpells, cells, hLined, hWidth ▸ hLength, hFits, fun hClear => hDrawn (hRedraw hClear)⟩

theorem LapDue.kept {lap : Option Word} {t : LCDtext} {before after : Screen} (h : LapDue lap t before)
    (hKept : lapLine.kept before after) : LapDue lap t after := by
  obtain ⟨cells, hLined, hRest⟩ := h.drawn
  exact ⟨h.spells, cells, fun j hj => (hKept j hj).trans (hLined j hj), hRest⟩

theorem Spells.congr {t t' : LCDtext} {lap : Option Word} (h : Spells t lap) (hLen : t'.len = t.len)
    (hNumber : t'.number = t.number) (hText : t'.text = t.text) : Spells t' lap := by
  cases lap with
  | none =>
    rw [Spells, hLen, hNumber, hText]
    exact h
  | some value =>
    rw [Spells, hLen, LCDtext.string_of_text hText]
    exact h

theorem spells_written {t : LCDtext} {lap : Option Word} (h : Spells t lap) : Spells (written t) lap := by
  cases lap with
  | none =>
    obtain ⟨hLen, hNumber, hText⟩ := h
    refine ⟨(written_len t).trans hLen, (written_number t).trans hNumber, fun i hi => ?_⟩
    have hDigit : itoa (0 : Word).toInt = [0x30] := by decide +kernel
    have hWritten : (written t).text i = overlay t.text 0 [0x30, 0] i := by
      rw [written, if_pos hLen, hNumber, hDigit]
      rfl
    rw [hWritten, overlay, if_pos (Nat.zero_le _), hText i hi, Nat.sub_zero]
    obtain ⟨_ | _ | i, _⟩ := i
    · exact absurd hi (Nat.lt_irrefl 0)
    · rfl
    · rfl
  | some value =>
    have hDrawn : t.len ≠ 0 := by
      have hLength := h.2.2
      have hPos := timeText_length_pos value
      bv_omega
    have hSame : written t = t := if_neg hDrawn
    rw [hSame]
    exact h

theorem Refreshed.spells {t t' : LCDtext} (h : Refreshed t t') {lap : Option Word} (hSpells : Spells t lap) :
    Spells t' lap := by
  rw [Refreshed] at h
  split at h
  · obtain ⟨width, rfl⟩ := h
    exact (spells_written hSpells).congr rfl rfl rfl
  · rw [h]
    exact hSpells

section Redraw

variable {l : Labels} {lap : Option Word} (hPlace : LapPlace (l lapLabel)) (hSpells : Spells (l lapLabel) lap)
include hPlace hSpells

theorem textWidth_lap : textWidth (l lapLabel).font (drawnBytes lapLabel l) = (lapCells lap).length := by
  rw [hPlace.font, textWidth, hSpells.cells]

theorem lapLabel_holds : Holds 0 (l lapLabel).font (l lapLabel).x (l lapLabel).y
    (textWidth (l lapLabel).font (drawnBytes lapLabel l)) := by
  have hLength := hSpells.cells_length
  rw [textWidth_lap hPlace hSpells, hPlace.font, hPlace.x, hPlace.y]
  exact ⟨by decide, by decide, (Nat.zero_add _).trans_le hLength, by decide⟩

theorem lcdWritestring_lap (panel : Panel) {cells : List (Option Byte)} (hLined : Lined cells panel.screen)
    (hWidth : (l lapLabel).width.toNat = cells.length) (hFits : cells.length ≤ 64) :
    Lined (lapCells lap) (panel.run (lcdWritestring lapLabel l).1).screen ∧
      ((lcdWritestring lapLabel l).2 lapLabel).width.toNat = (lapCells lap).length := by
  have hFont : (l lapLabel).font = fontSmall ∨ (l lapLabel).font = fontLarge := .inl hPlace.font
  have hNew := lapLabel_holds hPlace hSpells
  have hLength := hSpells.cells_length
  constructor
  · intro j hj
    have hOld : Holds 0 (l lapLabel).font (l lapLabel).x (l lapLabel).y (l lapLabel).width.toNat := by
      rw [hPlace.font, hPlace.x, hPlace.y, hWidth]
      exact ⟨by decide, by decide, (Nat.zero_add _).trans_le hFits, by decide⟩
    have hPage : (7 : BitVec 3) = labelPage 7 0 := by decide
    have hCells : redrawCells (l lapLabel) (drawnBytes lapLabel l) 0 =
        lapCells lap ++ List.replicate (cells.length - (lapCells lap).length) (some 0) := by
      rw [redrawCells, textWidth_lap hPlace hSpells, hPlace.font, hSpells.cells, hWidth]
    rw [lcdWritestring_paints hFont hOld hNew panel 7 (by omega), hPlace.font, hPlace.x, hPlace.y, hPage,
      paintLabel_row _ _ _ _ _ (by decide), hCells, ← hPage]
    exact paint_replace (hLined j hj) (lapText_legible lap).solid
  · obtain ⟨hEnd, -⟩ := drawBytes_paints hFont (drawnBytes lapLabel l) hNew
    rw [textWidth_lap hPlace hSpells, ← drawBytes, hPlace.x] at hEnd
    rw [lcdWritestring_width, hPlace.x]
    bv_omega

end Redraw

theorem updateLabel_lap (panel : Panel) {l : Labels} {lap : Option Word} (hPlace : LapPlace (l lapLabel))
    (h : LapDue lap (l lapLabel) panel.screen) :
    LapDue lap ((updateLabel lapLabel l).2 lapLabel) (panel.run (updateLabel lapLabel l).1).screen ∧
      Lined (lapCells lap) (panel.run (updateLabel lapLabel l).1).screen := by
  obtain ⟨cells, hLined, hWidth, hFits, hDrawn⟩ := h.drawn
  obtain ⟨t, hLabels, hRefreshed⟩ := updateLabel_labels lapLabel l
  have hSpells : Spells ((updateLabel lapLabel l).2 lapLabel) lap := by
    rw [hLabels, set_same]
    exact hRefreshed.spells h.spells
  rw [updateLabel] at hSpells ⊢
  split
  next hRedraw =>
    rw [if_pos hRedraw] at hSpells
    obtain ⟨hShown, hEnd⟩ := lcdWritestring_lap hPlace h.spells panel hLined hWidth hFits
    refine ⟨⟨hSpells, lapCells lap, hShown, ?_, h.spells.cells_length, fun _ => rfl⟩, hShown⟩
    dsimp only
    rw [modify_eq, set_same]
    exact hEnd
  next hClear =>
    have hSame := hDrawn (Bool.not_eq_true _ ▸ hClear)
    exact ⟨h, hSame ▸ hLined⟩

theorem updateGear_lap (l : Labels) : lapLine.Spares (updateGear l).1 := by
  rw [updateGear]
  split
  · intro panel j hj
    dsimp only
    rw [lcdWritegear_screen panel _ 7 (by omega), if_neg fun h => absurd h.1 (by decide),
      if_neg fun h => absurd h.1 (by decide)]
  · exact Territory.spares_nil

/-- An update shows the lap time, when the other labels stay off its line. -/
theorem lcdUpdate_lap (panel : Panel) {l : Labels} {lap : Option Word}
    (hOutside : ∀ k, 2 ≤ k → k < 14 → k ≠ lapLabel → lapLine.Outside (l k)) (hPlace : LapPlace (l lapLabel))
    (h : LapDue lap (l lapLabel) panel.screen) :
    LapDue lap ((lcdUpdate l).2 lapLabel) (panel.run (lcdUpdate l).1).screen ∧
      Lined (lapCells lap) (panel.run (lcdUpdate l).1).screen := by
  obtain ⟨before, after, l', hCalls, hBefore, hAfter, hLabel, hEnd⟩ :=
    Territory.lcdUpdate_around (k := lapLabel) (by decide) (by decide) (updateGear_lap l) hOutside
  rw [← hLabel] at hPlace h
  obtain ⟨hDue, hShown⟩ := updateLabel_lap (panel.run before) hPlace (h.kept (hBefore panel))
  have hLast := hAfter ((panel.run before).run (updateLabel lapLabel l').1)
  rw [hCalls, hEnd, Panel.run_append, Panel.run_append]
  exact ⟨hDue.kept hLast, fun j hj => (hLast j hj).trans (hShown j hj)⟩

def nextLap (lap : Option Word) (value : Word) : Option Word := if value = 0 then lap else some value

theorem nextLap_again (lap : Option Word) (value : Word) : nextLap (nextLap lap value) value = nextLap lap value := by
  rw [nextLap, nextLap]
  split <;> rfl

theorem Valued.timed {type : DisplayType} (hTime : type.isTime = true) {value : Word} {t t' : LCDtext}
    (h : Valued type value 0 t t') (hNew : value ≠ 0) :
    ∃ length, t' = timed type value length t ∧ (¬ Overlong value → length = (timeText value).length) := by
  rw [Valued, if_neg hNew.symm, if_pos hTime] at h
  exact h

theorem LapDue.valued {lap : Option Word} {t : LCDtext} {screen : Screen} (hDue : LapDue lap t screen)
    {type : DisplayType} (hTime : type.isTime = true) {value : Word} {t' : LCDtext} (h : Valued type value 0 t t')
    (hShort : ¬ Overlong value) : LapDue (nextLap lap value) t' screen := by
  rw [nextLap]
  split
  next hZero =>
    rw [h.unchanged hZero.symm]
    exact hDue
  next hNew =>
    obtain ⟨hX, hY, hWidth, hFont⟩ := h.geometry
    obtain ⟨length, rfl, hLength⟩ := h.timed hTime hNew
    have hSpells : Spells (timed type value length t) (some value) := by
      refine ⟨hShort, ?_, timed_len type t hShort hLength⟩
      rw [timed_string, if_neg hShort]
    have hRedraw : (timed type value length t).getRedraw = true := by
      rw [timed, LCDtext.getRedraw_setType, LCDtext.getRedraw_setRedraw]
    obtain ⟨cells, hLined, hColumns, hFits, -⟩ := hDue.drawn
    exact ⟨hSpells, cells, hLined, hWidth ▸ hColumns, hFits, fun hClear => absurd (hClear.symm.trans hRedraw) (by decide)⟩

theorem Valued.short {type : DisplayType} (hTime : type.isTime = true) {value : Word} {t t' : LCDtext}
    (h : Valued type value 0 t t') (hShort : ¬ Overlong value) (hLen : t.len ≤ 13) : t'.len ≤ 13 := by
  obtain rfl | hNew := eq_or_ne value 0
  · rw [h.unchanged rfl]
    exact hLen
  · obtain ⟨length, rfl, hLength⟩ := h.timed hTime hNew
    have hText := timed_len type t hShort hLength
    have hFits := (timeText_length_lt_iff value).mpr hShort
    bv_omega

theorem LapDue.setRedraw {lap : Option Word} {t : LCDtext} {screen : Screen} (h : LapDue lap t screen) :
    LapDue lap t.setRedraw screen :=
  h.congr (h.spells.congr rfl rfl rfl) rfl fun hClear =>
    absurd (hClear.symm.trans (LCDtext.getRedraw_setRedraw t)) (by decide)

theorem lapText_injective : Function.Injective lapText := by
  intro lap lap' h
  have hZero : parseTime [0x30] = none := by decide
  have hTime : ∀ value, timeText value ≠ [0x30] := by
    intro value hText
    have hRead := parseTime_timeText value
    rw [hText, hZero] at hRead
    cases hRead
  cases lap with
  | none =>
    cases lap' with
    | none => rfl
    | some value => exact absurd h.symm (hTime value)
  | some value =>
    cases lap' with
    | none => exact absurd h (hTime value)
    | some value' => rw [timeText_injective h]

/-- The line shows the lap time, and no other one that fits its text. -/
structure ReadsLap (lap : Option Word) (screen : Screen) : Prop where
  lined : Lined (lapCells lap) screen
  only : ∀ lap', (∀ value ∈ lap', ¬ Overlong value) → Lined (lapCells lap') screen → lap' = lap

theorem Spells.readsLap {t : LCDtext} {lap : Option Word} (h : Spells t lap) {screen : Screen}
    (hLined : Lined (lapCells lap) screen) : ReadsLap lap screen := by
  refine ⟨hLined, fun lap' hFits hLined' => lapText_injective ?_⟩
  apply (lapText_legible lap').read (lapText_legible lap) (lapCells_length hFits) h.cells_length
  intro j hj
  exact (hLined' j hj).symm.trans (hLined j hj)

end WheelDisplay.Lcd
