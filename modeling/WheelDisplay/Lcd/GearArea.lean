import WheelDisplay.Lcd.Displayed
import WheelDisplay.Lcd.Gear
import WheelDisplay.Lcd.Territory

/-! # The area of the gear

The gear takes 25 columns of six pages. The labels beside it start at column 28, those
below it have other pages. Only the blank column after a character that ends at the line
between the controllers goes astray, to the first columns of the left controller.
-/

namespace WheelDisplay.Lcd

open CString Ks0108 Labels Raster

/-- The area is as it was, but for blanks in its first two columns. -/
def Spared (before after : Screen) : Prop :=
  ∀ q ≤ 5, ∀ j < 25, after q j = before q j ∨ j < 2 ∧ after q j = 0

theorem Spared.of_eq {before after : Screen} (h : ∀ q ≤ 5, ∀ j < 25, after q j = before q j) : Spared before after :=
  fun q hq j hj => .inl (h q hq j hj)

theorem Spared.trans {first second third : Screen} (h : Spared first second) (h' : Spared second third) :
    Spared first third := by
  intro q hq j hj
  obtain hSame | hBlank := h' q hq j hj
  · rw [hSame]
    exact h q hq j hj
  · exact .inr hBlank

theorem paintPage_before (screen : Screen) (page : BitVec 3) {x j : Nat} (h : j < x) (cells : List (Option Byte))
    (q : BitVec 3) : paintPage screen page x cells q j = screen q j := by
  obtain rfl | hOther := eq_or_ne q page
  · rw [paintPage, Function.update_self, paint_outside _ (Or.inl h)]
  · rw [paintPage_other screen hOther]

theorem lcdWritechar8_beside {x page : Byte} (hPage : page < 8) (hx : 28 ≤ x) (character : Byte) (panel : Panel) :
    Spared panel.screen (panel.run (lcdWritechar8 x page character).2).screen := by
  intro q _ j hj
  have hColumn : 28 ≤ x.toNat := BitVec.le_def.mp hx
  have hLength : (columns8 character).length < 64 := Nat.lt_of_le_of_lt (columns8_length character) (by decide)
  have hStray : blankColumn x.toNat (columns8 character).length < 25 →
      blankColumn x.toNat (columns8 character).length < 2 := by
    rw [blankColumn_eq _ hLength, strayColumn]
    split_ifs <;> omega
  rw [lcdWritechar8_screen panel x hPage character q (by omega), paintPage_before _ _ (by omega)]
  split
  next hBlank => exact .inr ⟨hBlank.2 ▸ hStray (hBlank.2 ▸ hj), rfl⟩
  next => exact .inl rfl

theorem lcdWritechar16_beside {x page : Byte} (hPage : page < 7) (hx : 28 ≤ x) (character : Byte) (panel : Panel) :
    Spared panel.screen (panel.run (lcdWritechar16 x page character).2).screen := by
  intro q _ j hj
  have hColumn : j < x.toNat := by bv_omega
  obtain ⟨hLeft, hEnd⟩ | hFits := Classical.em (x.toNat < 64 ∧ x.toNat + width16 character = 64)
  · rw [lcdWritechar16_lost panel hPage hLeft hEnd q (by omega), paintPage_write, paintPage_write,
      drawnLarge_beside _ _ _ _ (Or.inl hColumn)]
    split_ifs with hLower hUpper
    · exact .inr ⟨by omega, rfl⟩
    · exact .inr ⟨by omega, rfl⟩
    · exact .inl rfl
  · rw [lcdWritechar16_fits panel hPage hFits q (by omega), paintLarge, paintPage_before _ _ hColumn,
      paintPage_before _ _ hColumn]
    exact .inl rfl

theorem ks0108ClearRange_beside {lpage hpage x : Byte} (hPages : lpage ≤ hpage) (hLast : hpage < 8) (hx : 28 ≤ x)
    (haddress : Byte) (panel : Panel) :
    Spared panel.screen (panel.run (ks0108ClearRange lpage hpage x haddress)).screen := by
  refine .of_eq fun q _ j hj => ?_
  rw [ks0108ClearRange_screen panel hPages hLast x haddress q (by omega), if_neg]
  rintro ⟨-, column, -, hStart, hLands⟩
  rw [landing] at hLands
  have hColumn : 28 ≤ x.toNat := BitVec.le_def.mp hx
  split at hLands <;> omega

/-- Whatever is drawn in the font from the column on spares the area. -/
def Clear (font y x : Byte) : Prop := 28 ≤ x ∧ OnPages font y ∨ 64 ≤ x ∨ font ≠ fontLarge ∧ 6 ≤ y ∧ y < 8

instance (font y x : Byte) : Decidable (Clear font y x) := inferInstanceAs (Decidable (_ ∨ _))

theorem Clear.mono {font y x x' : Byte} (h : Clear font y x) (hx : x ≤ x') : Clear font y x' := by
  obtain ⟨hBeside, hPage⟩ | hRight | hBelow := h
  · exact .inl ⟨by bv_omega, hPage⟩
  · exact .inr (.inl (by bv_omega))
  · exact .inr (.inr hBelow)

/-- The pages of a label below the area are not those of the area. -/
theorem labelPage_below {font y : Byte} (hSmall : font ≠ fontLarge) (hBelow : 6 ≤ y) (hPage : y < 8) {q : BitVec 3}
    (hq : q ≤ 5) : OnPages font y ∧ ∀ i < rows font, q ≠ labelPage y i := by
  rw [OnPages, if_neg hSmall, rows, if_neg hSmall]
  refine ⟨hPage, fun i hi => ?_⟩
  obtain rfl : i = 0 := Nat.lt_one_iff.mp hi
  rw [labelPage_zero]
  bv_omega

theorem writeGlyph_spares {font y x : Byte} (h : Clear font y x) (glyph : Byte) (panel : Panel) :
    Spared panel.screen (panel.run (writeGlyph font x y glyph).2).screen := by
  obtain ⟨hBeside, hPage⟩ | hRight | ⟨hSmall, hBelow, hPage⟩ := h
  · rw [OnPages] at hPage
    rw [writeGlyph]
    split at hPage
    next hLarge =>
      rw [if_pos hLarge]
      exact lcdWritechar16_beside hPage hBeside glyph panel
    next hSmall =>
      rw [if_neg hSmall]
      exact lcdWritechar8_beside hPage hBeside glyph panel
  · exact .of_eq fun q _ j hj => (writeGlyph_right hRight font y glyph).left panel q (by omega)
  · refine .of_eq fun q hq j hj => ?_
    obtain ⟨hPages, hOther⟩ := labelPage_below hSmall hBelow hPage hq
    exact writeGlyph_otherPage (by omega) panel x hPages hOther glyph

theorem cleanUp_spares {t : LCDtext} {x : Byte} (h : Clear t.font t.y x) (panel : Panel) :
    Spared panel.screen (panel.run (cleanUp t x)).screen := by
  obtain ⟨hBeside, hPage⟩ | hRight | ⟨hSmall, hBelow, hPage⟩ := h
  · rw [OnPages] at hPage
    rw [cleanUp]
    split_ifs with hShort hSmall hLarge
    · have hOther : t.font ≠ fontLarge := hSmall ▸ by decide
      rw [if_neg hOther] at hPage
      exact ks0108ClearRange_beside (BitVec.le_refl _) hPage hBeside _ panel
    · rw [if_pos hLarge] at hPage
      exact ks0108ClearRange_beside (by bv_omega) (by bv_omega) hBeside _ panel
    · exact .of_eq fun _ _ _ _ => rfl
    · exact .of_eq fun _ _ _ _ => rfl
  · exact .of_eq fun q _ j hj => (cleanUp_right hRight t).left panel q (by omega)
  · refine .of_eq fun q hq j hj => ?_
    obtain ⟨hPages, hOther⟩ := labelPage_below hSmall hBelow hPage hq
    exact cleanUp_otherPage (by omega) panel x hPages hOther

def gearArea : Territory where
  kept := Spared
  clear := Clear
  refl _ := .of_eq fun _ _ _ _ => rfl
  trans := Spared.trans
  mono := Clear.mono
  glyph := writeGlyph_spares
  cleanUp := cleanUp_spares

/-- The area shows the gear, but for blanks in its first two columns. -/
structure ShowsGlyph (gear : Byte) (screen : Screen) : Prop where
  glyph : ∀ q < 5, ∀ j < 25, font40Byte gear q.toNat j = some (screen q j) ∨ j < 2 ∧ screen q j = 0
  below : ∀ j < 25, screen 5 j = 0

theorem DrawsGear.shows {gear : Byte} {before after : Screen} (h : DrawsGear gear before after) : ShowsGlyph gear after :=
  ⟨fun q hq j hj => .inl (h.glyph q hq j hj), h.below⟩

theorem ShowsGlyph.spared {gear : Byte} {before after : Screen} (h : ShowsGlyph gear before)
    (hSpared : Spared before after) : ShowsGlyph gear after := by
  constructor
  · intro q hq j hj
    obtain hSame | hBlank := hSpared q (by bv_omega) j hj
    · rw [hSame]
      exact h.glyph q hq j hj
    · exact .inr hBlank
  · intro j hj
    obtain hSame | hBlank := hSpared 5 (BitVec.le_refl _) j hj
    · rw [hSame]
      exact h.below j hj
    · exact hBlank.2

/-- The gear of the labels is drawn, or is about to be. -/
def GearDue (l : Labels) (screen : Screen) : Prop :=
  (l posGear).getRedraw = true ∨ ShowsGlyph ((l posGear).number.setWidth 8) screen

theorem lcdUpdate_gear (panel : Panel) {l : Labels} (hOutside : ∀ k, 2 ≤ k → k < 14 → gearArea.Outside (l k))
    (hSmall : (l posGear).number < 9) (h : GearDue l panel.screen) :
    ShowsGlyph (((lcdUpdate l).2 posGear).number.setWidth 8) (panel.run (lcdUpdate l).1).screen := by
  have hGear : ShowsGlyph ((l posGear).number.setWidth 8) (panel.run (updateGear l).1).screen := by
    rw [updateGear]
    split
    next => exact (lcdWritegear_draws panel (by bv_omega)).shows
    next hDrawn => exact h.resolve_left hDrawn
  have hLabels : ∀ k ∈ List.range' 2 12, gearArea.Outside ((updateGear l).2 k) := by
    intro k hk
    obtain ⟨hLow, hHigh⟩ := List.mem_range'_1.mp hk
    rw [updateGear_other l (Nat.ne_of_gt (Nat.lt_of_lt_of_le (by decide) hLow))]
    exact hOutside k hLow hHigh
  obtain ⟨calls, hCalls, hSpares⟩ := Territory.updateSteps_spare List.nodup_range' (updateGear l) hLabels
  rw [lcdUpdate_other l (.inl (by decide)), updateGear_number, lcdUpdate, hCalls, Panel.run_append]
  exact hGear.spared (hSpares _)

end WheelDisplay.Lcd
