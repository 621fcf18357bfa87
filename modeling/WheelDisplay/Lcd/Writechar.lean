import WheelDisplay.Lcd.Blit

/-! # The characters of the small and the large font

The blank column after a small character goes wherever the column register stands.
That is column `x` of the loop unless the character ends on the last column of a
controller, whose register is then back at 0, or starts beyond the display.
-/

namespace WheelDisplay.Lcd

open Ks0108 Raster

def columns8 (character : Byte) : List Byte := (font8.getD character.toNat []).filter (· ≠ 0)

def glyph16 (character : Byte) : List (List Byte) := font16.getD character.toNat []

/-- A column of a large character is drawn unless it is empty on both pages. -/
def columns16 (character : Byte) (i : Nat) : List Byte :=
  ((List.range 9).filter fun j =>
    ((glyph16 character).getD 0 []).getD j 0 ||| ((glyph16 character).getD 1 []).getD j 0 ≠ 0).map
      fun j => ((glyph16 character).getD i []).getD j 0

theorem columns8_length (character : Byte) : (columns8 character).length ≤ 7 := by
  have hFont : ∀ glyph ∈ font8, glyph.length ≤ 7 := by decide
  rw [columns8, List.getD_eq_getElem?_getD]
  cases h : font8[character.toNat]? with
  | none => decide
  | some glyph => exact (List.length_filter_le _ _).trans (hFont glyph (List.mem_of_getElem? h))

theorem columns16_length (character : Byte) (i : Nat) : (columns16 character i).length ≤ 9 := by
  rw [columns16, List.length_map]
  exact (List.length_filter_le _ _).trans (List.length_range).le

theorem columns16_length_eq (character : Byte) (i i' : Nat) :
    (columns16 character i).length = (columns16 character i').length := by
  rw [columns16, columns16, List.length_map, List.length_map]

def startPen (x page : Byte) (calls : List Call) : Pen :=
  ⟨x, controllerOf x, calls ++ [setPage (controllerOf x) page, setAddress (controllerOf x) (columnOf x (controllerOf x))]⟩

theorem lcdWritechar8_eq (x page character : Byte) :
    lcdWritechar8 x page character =
      ((drawColumns page (columns8 character) (startPen x page [])).x + 1,
        (drawColumns page (columns8 character) (startPen x page [])).calls ++
          [writeColumn (drawColumns page (columns8 character) (startPen x page [])).controller 0]) := by
  rw [lcdWritechar8, drawColumns, columns8, List.foldl_filter]
  simp only [decide_eq_true_eq]
  rfl

theorem lcdWritechar16Page_eq (x page character : Byte) (i : Nat) (calls : List Call) :
    lcdWritechar16Page x page (glyph16 character) i calls =
      drawColumns (page + BitVec.ofNat 8 i) (columns16 character i)
        (startPen x (page + BitVec.ofNat 8 i) calls) := by
  rw [lcdWritechar16Page, drawColumns, columns16, List.foldl_map, List.foldl_filter]
  simp only [decide_eq_true_eq]
  rfl

theorem startPen_stands {panel : Panel} {screen : Screen} {calls : List Call} (x : Byte) {page : Byte}
    (hPage : page < 8) (hShows : ∀ q, ∀ j < 128, (panel.run calls).screen q j = screen q j) :
    (startPen x page calls).Stands panel (chipFrom x.toNat x.toNat) (page.setWidth 3) screen := by
  have hChip : chipFrom x.toNat x.toNat = Panel.chipOf x.toNat := by
    rw [chipFrom, Panel.chipOf]
    exact if_congr (by omega) rfl rfl
  rw [startPen, hChip, controllerOf_eq]
  exact seek_stands _ hShows hPage (columnOf_toNat x)

/-- The pen after the columns of a character, which started on `screen`. -/
theorem glyph_stands {panel : Panel} {screen : Screen} {calls : List Call} (x : Byte) {page : Byte}
    (hPage : page < 8) (columns : List Byte)
    (hShows : ∀ q, ∀ j < 128, (panel.run calls).screen q j = screen q j) :
    (drawColumns page columns (startPen x page calls)).Stands panel
      (chipFrom x.toNat (reach x.toNat columns.length)) (page.setWidth 3)
      (paintPage screen (page.setWidth 3) x.toNat (columns.map some)) :=
  drawColumns_stands (p := startPen x page calls) hPage columns le_rfl (startPen_stands x hPage hShows)

theorem glyph_x (x page : Byte) (calls : List Call) (columns : List Byte) :
    (drawColumns page columns (startPen x page calls)).x.toNat = reach x.toNat columns.length :=
  drawColumns_x page columns (startPen x page calls)

/-- Where the column register of the pen stands when the columns of a character are drawn. -/
def blankColumn (x n : Nat) : Nat := 64 * (chipFrom x (reach x n)).val + reach x n % 64

theorem lcdWritechar8_screen (panel : Panel) (x : Byte) {page : Byte} (hPage : page < 8) (character : Byte)
    (q : BitVec 3) {j : Nat} (hj : j < 128) :
    (panel.run (lcdWritechar8 x page character).2).screen q j =
      if q = page.setWidth 3 ∧ j = blankColumn x.toNat (columns8 character).length then 0
      else paintPage panel.screen (page.setWidth 3) x.toNat ((columns8 character).map some) q j := by
  have hBefore : ∀ q, ∀ j < 128, (panel.run []).screen q j = panel.screen q j := fun _ _ _ => rfl
  have hStands := glyph_stands x hPage (columns8 character) hBefore
  rw [lcdWritechar8_eq, Panel.run_append, Panel.run_cons, Panel.run_nil, writeColumn, hStands.controller,
    Panel.screen_write _ _ _ _ hj, hStands.page, hStands.column, hStands.shows q j hj, BitVec.toNat_ofNat, glyph_x]
  rfl

/-- The columns of a character and the blank column after them. -/
def characterCells (columns : List Byte) : List (Option Byte) := columns.map some ++ [some 0]

theorem paint_characterCells (screen : Screen) (page : BitVec 3) (x : Nat) (columns : List Byte) (q : BitVec 3)
    (j : Nat) : paintPage screen page x (characterCells columns) q j =
      if q = page ∧ j = x + columns.length then 0 else paintPage screen page x (columns.map some) q j := by
  rw [characterCells, paintPage_append, paintPage_write, List.length_map]

theorem paint_beside (screen : Screen) (page q : BitVec 3) {x j : Nat} {columns : List Byte}
    (h : j < x ∨ x + columns.length ≤ j) : paintPage screen page x (columns.map some) q j = screen q j := by
  by_cases hPage : q = page
  · rw [hPage, paintPage, Function.update_self, paint_outside _ (by rw [List.length_map]; exact h)]
  · rw [paintPage_other screen hPage]

/-- The blank column after `n` columns from `x` is on the display, on the controller of the last of them. -/
def BlankFits (x n : Nat) : Prop := x + n < 128 ∧ ¬ (x < 64 ∧ x + n = 64)

instance (x n : Nat) : Decidable (BlankFits x n) := inferInstanceAs (Decidable (_ ∧ _))

/-- The column that gets the blank instead. -/
def strayColumn (x : Nat) : Nat := if x < 64 then 0 else if x < 128 then 64 else 64 + x % 64

theorem blankColumn_eq (x : Nat) {n : Nat} (hn : n < 64) :
    blankColumn x n = if BlankFits x n then x + n else strayColumn x := by
  simp only [blankColumn, BlankFits, strayColumn, chipFrom, reach]
  split_ifs <;> simp only [Fin.val_zero, Fin.val_one] <;> omega

/-- The stray column is on the display, outside the character and not where the blank belongs. -/
theorem strayColumn_beside {x n : Nat} (hn : n < 64) (h : ¬ BlankFits x n) :
    strayColumn x < 128 ∧ strayColumn x ≠ x + n ∧ (strayColumn x < x ∨ x + n ≤ strayColumn x) := by
  rw [BlankFits] at h
  rw [strayColumn]
  split_ifs <;> omega

theorem lcdWritechar8_fits (panel : Panel) {x page character : Byte} (hPage : page < 8)
    (hFits : BlankFits x.toNat (columns8 character).length) (q : BitVec 3) {j : Nat} (hj : j < 128) :
    (panel.run (lcdWritechar8 x page character).2).screen q j =
      paintPage panel.screen (page.setWidth 3) x.toNat (characterCells (columns8 character)) q j := by
  have hLength : (columns8 character).length < 64 := Nat.lt_of_le_of_lt (columns8_length character) (by decide)
  rw [lcdWritechar8_screen panel x hPage character q hj, blankColumn_eq _ hLength, if_pos hFits,
    paint_characterCells]

theorem lcdWritechar8_x {x page character : Byte} (hFits : BlankFits x.toNat (columns8 character).length) :
    (lcdWritechar8 x page character).1.toNat = x.toNat + (columns8 character).length + 1 := by
  have hReach := glyph_x x page [] (columns8 character)
  rw [BlankFits] at hFits
  rw [reach, if_pos (by omega), Nat.min_eq_left (by omega)] at hReach
  rw [lcdWritechar8_eq]
  bv_omega

theorem moved_blank_iff {line : Nat → Byte} {a b : Nat} (ha : a < 128) (h : a ≠ b) :
    (∀ j < 128, (if j = a then 0 else line j) = if j = b then 0 else line j) ↔
      line a = 0 ∧ (b < 128 → line b = 0) := by
  constructor
  · intro hSame
    have hAt := hSame a ha
    rw [if_pos rfl, if_neg h] at hAt
    refine ⟨hAt.symm, fun hb => ?_⟩
    have hThere := hSame b hb
    rwa [if_neg h.symm, if_pos rfl] at hThere
  · rintro ⟨hA, hB⟩ j hj
    split_ifs with hja hjb hjb
    · rfl
    · rw [hja, hA]
    · rw [hjb]
      exact hB (hjb ▸ hj)
    · rfl

/-- The call draws the character and its blank column from column `x` on, and nothing else on the display. -/
def BlitsSmall (panel : Panel) (x page character : Byte) : Prop :=
  ∀ q, ∀ j < 128, (panel.run (lcdWritechar8 x page character).2).screen q j =
    paintPage panel.screen (page.setWidth 3) x.toNat (characterCells (columns8 character)) q j

theorem blitsSmall_iff (panel : Panel) (x : Byte) {page : Byte} (hPage : page < 8) (character : Byte) :
    BlitsSmall panel x page character ↔
      BlankFits x.toNat (columns8 character).length ∨
        panel.screen (page.setWidth 3) (strayColumn x.toNat) = 0 ∧
          (x.toNat + (columns8 character).length < 128 →
            panel.screen (page.setWidth 3) (x.toNat + (columns8 character).length) = 0) := by
  have hLength := columns8_length character
  by_cases hFits : BlankFits x.toNat (columns8 character).length
  · simp only [hFits, true_or, iff_true]
    exact fun q j hj => lcdWritechar8_fits panel hPage hFits q hj
  · obtain ⟨hOn, hMoved, hBeside⟩ := strayColumn_beside (by omega) hFits
    have hScreen := fun q j => lcdWritechar8_screen panel x hPage character q (j := j)
    rw [blankColumn_eq _ (by omega), if_neg hFits] at hScreen
    rw [← paint_beside panel.screen (page.setWidth 3) (page.setWidth 3) hBeside,
      ← paint_beside panel.screen (page.setWidth 3) (page.setWidth 3) (Or.inr le_rfl),
      ← moved_blank_iff hOn hMoved, or_iff_right hFits]
    constructor
    · intro h j hj
      have hCell := h (page.setWidth 3) j hj
      rw [hScreen _ _ hj, paint_characterCells] at hCell
      simpa only [true_and] using hCell
    · intro h q j hj
      rw [hScreen _ _ hj, paint_characterCells]
      by_cases hq : q = page.setWidth 3
      · simpa only [hq, true_and] using h j hj
      · rw [if_neg fun hBoth => hq hBoth.1, if_neg fun hBoth => hq hBoth.1]

def upperPen (x page character : Byte) : Pen :=
  drawColumns page (columns16 character 0) (startPen x page [])

def lowerPen (x page character : Byte) : Pen :=
  drawColumns (page + 1) (columns16 character 1) (startPen x (page + 1) (upperPen x page character).calls)

/-- The calls for the blank column of a page after a large character. -/
def blankCalls (controller x page : Byte) : List Call :=
  [setPage controller page, setAddress controller (columnOf x controller), writeColumn controller 0]

theorem lcdWritechar16_eq (x page character : Byte) :
    lcdWritechar16 x page character =
      let lower := lowerPen x page character
      if lower.x < 128 then
        (lower.x + 1, lower.calls ++ blankCalls lower.controller lower.x page ++
          blankCalls lower.controller lower.x (page + 1))
      else (lower.x, lower.calls) := by
  have hPage : page + BitVec.ofNat 8 0 = page := BitVec.add_zero page
  have hUpper : lcdWritechar16Page x page (glyph16 character) 0 [] = upperPen x page character := by
    rw [lcdWritechar16Page_eq, hPage, upperPen]
  have hLower : lcdWritechar16Page x page (glyph16 character) 1 (upperPen x page character).calls =
      lowerPen x page character := by
    rw [lcdWritechar16Page_eq]
    rfl
  have hFirst : page + 0 = page := BitVec.add_zero page
  rw [lcdWritechar16, ← glyph16]
  simp only [hUpper, hLower, hFirst]
  rfl

/-- Both pages of a large character, drawn over a screen. -/
def paintLarge (screen : Screen) (page : Byte) (x : Nat) (upper lower : List (Option Byte)) : Screen :=
  paintPage (paintPage screen (page.setWidth 3) x upper) ((page + 1).setWidth 3) x lower

def drawnLarge (screen : Screen) (page : Byte) (x : Nat) (character : Byte) : Screen :=
  paintLarge screen page x ((columns16 character 0).map some) ((columns16 character 1).map some)

/-- The columns that a large character takes, without the blank one. -/
def width16 (character : Byte) : Nat := (columns16 character 0).length

theorem lowerPen_x (x page character : Byte) :
    (lowerPen x page character).x.toNat = reach x.toNat (width16 character) := by
  rw [lowerPen, glyph_x, columns16_length_eq character 1 0, width16]

theorem lowerPen_stands (panel : Panel) (x : Byte) {page : Byte} (hPage : page < 7) (character : Byte) :
    (lowerPen x page character).Stands panel (chipFrom x.toNat (reach x.toNat (width16 character)))
      ((page + 1).setWidth 3) (drawnLarge panel.screen page x.toNat character) := by
  have hUpperPage : page < 8 := by bv_omega
  have hLowerPage : page + 1 < 8 := by bv_omega
  have hBefore : ∀ q, ∀ j < 128, (panel.run []).screen q j = panel.screen q j := fun _ _ _ => rfl
  have hUpper := glyph_stands x hUpperPage (columns16 character 0) hBefore
  have hLower := glyph_stands x hLowerPage (columns16 character 1) hUpper.shows
  rw [columns16_length_eq character 1 0] at hLower
  exact hLower

/-- A blank column is written at `x` of a page, when the controller of the pen is the one of `x`. -/
theorem blankCalls_screen {panel : Panel} {screen : Screen} {x page : Byte} {calls : List Call} (hPage : page < 8)
    (hx : x.toNat < 128) (hShows : ∀ q, ∀ j < 128, (panel.run calls).screen q j = screen q j) :
    ∀ q, ∀ j < 128, (panel.run (calls ++ blankCalls (number (Panel.chipOf x.toNat)) x page)).screen q j =
      paintPage screen (page.setWidth 3) x.toNat [some 0] q j := by
  intro q j hj
  have hSeek := seek_stands (Panel.chipOf x.toNat) hShows hPage (columnOf_toNat x)
  have hWrite := (write_stands (p := ⟨x, _, _⟩) 0 hSeek hx).shows q j hj
  rw [Pen.write, Pen.emit, List.append_assoc] at hWrite
  exact hWrite

theorem drawnLarge_blanks (screen : Screen) (page : Byte) (x : Nat) (character : Byte) :
    paintLarge (drawnLarge screen page x character) page (x + width16 character) [some 0] [some 0] =
      paintLarge screen page x (characterCells (columns16 character 0)) (characterCells (columns16 character 1)) := by
  have hPages : (page + 1).setWidth 3 ≠ page.setWidth 3 := by bv_omega
  rw [drawnLarge, paintLarge, paintLarge, paintPage_comm _ hPages, paintLarge, characterCells, characterCells,
    paintPage_append, paintPage_append, List.length_map, List.length_map, columns16_length_eq character 1 0]
  rfl

theorem lcdWritechar16_fits (panel : Panel) {x page character : Byte} (hPage : page < 7)
    (hFits : ¬ (x.toNat < 64 ∧ x.toNat + width16 character = 64)) (q : BitVec 3) {j : Nat} (hj : j < 128) :
    (panel.run (lcdWritechar16 x page character).2).screen q j =
      paintLarge panel.screen page x.toNat (characterCells (columns16 character 0))
        (characterCells (columns16 character 1)) q j := by
  have hUpperPage : page < 8 := by bv_omega
  have hLowerPage : page + 1 < 8 := by bv_omega
  have hColumn := lowerPen_x x page character
  have hStands := lowerPen_stands panel x hPage character
  rw [lcdWritechar16_eq, ← drawnLarge_blanks]
  generalize lowerPen x page character = lower at hColumn hStands
  by_cases hEdge : lower.x.toNat < 128
  · have hEdge' : lower.x < 128 := BitVec.lt_def.mpr hEdge
    have hAt : lower.x.toNat = x.toNat + width16 character := by
      rw [hColumn, reach] at hEdge ⊢
      split_ifs at hEdge ⊢ <;> omega
    have hController : lower.controller = number (Panel.chipOf lower.x.toNat) := by
      rw [hStands.controller, ← hColumn, chipFrom, Panel.chipOf]
      congr 1
      exact if_congr (by omega) rfl rfl
    simp only [if_pos hEdge', hController]
    rw [← hAt]
    exact blankCalls_screen hLowerPage hEdge (blankCalls_screen hUpperPage hEdge hStands.shows) q j hj
  · have hEdge' : ¬ lower.x < 128 := fun h => hEdge (BitVec.lt_def.mp h)
    have hBeyond : 128 ≤ x.toNat + width16 character := by
      rw [hColumn, reach] at hEdge
      split_ifs at hEdge <;> omega
    simp only [if_neg hEdge']
    rw [hStands.shows q j hj, paintLarge, paintPage_beyond _ _ hBeyond _ _ hj, paintPage_beyond _ _ hBeyond _ _ hj]

theorem lcdWritechar16_x {x page character : Byte} (hEdge : x.toNat + width16 character < 128) :
    (lcdWritechar16 x page character).1.toNat = x.toNat + width16 character + 1 := by
  have hReach := lowerPen_x x page character
  rw [reach, if_pos (by omega), Nat.min_eq_left (by omega)] at hReach
  have hInside : (lowerPen x page character).x < 128 := by bv_omega
  rw [lcdWritechar16_eq]
  simp only [if_pos hInside]
  bv_omega

/-- The address one past the last column is no command, so the blank goes to the column register. -/
theorem blankCalls_lost (panel : Panel) {page : Byte} (hPage : page < 8) :
    ((panel.run (blankCalls (number 0) 64 page)).chip 0).column = (panel.chip 0).column + 1 ∧
      ∀ q, ∀ j < 128, (panel.run (blankCalls (number 0) 64 page)).screen q j =
        paintPage panel.screen (page.setWidth 3) (panel.chip 0).column.toNat [some 0] q j := by
  have hPaged : ((panel.take (setPage (number 0) page)).take ⟨number 0, 0x80, 0⟩).chip 0 =
      { panel.chip 0 with page := page.setWidth 3 } := by
    rw [setPage, Panel.take_same, Panel.take_same, Chip.take_command, Chip.take_command, Chip.command_none,
      Chip.command_page _ hPage]
  have hRun : panel.run (blankCalls (number 0) 64 page) =
      ((panel.take (setPage (number 0) page)).take ⟨number 0, 0x80, 0⟩).take ⟨number 0, 0, 1⟩ := rfl
  rw [hRun]
  constructor
  · rw [Panel.take_same, hPaged]
    rfl
  · intro q j hj
    rw [Panel.screen_write _ _ _ _ hj, hPaged, paintPage_write, setPage, Panel.screen_command,
      Panel.screen_command]
    exact if_congr (by rw [Fin.val_zero, Nat.mul_zero, Nat.zero_add]) rfl rfl

/-- A large character that ends on column 63: both blanks are lost at the left edge of the display. -/
theorem lcdWritechar16_lost (panel : Panel) {x page character : Byte} (hPage : page < 7) (hx : x.toNat < 64)
    (hEnd : x.toNat + width16 character = 64) (q : BitVec 3) {j : Nat} (hj : j < 128) :
    (panel.run (lcdWritechar16 x page character).2).screen q j =
      paintPage (paintPage (drawnLarge panel.screen page x.toNat character) (page.setWidth 3) 0 [some 0])
        ((page + 1).setWidth 3) 1 [some 0] q j := by
  have hUpperPage : page < 8 := by bv_omega
  have hLowerPage : page + 1 < 8 := by bv_omega
  have hColumn := lowerPen_x x page character
  have hStands := lowerPen_stands panel x hPage character
  have hReach : reach x.toNat (width16 character) = 64 := by
    rw [reach, hEnd, if_pos (by omega)]
    rfl
  have hChip : chipFrom x.toNat 64 = 0 := if_pos ⟨hx, le_rfl⟩
  rw [lcdWritechar16_eq]
  generalize lowerPen x page character = lower at hColumn hStands
  rw [hReach] at hColumn hStands
  rw [hChip] at hStands
  have hAt : lower.x = 64 := BitVec.eq_of_toNat_eq hColumn
  have hEdge : lower.x < 128 := by rw [hAt]; decide
  have hStart : ((panel.run lower.calls).chip 0).column = 0 := by
    rw [hStands.column, hAt]
    rfl
  obtain ⟨hUpperColumn, hUpper⟩ := blankCalls_lost (panel.run lower.calls) hUpperPage
  obtain ⟨_, hLower⟩ := blankCalls_lost ((panel.run lower.calls).run (blankCalls (number 0) 64 page)) hLowerPage
  simp only [if_pos hEdge, hStands.controller]
  rw [hAt, Panel.run_append, Panel.run_append, hLower q j hj, hUpperColumn, hStart]
  apply paintPage_congr
  rw [hUpper q j hj, hStart]
  exact paintPage_congr (hStands.shows q j hj) ..

theorem drawnLarge_beside (screen : Screen) (page : Byte) (character : Byte) (q : BitVec 3) {x j : Nat}
    (h : j < x ∨ x + width16 character ≤ j) : drawnLarge screen page x character q j = screen q j := by
  have hLower : j < x ∨ x + (columns16 character 1).length ≤ j := by
    rw [columns16_length_eq character 1 0]
    exact h
  rw [drawnLarge, paintLarge, paint_beside _ _ _ hLower, paint_beside _ _ _ h]

theorem blanks_eq_iff {screen : Screen} {page page' : BitVec 3} (hPages : page ≠ page') {a a' b b' : Nat} :
    (∀ q, ∀ j < 128, paintPage (paintPage screen page a [some 0]) page' a' [some 0] q j =
        paintPage (paintPage screen page b [some 0]) page' b' [some 0] q j) ↔
      (∀ j < 128, (if j = a then 0 else screen page j) = if j = b then 0 else screen page j) ∧
        (∀ j < 128, (if j = a' then 0 else screen page' j) = if j = b' then 0 else screen page' j) := by
  simp only [paintPage_write]
  constructor
  · intro h
    refine ⟨fun j hj => ?_, fun j hj => ?_⟩
    · simpa only [hPages, false_and, if_false, true_and] using h page j hj
    · simpa only [hPages.symm, false_and, if_false, true_and] using h page' j hj
  · rintro ⟨hFirst, hSecond⟩ q j hj
    by_cases hq : q = page
    · subst hq
      simpa only [hPages, false_and, if_false, true_and] using hFirst j hj
    · by_cases hq' : q = page'
      · subst hq'
        simpa only [hPages.symm, false_and, if_false, true_and] using hSecond j hj
      · simp only [hq, hq', false_and, if_false]

def BlitsLarge (panel : Panel) (x page character : Byte) : Prop :=
  ∀ q, ∀ j < 128, (panel.run (lcdWritechar16 x page character).2).screen q j =
    paintLarge panel.screen page x.toNat (characterCells (columns16 character 0))
      (characterCells (columns16 character 1)) q j

theorem blitsLarge_iff (panel : Panel) (x : Byte) {page : Byte} (hPage : page < 7) (character : Byte) :
    BlitsLarge panel x page character ↔
      ¬ (x.toNat < 64 ∧ x.toNat + width16 character = 64) ∨
        (panel.screen (page.setWidth 3) 0 = 0 ∧ panel.screen (page.setWidth 3) 64 = 0) ∧
          panel.screen ((page + 1).setWidth 3) 1 = 0 ∧ panel.screen ((page + 1).setWidth 3) 64 = 0 := by
  have hLength : width16 character ≤ 9 := columns16_length character 0
  by_cases hFits : x.toNat < 64 ∧ x.toNat + width16 character = 64
  · have hPages : page.setWidth 3 ≠ (page + 1).setWidth 3 := by bv_omega
    have hBeside : ∀ q, ∀ j, j < 2 ∨ 64 ≤ j →
        drawnLarge panel.screen page x.toNat character q j = panel.screen q j := by
      intro q j hj
      exact drawnLarge_beside panel.screen page character q (by omega)
    have hMoved : ∀ q a, a < 2 → ((∀ j < 128, (if j = a then 0 else drawnLarge panel.screen page x.toNat character q j) =
        if j = 64 then 0 else drawnLarge panel.screen page x.toNat character q j) ↔
          panel.screen q a = 0 ∧ panel.screen q 64 = 0) := by
      intro q a ha
      rw [moved_blank_iff (by omega) (by omega), hBeside q a (Or.inl ha), hBeside q 64 (Or.inr le_rfl)]
      exact and_congr_right fun _ => imp_iff_right (by decide)
    rw [or_iff_right (not_not_intro hFits), ← hMoved (page.setWidth 3) 0 (by decide),
      ← hMoved ((page + 1).setWidth 3) 1 (by decide), ← blanks_eq_iff hPages]
    refine forall_congr' fun q => forall₂_congr fun j hj => ?_
    rw [lcdWritechar16_lost panel hPage hFits.1 hFits.2 q hj, ← drawnLarge_blanks, hFits.2]
    rfl
  · simp only [hFits, not_false_iff, true_or, iff_true]
    exact fun q j hj => lcdWritechar16_fits panel hPage hFits q hj

/-- A character is drawn exactly when its blank column stays on the display and on the controller of its last
column, or when the blank that goes astray changes nothing. A large character that reaches the right edge has none. -/
theorem writechar_blits_iff (panel : Panel) (x page character : Byte) :
    (page < 8 → character < 39 →
      (BlitsSmall panel x page character ↔
        BlankFits x.toNat (columns8 character).length ∨
          panel.screen (page.setWidth 3) (strayColumn x.toNat) = 0 ∧
            (x.toNat + (columns8 character).length < 128 →
              panel.screen (page.setWidth 3) (x.toNat + (columns8 character).length) = 0))) ∧
      (page < 7 → character < 11 →
        (BlitsLarge panel x page character ↔
          ¬ (x.toNat < 64 ∧ x.toNat + width16 character = 64) ∨
            (panel.screen (page.setWidth 3) 0 = 0 ∧ panel.screen (page.setWidth 3) 64 = 0) ∧
              panel.screen ((page + 1).setWidth 3) 1 = 0 ∧ panel.screen ((page + 1).setWidth 3) 64 = 0)) :=
  ⟨fun hPage _ => blitsSmall_iff panel x hPage character, fun hPage _ => blitsLarge_iff panel x hPage character⟩

/-- A display with every pixel set. -/
def litPanel : Panel := ⟨fun _ => ⟨fun _ _ => 0xFF, 0, 0, 0, true⟩⟩

theorem writechar_blits_iff_lit :
    (BlitsSmall litPanel 57 0 12 ↔
      BlankFits 57 (columns8 12).length ∨
        litPanel.screen 0 (strayColumn 57) = 0 ∧
          (57 + (columns8 12).length < 128 → litPanel.screen 0 (57 + (columns8 12).length) = 0)) ∧
      (BlitsLarge litPanel 55 1 3 ↔
        ¬ (55 < 64 ∧ 55 + width16 3 = 64) ∨
          (litPanel.screen 1 0 = 0 ∧ litPanel.screen 1 64 = 0) ∧
            litPanel.screen 2 1 = 0 ∧ litPanel.screen 2 64 = 0) :=
  ⟨(writechar_blits_iff litPanel 57 0 12).1 (by decide) (by decide),
    (writechar_blits_iff litPanel 55 1 3).2 (by decide) (by decide)⟩

/-- An `m` from column 57 on ends on column 63 and leaves column 64 lit. -/
theorem writechar_not_blit :
    ¬ ∀ (panel : Panel) (x page character : Byte), page < 8 → character < 39 → BlitsSmall panel x page character := by
  intro h
  have hBlank := h litPanel 57 0 12 (by decide) (by decide) 0 64 (by decide)
  revert hBlank
  decide +kernel

end WheelDisplay.Lcd
