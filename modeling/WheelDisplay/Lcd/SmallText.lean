import WheelDisplay.Lcd.Redraw

/-! # Texts of the small font

A glyph of the small font has no blank column, and one blank column follows it. On a blank
line the text can be read back from the columns that it takes.
-/

namespace WheelDisplay.Lcd

open CString Ks0108 Raster

def Legible (bytes : List Byte) : Prop := ∀ c ∈ bytes, glyphOf fontSmall c ≠ none

/-- The columns of a character that are not blank. -/
def columnsOf (c : Byte) : List Byte := (glyphSmall c).elim [] columns8

theorem glyphOf_small (c : Byte) : glyphOf fontSmall c = glyphSmall c := rfl

theorem cells_small (c : Byte) : (cells fontSmall 0 c).length ≤ 8 := by
  have hSmall : ¬ fontSmall = fontLarge := by decide
  rw [cells]
  cases glyphOf fontSmall c with
  | some glyph =>
    dsimp only
    rw [if_neg hSmall, characterCells, List.length_append, List.length_map, List.length_singleton]
    exact Nat.succ_le_succ (columns8_length glyph)
  | none =>
    dsimp only
    split <;> decide

theorem textWidth_small (bytes : List Byte) : textWidth fontSmall bytes ≤ 8 * bytes.length := by
  induction bytes with
  | nil => exact Nat.zero_le _
  | cons c rest ih =>
    have hHere := cells_small c
    rw [textWidth, textCells] at ih ⊢
    rw [List.flatMap_cons, List.length_append, List.length_cons]
    omega

theorem cells_legible {c : Byte} (h : glyphOf fontSmall c ≠ none) :
    cells fontSmall 0 c = (columnsOf c ++ [0]).map some := by
  have hSmall : ¬ fontSmall = fontLarge := by decide
  obtain ⟨glyph, hGlyph⟩ := Option.ne_none_iff_exists'.mp h
  rw [columnsOf, ← glyphOf_small, cells, hGlyph]
  dsimp only
  rw [if_neg hSmall, characterCells, Option.elim_some, List.map_append]
  rfl

theorem textCells_legible {bytes : List Byte} (h : Legible bytes) :
    textCells fontSmall bytes 0 = (joined (bytes.map columnsOf)).map some := by
  induction bytes with
  | nil => rfl
  | cons c rest ih =>
    obtain ⟨hHere, hRest⟩ := List.forall_mem_cons.mp h
    rw [textCells] at ih ⊢
    rw [List.flatMap_cons, cells_legible hHere, ih hRest, ← List.map_append]
    rfl

theorem Legible.solid {bytes : List Byte} (h : Legible bytes) : none ∉ textCells fontSmall bytes 0 := by
  intro hNone
  rw [textCells_legible h] at hNone
  obtain ⟨b, -, hCell⟩ := List.mem_map.mp hNone
  cases hCell

theorem glyphSmall_lt {c glyph : Byte} (h : glyphSmall c = some glyph) : glyph.toNat < 39 := by
  rw [glyphSmall] at h
  split_ifs at h
  all_goals
    have hGlyph := Option.some.inj h
    bv_omega

theorem glyphSmall_injective {c c' glyph : Byte} (h : glyphSmall c = some glyph) (h' : glyphSmall c' = some glyph) :
    c = c' := by
  rw [glyphSmall] at h h'
  split_ifs at h h'
  all_goals
    have hGlyph := Option.some.inj h
    have hGlyph' := Option.some.inj h'
    bv_omega

theorem columns8_shape : ∀ glyph < 39, columns8 (BitVec.ofNat 8 glyph) ≠ [] := by decide +kernel

theorem columns8_distinct :
    ∀ glyph < 39, ∀ glyph' < 39, columns8 (BitVec.ofNat 8 glyph) = columns8 (BitVec.ofNat 8 glyph') → glyph = glyph' := by
  decide +kernel

theorem columnsOf_eq {c : Byte} (h : glyphOf fontSmall c ≠ none) :
    ∃ glyph, glyphSmall c = some (BitVec.ofNat 8 glyph) ∧ glyph < 39 ∧ columnsOf c = columns8 (BitVec.ofNat 8 glyph) := by
  obtain ⟨glyph, hGlyph⟩ := Option.ne_none_iff_exists'.mp h
  rw [glyphOf_small] at hGlyph
  have hSame : BitVec.ofNat 8 glyph.toNat = glyph := BitVec.ofNat_toNat .. |>.trans (BitVec.setWidth_eq _)
  refine ⟨glyph.toNat, hSame.symm ▸ hGlyph, glyphSmall_lt hGlyph, ?_⟩
  rw [columnsOf, hGlyph, hSame]
  rfl

theorem columnsOf_injective {c c' : Byte} (h : glyphOf fontSmall c ≠ none) (h' : glyphOf fontSmall c' ≠ none)
    (hColumns : columnsOf c = columnsOf c') : c = c' := by
  obtain ⟨glyph, hGlyph, hLt, hEq⟩ := columnsOf_eq h
  obtain ⟨glyph', hGlyph', hLt', hEq'⟩ := columnsOf_eq h'
  rw [hEq, hEq'] at hColumns
  obtain rfl := columns8_distinct glyph hLt glyph' hLt' hColumns
  exact glyphSmall_injective hGlyph hGlyph'

theorem Legible.separable {bytes : List Byte} (h : Legible bytes) : Separable (bytes.map columnsOf) := by
  intro s hs
  obtain ⟨c, hc, rfl⟩ := List.mem_map.mp hs
  obtain ⟨glyph, -, hLt, hEq⟩ := columnsOf_eq (h c hc)
  rw [hEq]
  refine ⟨columns8_shape glyph hLt, fun hZero => ?_⟩
  rw [columns8, List.mem_filter] at hZero
  exact absurd hZero.2 (by decide)

theorem Legible.map_injective {bytes bytes' : List Byte} (h : Legible bytes) (h' : Legible bytes')
    (hColumns : bytes.map columnsOf = bytes'.map columnsOf) : bytes = bytes' := by
  induction bytes generalizing bytes' with
  | nil => exact (List.map_eq_nil_iff.mp hColumns.symm).symm
  | cons c rest ih =>
    cases bytes' with
    | nil => cases hColumns
    | cons c' rest' =>
      obtain ⟨hHere, hRest⟩ := List.forall_mem_cons.mp h
      obtain ⟨hHere', hRest'⟩ := List.forall_mem_cons.mp h'
      obtain ⟨hFirst, hOthers⟩ := List.cons.inj hColumns
      rw [columnsOf_injective hHere hHere' hFirst, ih hRest hRest' hOthers]

/-- Two legible texts that look alike on a blank line are the same. -/
theorem Legible.read {bytes bytes' : List Byte} (h : Legible bytes) (h' : Legible bytes') {width : Nat}
    (hWidth : (textCells fontSmall bytes 0).length ≤ width) (hWidth' : (textCells fontSmall bytes' 0).length ≤ width)
    (hAlike : ∀ j < width, paint (fun _ => 0) 0 (textCells fontSmall bytes 0) j =
      paint (fun _ => 0) 0 (textCells fontSmall bytes' 0) j) : bytes = bytes' := by
  rw [textCells_legible h, textCells_legible h'] at hAlike
  rw [textCells_legible h, List.length_map] at hWidth
  rw [textCells_legible h', List.length_map] at hWidth'
  exact h.map_injective h' (joined_injective h.separable h'.separable (paint_row_eq hWidth hWidth' hAlike))

end WheelDisplay.Lcd
