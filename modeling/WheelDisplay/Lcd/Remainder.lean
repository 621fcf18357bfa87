import WheelDisplay.Lcd.Redraw

/-! # The remainders of the glyph calls

A glyph call takes the address of its first column to be `x % (controller * 64)`. On the
left controller that divides by zero, though the comment of the source has the remainder
taken only beyond column 64.
-/

namespace WheelDisplay.Lcd

open Ks0108 Labels

/-- One evaluation of `x % (controller * 64)`. -/
structure Remainder where
  x : Byte
  controller : Byte

namespace Remainder

def divisor (r : Remainder) : Nat := r.controller.toNat * 64

/-- The call that sends the remainder. -/
def call (r : Remainder) : Call := setAddress r.controller (columnOf r.x r.controller)

/-- The divisor is not zero, and the byte addresses the column of `x` on its controller. -/
structure Safe (r : Remainder) : Prop where
  divisor : r.divisor ≠ 0
  low : 0x40 ≤ r.call.instruction
  high : r.call.instruction ≤ 0x7F
  column : (r.call.instruction - 0x40).toNat = r.x.toNat % 64

end Remainder

def writechar8Remainders (x : Byte) : List Remainder := [⟨x, controllerOf x⟩]

/-- Once for each page of the character, and once for each page of the blank column after it. -/
def writechar16Remainders (x page character : Byte) : List Remainder :=
  let lower := lowerPen x page character
  [⟨x, controllerOf x⟩, ⟨x, controllerOf x⟩] ++
    if lower.x < 128 then [⟨lower.x, lower.controller⟩, ⟨lower.x, lower.controller⟩] else []

def glyphRemainders (font x y glyph : Byte) : List Remainder :=
  if font = fontLarge then writechar16Remainders x y glyph else writechar8Remainders x

def textRemainders (t : LCDtext) : List Byte → Byte → List Remainder
  | [], _ => []
  | c :: rest, x =>
    ((glyphOf t.font c).elim [] (glyphRemainders t.font x t.y)) ++
      textRemainders t rest (writeCharacter t.font t.y t.number x c).1

/-- The evaluations of the glyph calls that `LCD_writestring` makes for a label. -/
def writestringRemainders (k : Nat) (l : Labels) : List Remainder := textRemainders (l k) (drawnBytes k l) (l k).x

theorem startPen_calls (x page : Byte) (calls : List Call) :
    (calls ++ [Remainder.call ⟨x, controllerOf x⟩]).Sublist (startPen x page calls).calls :=
  (List.Sublist.refl calls).append (List.sublist_cons_self _ _)

theorem blankCalls_calls (controller x page : Byte) :
    [Remainder.call ⟨x, controller⟩].Sublist (blankCalls controller x page) :=
  ((List.Sublist.refl [_]).append (List.nil_sublist _)).cons _

theorem writechar8Remainders_calls (x page character : Byte) :
    ((writechar8Remainders x).map Remainder.call).Sublist (lcdWritechar8 x page character).2 := by
  rw [lcdWritechar8_eq]
  exact ((startPen_calls x page []).trans (drawColumns_extends ..)).trans (List.sublist_append_left ..)

theorem writechar16Remainders_calls (x page character : Byte) :
    ((writechar16Remainders x page character).map Remainder.call).Sublist (lcdWritechar16 x page character).2 := by
  have hUpper : [Remainder.call ⟨x, controllerOf x⟩].Sublist (upperPen x page character).calls :=
    (startPen_calls x page []).trans (drawColumns_extends ..)
  have hLower : [Remainder.call ⟨x, controllerOf x⟩, Remainder.call ⟨x, controllerOf x⟩].Sublist
      (lowerPen x page character).calls :=
    ((hUpper.append (List.Sublist.refl [_])).trans (startPen_calls x (page + 1) _)).trans (drawColumns_extends ..)
  rw [lcdWritechar16_eq, writechar16Remainders]
  dsimp only
  split
  next =>
    exact (hLower.append (blankCalls_calls ..)).append (blankCalls_calls ..)
  next => exact hLower

theorem glyphRemainders_calls (font x y glyph : Byte) :
    ((glyphRemainders font x y glyph).map Remainder.call).Sublist (writeGlyph font x y glyph).2 := by
  rw [glyphRemainders, writeGlyph]
  split
  · exact writechar16Remainders_calls x y glyph
  · exact writechar8Remainders_calls x y glyph

theorem glyphOf_font {font c glyph : Byte} (h : glyphOf font c = some glyph) :
    font = fontSmall ∨ font = fontLarge := by
  rw [glyphOf] at h
  split_ifs at h with hLarge hSmall
  · exact Or.inr hLarge
  · exact Or.inl hSmall

theorem characterRemainders_calls (t : LCDtext) (x c : Byte) :
    (((glyphOf t.font c).elim [] (glyphRemainders t.font x t.y)).map Remainder.call).Sublist
      (writeCharacter t.font t.y t.number x c).2 := by
  cases hGlyph : glyphOf t.font c with
  | none => exact List.nil_sublist _
  | some glyph =>
    rw [writeCharacter_eq (glyphOf_font hGlyph), hGlyph]
    exact glyphRemainders_calls t.font x t.y glyph

theorem textRemainders_calls (t : LCDtext) (bytes : List Byte) (x : Byte) :
    ((textRemainders t bytes x).map Remainder.call).Sublist (bytes.foldl (drawCharacter t) (x, [])).2 := by
  induction bytes generalizing x with
  | nil => exact List.nil_sublist _
  | cons c rest ih =>
    have hDrawn : drawCharacter t (x, []) c = writeCharacter t.font t.y t.number x c := rfl
    rw [textRemainders, List.map_append, List.foldl_cons, drawCharacter_foldl, hDrawn]
    exact (characterRemainders_calls t x c).append (ih _)

/-- Every remainder is sent, in the order in which they are taken. -/
theorem writestringRemainders_calls (k : Nat) (l : Labels) :
    ((writestringRemainders k l).map Remainder.call).Sublist (lcdWritestring k l).1 := by
  rw [lcdWritestring_calls]
  exact (textRemainders_calls (l k) (drawnBytes k l) (l k).x).trans (List.sublist_append_left ..)

theorem safe_right (x : Byte) : Remainder.Safe ⟨x, 1⟩ := by
  have hByte : ∀ x : Byte, 0x40 ≤ (Remainder.call ⟨x, 1⟩).instruction ∧
      (Remainder.call ⟨x, 1⟩).instruction ≤ 0x7F ∧
      ((Remainder.call ⟨x, 1⟩).instruction - 0x40).toNat = x.toNat % 64 := by decide +kernel
  have hDivisor : (1 : Byte).toNat * 64 ≠ 0 := by decide
  obtain ⟨hLow, hHigh, hColumn⟩ := hByte x
  exact ⟨hDivisor, hLow, hHigh, hColumn⟩

theorem not_safe_left (x : Byte) : ¬ Remainder.Safe ⟨x, 0⟩ := fun h => h.divisor rfl

/-- The first remainder of a glyph is safe on the right controller only. -/
theorem safe_controllerOf_iff (x : Byte) : Remainder.Safe ⟨x, controllerOf x⟩ ↔ 64 ≤ x.toNat := by
  rw [controllerOf]
  split
  next hLeft => exact iff_of_false (not_safe_left x) (Nat.not_le.mpr hLeft)
  next hRight => exact iff_of_true (safe_right x) (Nat.le_of_not_lt hRight)

theorem drawColumns_right (page : Byte) (columns : List Byte) {p : Pen} (h : p.controller = 1) :
    (drawColumns page columns p).controller = 1 := by
  induction columns generalizing p with
  | nil => exact h
  | cons column rest ih =>
    have hCross : (p.cross page).controller = 1 := by
      rw [Pen.cross]
      split
      · rfl
      · exact h
    have hPut : ((p.cross page).put column).controller = 1 := by
      rw [Pen.put]
      split
      · exact hCross
      · exact hCross
    exact ih hPut

theorem lowerPen_right {x : Byte} (h : 64 ≤ x.toNat) (page character : Byte) :
    (lowerPen x page character).controller = 1 := by
  have hStart : controllerOf x = 1 := if_neg fun hLeft => Nat.not_lt.mpr h (BitVec.lt_def.mp hLeft)
  exact drawColumns_right _ _ hStart

theorem glyphRemainders_safe_iff (font x y glyph : Byte) :
    (∀ r ∈ glyphRemainders font x y glyph, r.Safe) ↔ 64 ≤ x.toNat := by
  rw [← safe_controllerOf_iff, glyphRemainders]
  constructor
  · intro h
    apply h
    split
    · exact List.mem_append_left _ (List.mem_cons_self ..)
    · exact List.mem_singleton_self _
  · intro hStart
    have hRight := (safe_controllerOf_iff x).mp hStart
    split
    next =>
      have hBlanks : ∀ r ∈ [Remainder.mk (lowerPen x y glyph).x 1, ⟨(lowerPen x y glyph).x, 1⟩], r.Safe :=
        List.forall_mem_cons.mpr ⟨safe_right _, List.forall_mem_singleton.mpr (safe_right _)⟩
      rw [writechar16Remainders, lowerPen_right hRight, List.forall_mem_append]
      refine ⟨List.forall_mem_cons.mpr ⟨hStart, List.forall_mem_singleton.mpr hStart⟩, ?_⟩
      split
      · exact hBlanks
      · exact fun r hNone => absurd hNone List.not_mem_nil
    next => exact List.forall_mem_singleton.mpr hStart

/-- The column after a character that starts at column `x`. -/
def columnAfter (font : Byte) (x : Nat) (c : Byte) : Nat :=
  match glyphOf font c with
  | some glyph =>
    if font = fontLarge then
      if reach x (width16 glyph) < 128 then reach x (width16 glyph) + 1 else reach x (width16 glyph)
    else (reach x (columns8 glyph).length + 1) % 256
  | none => if font = fontSmall ∧ c = 0x20 then (x + 1) % 256 else x

/-- The columns that the characters with a glyph start at. -/
def glyphStarts (font : Byte) : List Byte → Nat → List Nat
  | [], _ => []
  | c :: rest, x => ((glyphOf font c).elim [] fun _ => [x]) ++ glyphStarts font rest (columnAfter font x c)

theorem writeGlyph_x (font x y glyph : Byte) :
    (writeGlyph font x y glyph).1.toNat =
      if font = fontLarge then
        if reach x.toNat (width16 glyph) < 128 then reach x.toNat (width16 glyph) + 1
        else reach x.toNat (width16 glyph)
      else (reach x.toNat (columns8 glyph).length + 1) % 256 := by
  rw [writeGlyph]
  split
  · have hColumn := lowerPen_x x y glyph
    have hEdge : (lowerPen x y glyph).x < 128 ↔ reach x.toNat (width16 glyph) < 128 := by
      rw [← hColumn]
      exact BitVec.lt_def
    rw [lcdWritechar16_eq]
    dsimp only
    simp only [hEdge]
    split
    next hInside =>
      have hNext : reach x.toNat (width16 glyph) + 1 < 256 := by omega
      rw [BitVec.toNat_add, hColumn]
      exact Nat.mod_eq_of_lt hNext
    next => exact hColumn
  · rw [lcdWritechar8_eq, BitVec.toNat_add, glyph_x]
    rfl

theorem writeCharacter_other {font : Byte} (hSmall : font ≠ fontSmall) (hLarge : font ≠ fontLarge) (y : Byte)
    (number : Word) (x c : Byte) : (writeCharacter font y number x c).1 = x := by
  rw [writeCharacter, if_neg hLarge, if_neg hSmall]
  split_ifs <;> rfl

theorem writeCharacter_x (font y : Byte) (number : Word) (x c : Byte) :
    (writeCharacter font y number x c).1.toNat = columnAfter font x.toNat c := by
  rw [columnAfter]
  cases hGlyph : glyphOf font c with
  | some glyph =>
    rw [writeCharacter_eq (glyphOf_font hGlyph), hGlyph]
    exact writeGlyph_x font x y glyph
  | none =>
    dsimp only
    split
    next hSpace =>
      rw [writeCharacter_eq (Or.inl hSpace.1), hGlyph]
      dsimp only
      rw [if_pos hSpace, BitVec.toNat_add]
      rfl
    next hPassed =>
      obtain hText | hOther := Classical.em (font = fontSmall ∨ font = fontLarge)
      · rw [writeCharacter_eq hText, hGlyph]
        dsimp only
        rw [if_neg hPassed]
      · rw [not_or] at hOther
        rw [writeCharacter_other hOther.1 hOther.2]

theorem textRemainders_safe_iff (t : LCDtext) (bytes : List Byte) (x : Byte) :
    (∀ r ∈ textRemainders t bytes x, r.Safe) ↔ ∀ start ∈ glyphStarts t.font bytes x.toNat, 64 ≤ start := by
  induction bytes generalizing x with
  | nil => exact iff_of_true (fun _ h => absurd h List.not_mem_nil) fun _ h => absurd h List.not_mem_nil
  | cons c rest ih =>
    rw [textRemainders, glyphStarts, List.forall_mem_append, List.forall_mem_append, ih, writeCharacter_x]
    refine and_congr_left' ?_
    cases glyphOf t.font c with
    | none => exact iff_of_true (fun _ h => absurd h List.not_mem_nil) fun _ h => absurd h List.not_mem_nil
    | some glyph =>
      rw [Option.elim_some, Option.elim_some, List.forall_mem_singleton]
      exact glyphRemainders_safe_iff t.font x t.y glyph

/-- No glyph of the two fonts is wider than ten columns, its blank included. -/
theorem columnAfter_bounds (font c : Byte) {x : Nat} (h : x + 10 < 256) :
    x ≤ columnAfter font x c ∧ columnAfter font x c ≤ x + 10 := by
  have hReach : ∀ n ≤ 9, x ≤ reach x n ∧ reach x n ≤ x + 9 := by
    intro n hn
    rw [reach]
    split <;> omega
  rw [columnAfter]
  split
  next glyph _ =>
    have hLarge := hReach (width16 glyph) (columns16_length glyph 0)
    have hSmall := hReach (columns8 glyph).length ((columns8_length glyph).trans (by decide))
    split_ifs <;> omega
  next => split_ifs <;> omega

theorem glyphStarts_ge (font : Byte) {bytes : List Byte} {x : Nat} (h : x + 10 * bytes.length < 256) :
    ∀ start ∈ glyphStarts font bytes x, x ≤ start := by
  induction bytes generalizing x with
  | nil => exact fun _ hNone => absurd hNone List.not_mem_nil
  | cons c rest ih =>
    rw [List.length_cons] at h
    obtain ⟨hLow, hHigh⟩ := columnAfter_bounds font c (x := x) (by omega)
    rw [glyphStarts, List.forall_mem_append]
    refine ⟨?_, fun start hStart => hLow.trans (ih (by omega) start hStart)⟩
    cases glyphOf font c with
    | none => exact fun _ hNone => absurd hNone List.not_mem_nil
    | some glyph => exact List.forall_mem_singleton.mpr (Nat.le_refl x)

/-- A text on the right half that ends before its column count overflows divides by nothing but 64. -/
theorem right_label_safe (k : Nat) (l : Labels) (hRight : 64 ≤ (l k).x.toNat)
    (hShort : (l k).x.toNat + 10 * (drawnBytes k l).length < 256) : ∀ r ∈ writestringRemainders k l, r.Safe :=
  (textRemainders_safe_iff (l k) (drawnBytes k l) (l k).x).mpr fun start hStart =>
    hRight.trans (glyphStarts_ge (l k).font hShort start hStart)

/-- Every remainder that a label takes is sent to its controller, and all of them are safe exactly when every
character with a glyph starts at column 64 or beyond. -/
theorem writestring_remainders_safe_iff (k : Nat) (l : Labels) :
    ((writestringRemainders k l).map Remainder.call).Sublist (lcdWritestring k l).1 ∧
      ((∀ r ∈ writestringRemainders k l, r.Safe) ↔
        ∀ start ∈ glyphStarts (l k).font (drawnBytes k l) (l k).x.toNat, 64 ≤ start) :=
  ⟨writestringRemainders_calls k l, textRemainders_safe_iff (l k) (drawnBytes k l) (l k).x⟩

/-- A label on the left half divides by zero at its first character. -/
theorem writestring_divides_by_zero :
    ¬ ∀ (k : Nat) (l : Labels), ∀ r ∈ writestringRemainders k l, r.Safe := by
  intro h
  have hStarts := (textRemainders_safe_iff (lapToGo 2) (drawnBytes 2 lapToGo) 0).mp (h 2 lapToGo) 0
  revert hStarts
  decide +kernel

end WheelDisplay.Lcd
