import WheelDisplay.Lcd.Writechar

/-! # The characters that `LCD_writestring` draws

The loop reads as many bytes as `len` says. A byte that the font has no glyph for
makes no call to a controller.
-/

namespace WheelDisplay.Lcd

open CString Ks0108 Labels Raster

/-- The glyph of the small font for a character. -/
def glyphSmall (c : Byte) : Option Byte :=
  if 0x60 < c ∧ c < 0x7B then some (c - 0x61)
  else if 0x2F < c ∧ c < 0x3A then some (c - 0x16)
  else if c = 0x2E then some 36
  else if c = 0x3A then some 37
  else if c = 0x2D then some 38
  else none

def glyphLarge (c : Byte) : Option Byte :=
  if 0x2F < c ∧ c < 0x3A then some (c - 0x30) else if c = 0x2D then some 0x0A else none

def glyphOf (font c : Byte) : Option Byte :=
  if font = fontLarge then glyphLarge c else if font = fontSmall then glyphSmall c else none

def writeGlyph (font x y glyph : Byte) : Byte × List Call :=
  if font = fontLarge then lcdWritechar16 x y glyph else lcdWritechar8 x y glyph

theorem writeCharacter_small (y : Byte) (number : Word) (x c : Byte) :
    writeCharacter fontSmall y number x c =
      match glyphSmall c with
      | some glyph => lcdWritechar8 x y glyph
      | none => if c = 0x20 then (x + 1, []) else (x, []) := by
  have hSpace : c = 0x20 → glyphSmall c = none := by
    rintro rfl
    decide
  have hCharacter : writeCharacter fontSmall y number x c =
      if 0x60 < c ∧ c < 0x7B then lcdWritechar8 x y (c - 0x61)
      else if 0x2F < c ∧ c < 0x3A then lcdWritechar8 x y (c - 0x16)
      else if c = 0x20 then (x + 1, [])
      else if c = 0x2E then lcdWritechar8 x y 36
      else if c = 0x3A then lcdWritechar8 x y 37
      else if c = 0x2D then lcdWritechar8 x y 38
      else (x, []) := rfl
  rw [hCharacter]
  obtain rfl | hOther := eq_or_ne c 0x20
  · rw [hSpace rfl]
    rfl
  · rw [if_neg hOther, glyphSmall]
    simp only [hOther, if_false]
    split_ifs <;> rfl

theorem writeCharacter_large (y : Byte) (number : Word) (x c : Byte) :
    writeCharacter fontLarge y number x c =
      match glyphLarge c with
      | some glyph => lcdWritechar16 x y glyph
      | none => (x, []) := by
  have hCharacter : writeCharacter fontLarge y number x c =
      if 0x2F < c ∧ c < 0x3A then lcdWritechar16 x y (c - 0x30)
      else if c = 0x2D then lcdWritechar16 x y 0x0A
      else (x, []) := rfl
  rw [hCharacter, glyphLarge]
  split_ifs <;> rfl

/-- A character of the small or the large font is a glyph, a space or nothing. -/
theorem writeCharacter_eq {font : Byte} (hFont : font = fontSmall ∨ font = fontLarge) (y : Byte) (number : Word)
    (x c : Byte) :
    writeCharacter font y number x c =
      match glyphOf font c with
      | some glyph => writeGlyph font x y glyph
      | none => if font = fontSmall ∧ c = 0x20 then (x + 1, []) else (x, []) := by
  obtain rfl | rfl := hFont
  · have hGlyph : glyphOf fontSmall c = glyphSmall c := rfl
    rw [writeCharacter_small, hGlyph]
    cases glyphSmall c with
    | some glyph => rfl
    | none => simp only [true_and]
  · have hGlyph : glyphOf fontLarge c = glyphLarge c := rfl
    have hOther : ¬ (fontLarge = fontSmall ∧ c = 0x20) := fun h => absurd h.1 (by decide)
    rw [writeCharacter_large, hGlyph]
    cases glyphLarge c with
    | some glyph => rfl
    | none => exact (if_neg hOther).symm

def drawCharacter (t : LCDtext) (drawn : Byte × List Call) (c : Byte) : Byte × List Call :=
  ((writeCharacter t.font t.y t.number drawn.1 c).1, drawn.2 ++ (writeCharacter t.font t.y t.number drawn.1 c).2)

/-- The loop of `LCD_writestring` over the bytes of a text. -/
def drawBytes (t : LCDtext) (bytes : List Byte) : Byte × List Call := bytes.foldl (drawCharacter t) (t.x, [])

def textBytes (k : Nat) (l : Labels) : List Byte :=
  (List.range (l k).len.toNat).map fun i => l.byteAt (textAddress k i)

theorem drawText_eq (k : Nat) (l : Labels) : drawText k l = drawBytes (l k) (textBytes k l) := by
  rw [drawBytes, textBytes, List.foldl_map]
  rfl

theorem drawCharacter_foldl (t : LCDtext) (bytes : List Byte) (drawn : Byte × List Call) :
    bytes.foldl (drawCharacter t) drawn =
      ((bytes.foldl (drawCharacter t) (drawn.1, [])).1,
        drawn.2 ++ (bytes.foldl (drawCharacter t) (drawn.1, [])).2) := by
  induction bytes generalizing drawn with
  | nil => simp
  | cons c rest ih =>
    rw [List.foldl_cons, List.foldl_cons, ih, ih (drawCharacter t (drawn.1, []) c)]
    simp only [drawCharacter, List.nil_append, List.append_assoc]

/-- The text that `LCD_writestring` has drawn, with a number written into the label first. -/
def drawnBytes (k : Nat) (l : Labels) : List Byte :=
  textBytes k (if (l k).len < 1 then formatNumber k l else l)

theorem formatNumber_eq (k : Nat) (l : Labels) :
    formatNumber k l = l.set k { overwrite (l k) 0 (itoa (l k).number.toInt ++ [0]) with
      len := numberLength (l k).number } := by
  have hFits : 0 + (itoa (l k).number.toInt ++ [0]).length ≤ 9 := by
    rw [Nat.zero_add, List.length_append, List.length_singleton]
    exact itoa_toInt_length _
  rw [formatNumber, store_text l k hFits, modify_set]
  rfl

theorem lcdWritestring_calls (k : Nat) (l : Labels) :
    (lcdWritestring k l).1 =
      (drawBytes (l k) (drawnBytes k l)).2 ++ cleanUp (l k) (drawBytes (l k) (drawnBytes k l)).1 := by
  by_cases hNum : (l k).len < 1
  · simp only [lcdWritestring, drawnBytes, hNum, if_true, drawText_eq]
    rw [formatNumber_eq, modify_set, set_same, set_same]
    rfl
  · simp only [lcdWritestring, drawnBytes, hNum, if_false, drawText_eq]

end WheelDisplay.Lcd
