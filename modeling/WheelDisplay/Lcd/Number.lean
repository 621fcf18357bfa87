import WheelDisplay.Lcd.Writestring

/-! # The numbers that `LCD_writestring` draws

The tests for the length compare an unsigned number with negative bounds, which are
then near 65535, so every number is taken to have five characters.
-/

namespace WheelDisplay.Lcd

open CString Ks0108 Labels

theorem numberLength_eq (number : Word) : numberLength number = 5 := by
  have hShort : ∀ bound : Word, bound ≤ 10000 → 0 < bound → ¬ (number < bound ∧ number > -bound) := by
    intro bound hBound hPos
    bv_omega
  rw [numberLength, if_neg (hShort 10 (by decide) (by decide)), if_neg (hShort 100 (by decide) (by decide)),
    if_neg (hShort 1000 (by decide) (by decide)), if_neg (hShort 10000 (by decide) (by decide))]

theorem drawColumns_calls (page : Byte) (columns : List Byte) {p : Pen} (h : p.calls ≠ []) :
    (drawColumns page columns p).calls ≠ [] := by
  intro hNone
  have hExtends := drawColumns_extends page columns p
  rw [hNone] at hExtends
  exact h (List.sublist_nil.mp hExtends)

theorem writeGlyph_calls (font x y glyph : Byte) : (writeGlyph font x y glyph).2 ≠ [] := by
  have hStart : ∀ page calls, (startPen x page calls).calls ≠ [] := fun page calls =>
    List.append_ne_nil_of_right_ne_nil _ (List.cons_ne_nil _ _)
  rw [writeGlyph]
  split
  · have hLower : (lowerPen x y glyph).calls ≠ [] := drawColumns_calls _ _ (hStart _ _)
    rw [lcdWritechar16_eq]
    dsimp only
    split
    · rw [List.append_assoc]
      exact List.append_ne_nil_of_left_ne_nil hLower _
    · exact hLower
  · rw [lcdWritechar8_eq]
    exact List.append_ne_nil_of_right_ne_nil _ (List.cons_ne_nil _ _)

section Drawn

variable {t : LCDtext} (hFont : t.font = fontSmall ∨ t.font = fontLarge)

include hFont

theorem writeCharacter_calls (x c : Byte) :
    (writeCharacter t.font t.y t.number x c).2 = [] ↔ glyphOf t.font c = none := by
  rw [writeCharacter_eq hFont]
  cases glyphOf t.font c with
  | some glyph => simp [writeGlyph_calls]
  | none =>
    dsimp only
    split <;> simp

theorem drawn_nil_iff (bytes : List Byte) (x : Byte) :
    (bytes.foldl (drawCharacter t) (x, [])).2 = [] ↔ ∀ c ∈ bytes, glyphOf t.font c = none := by
  induction bytes generalizing x with
  | nil => simp
  | cons c rest ih =>
    rw [List.foldl_cons, drawCharacter_foldl, List.append_eq_nil_iff, ih, List.forall_mem_cons,
      ← writeCharacter_calls hFont x c]
    rfl

/-- Drawing more characters makes no other calls exactly when the font has no glyph for them. -/
theorem drawBytes_append_iff (first second : List Byte) :
    (drawBytes t (first ++ second)).2 = (drawBytes t first).2 ↔ ∀ c ∈ second, glyphOf t.font c = none := by
  rw [drawBytes, List.foldl_append, drawCharacter_foldl, ← drawBytes, List.append_right_eq_self]
  exact drawn_nil_iff hFont second _

end Drawn

theorem digits_length_le_iff (n : Nat) {k : Nat} (hk : 0 < k) : (digits n).length ≤ k ↔ n < 10 ^ k := by
  rw [digits, List.length_map]
  exact Nat.length_toDigits_le_iff (by decide) hk

theorem itoa_length_le_iff (number : Word) : (itoa number.toInt).length ≤ 5 ↔ -10000 < number.toInt := by
  have hLow := BitVec.le_toInt number
  have hHigh := BitVec.toInt_lt (x := number)
  have hFour := digits_length_le_iff number.toInt.natAbs (k := 4) (by decide)
  have hFive := digits_length_le_iff number.toInt.natAbs (k := 5) (by decide)
  rw [itoa]
  split
  · rw [List.length_cons]
    omega
  · omega

/-- What the first five bytes of a text hold after a string is written over it. -/
theorem drawnBytes_number {k : Nat} {l : Labels} (hNum : (l k).len = 0) :
    drawnBytes k l =
      (itoa (l k).number.toInt ++ 0 :: (List.ofFn (l k).text).drop ((itoa (l k).number.toInt).length + 1)).take 5 := by
  have hStored : (itoa (l k).number.toInt ++ [0]).length ≤ 9 := by
    rw [List.length_append, List.length_singleton]
    exact itoa_toInt_length _
  have hLen : (l k).len < 1 := by
    rw [hNum]
    decide
  have hText : textBytes k (formatNumber k l) =
      (List.ofFn (overlay (l k).text 0 (itoa (l k).number.toInt ++ [0]))).take 5 := by
    rw [textBytes, formatNumber_eq, set_same, numberLength_eq]
    apply List.ext_getElem
    · simp
    · intro i hi _
      have hi' : i < 9 := by
        rw [List.length_map, List.length_range] at hi
        exact Nat.lt_trans (show i < 5 from hi) (by decide)
      rw [List.getElem_map, List.getElem_range, List.getElem_take, List.getElem_ofFn, byteAt_text _ k hi', set_same]
      rfl
  rw [drawnBytes, if_pos hLen, hText, ofFn_overlay _ hStored, List.length_append, List.length_singleton,
    List.append_assoc, List.singleton_append]

/-- The calls for a number label are those for the decimal representation of its number, and the clean-up. -/
def DrawsNumber (k : Nat) (l : Labels) : Prop :=
  (lcdWritestring k l).1 =
    (drawBytes (l k) (itoa (l k).number.toInt)).2 ++ cleanUp (l k) (drawBytes (l k) (drawnBytes k l)).1

theorem lcdWritestring_len {k : Nat} {l : Labels} (hNum : (l k).len = 0) : ((lcdWritestring k l).2 k).len = 0 := by
  obtain ⟨width, hLabels⟩ := lcdWritestring_labels k l
  rw [hLabels, set_same, written, if_pos hNum]
  exact hNum

theorem glyphOf_digit {font : Byte} (hFont : font = fontSmall ∨ font = fontLarge) {c : Byte}
    (hc : 48 ≤ c.toNat ∧ c.toNat ≤ 57) : glyphOf font c ≠ none := by
  have hDigit : 0x2F < c ∧ c < 0x3A := by bv_omega
  have hLetter : ¬ (0x60 < c ∧ c < 0x7B) := by bv_omega
  obtain rfl | rfl := hFont
  · have hGlyph : glyphOf fontSmall c = glyphSmall c := rfl
    rw [hGlyph, glyphSmall, if_neg hLetter, if_pos hDigit]
    exact Option.some_ne_none _
  · have hGlyph : glyphOf fontLarge c = glyphLarge c := rfl
    rw [hGlyph, glyphLarge, if_pos hDigit]
    exact Option.some_ne_none _

theorem glyphOf_nul (font : Byte) : glyphOf font 0 = none := by
  rw [glyphOf]
  split_ifs <;> rfl

theorem itoa_drop_mem {value : Int} {c : Byte} (h : c ∈ (itoa value).drop 5) : 48 ≤ c.toNat ∧ c.toNat ≤ 57 := by
  rw [itoa] at h
  split at h
  · rw [List.drop_succ_cons] at h
    exact digits_mem (List.mem_of_mem_drop h)
  · exact digits_mem (List.mem_of_mem_drop h)

/-- The bytes of the text that the loop reads after a string of `n` characters. -/
theorem stale_forall_iff {P : Byte → Prop} (hNul : P 0) (n : Nat) (text : Fin 9 → Byte) :
    (∀ c ∈ (0 :: (List.ofFn text).drop (n + 1)).take (5 - n), P c) ↔
      ∀ i : Fin 9, n < i.val → i.val < 5 → P (text i) := by
  constructor
  · intro h i hAfter hRead
    apply h
    have hIndex : i.val - n = i.val - n - 1 + 1 := by omega
    apply List.mem_of_getElem? (i := i.val - n)
    rw [List.getElem?_take_of_lt (by omega), hIndex, List.getElem?_cons_succ, List.getElem?_drop,
      List.getElem?_ofFn, dif_pos (by omega)]
    congr 2
    apply Fin.ext
    dsimp only
    omega
  · intro h c hc
    obtain ⟨j, hj⟩ := List.mem_iff_getElem?.mp hc
    rw [List.getElem?_take] at hj
    split at hj
    next hRead =>
      cases j with
      | zero =>
        rw [List.getElem?_cons_zero] at hj
        cases hj
        exact hNul
      | succ j =>
        rw [List.getElem?_cons_succ, List.getElem?_drop, List.getElem?_ofFn] at hj
        split at hj
        next hInside =>
          cases hj
          exact h ⟨n + 1 + j, hInside⟩ (by dsimp only; omega) (by dsimp only; omega)
        next => cases hj
    next => cases hj

/-- A number label shows its number exactly when the number has at most five characters and
no byte that an earlier number left behind them, up to the fifth, has a glyph. -/
theorem lcdWritestring_number_iff (k : Nat) (l : Labels) (hFont : (l k).font = fontSmall ∨ (l k).font = fontLarge)
    (hNum : (l k).len = 0) :
    DrawsNumber k l ∧ ((lcdWritestring k l).2 k).len = 0 ↔
      -10000 < (l k).number.toInt ∧
        ∀ i : Fin 9, (itoa (l k).number.toInt).length < i.val → i.val < 5 →
          glyphOf (l k).font ((l k).text i) = none := by
  rw [and_iff_left (lcdWritestring_len hNum), DrawsNumber, lcdWritestring_calls, List.append_cancel_right_eq,
    drawnBytes_number hNum, ← itoa_length_le_iff]
  generalize hText : itoa (l k).number.toInt = s
  by_cases hLength : s.length ≤ 5
  · rw [List.take_append, List.take_of_length_le hLength, drawBytes_append_iff hFont,
      stale_forall_iff (glyphOf_nul _)]
    exact (and_iff_right hLength).symm
  · rw [List.take_append_of_le_length (Nat.le_of_not_le hLength)]
    constructor
    · intro h
      have hDropped := (drawBytes_append_iff hFont (s.take 5) (s.drop 5)).mp
      rw [List.take_append_drop] at hDropped
      have hSome : s.drop 5 ≠ [] := by
        rw [ne_eq, List.drop_eq_nil_iff]
        exact hLength
      obtain ⟨c, hc⟩ := List.exists_mem_of_ne_nil _ hSome
      exact absurd (hDropped h.symm c hc) (glyphOf_digit hFont (itoa_drop_mem (hText ▸ hc)))
    · intro h
      exact absurd h.1 hLength

/-- Labels that showed 10000 and are to show 5. -/
def shorterNumber : Labels :=
  ⟨fun _ => ⟨0, 0, 0, 0, fontSmall, 5, fun i => if i.val = 0 then 0x31 else if i.val < 5 then 0x30 else 0, 0⟩⟩

theorem lcdWritestring_number_iff_shorter :
    DrawsNumber 2 shorterNumber ∧ ((lcdWritestring 2 shorterNumber).2 2).len = 0 ↔
      -10000 < (shorterNumber 2).number.toInt ∧
        ∀ i : Fin 9, (itoa (shorterNumber 2).number.toInt).length < i.val → i.val < 5 →
          glyphOf (shorterNumber 2).font ((shorterNumber 2).text i) = none :=
  lcdWritestring_number_iff 2 shorterNumber (Or.inl rfl) rfl

theorem number_leftover :
    ¬ ∀ (k : Nat) (l : Labels), (l k).font = fontSmall ∨ (l k).font = fontLarge → (l k).len = 0 →
      DrawsNumber k l ∧ ((lcdWritestring k l).2 k).len = 0 := by
  intro h
  have hCalls := congrArg List.length (h 2 shorterNumber (Or.inl rfl) rfl).1
  revert hCalls
  decide +kernel

end WheelDisplay.Lcd
