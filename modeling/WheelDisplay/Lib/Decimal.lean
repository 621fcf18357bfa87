import WheelDisplay.Lib.CString

/-! # Decimal numbers read back from a text

`readNumber` takes the longest row of digits at the front of a text, `readPadded`
a row of a given width. Each returns the value and what follows the digits.
-/

namespace CString

def IsDigit (b : Char8) : Prop := 48 ≤ b.toNat ∧ b.toNat ≤ 57

instance (b : Char8) : Decidable (IsDigit b) := inferInstanceAs (Decidable (_ ∧ _))

def digitsValue (row : List Char8) : Nat := row.foldl (fun acc b => 10 * acc + (b.toNat - 48)) 0

def readNumber (s : List Char8) : Option (Nat × List Char8) :=
  let row := s.takeWhile fun b => decide (IsDigit b)
  if row = [] then none else some (digitsValue row, s.drop row.length)

def readPadded (width : Nat) (s : List Char8) : Option (Nat × List Char8) :=
  let row := s.take width
  if row.length = width ∧ ∀ b ∈ row, IsDigit b then some (digitsValue row, s.drop width) else none

def expect (c : Char8) : List Char8 → Option (List Char8)
  | [] => none
  | b :: rest => if b = c then some rest else none

/-- The digits of `n` with zeros in front of them, `width` characters in all when there is room. -/
def zeroPadded (width n : Nat) : List Char8 := List.replicate (width - (digits n).length) 0x30 ++ digits n

theorem expect_cons (c : Char8) (rest : List Char8) : expect c (c :: rest) = some rest := if_pos rfl

theorem expect_other {c b : Char8} (h : b ≠ c) (rest : List Char8) : expect c (b :: rest) = none := if_neg h

theorem digits_ne_nil (n : Nat) : digits n ≠ [] := by
  intro h
  rw [digits, List.map_eq_nil_iff] at h
  exact absurd (congrArg List.length h) (Nat.ne_of_gt Nat.length_toDigits_pos)

theorem digits_isDigit {n : Nat} {b : Char8} (h : b ∈ digits n) : IsDigit b := digits_mem h

theorem digitsValue_digits (n : Nat) : digitsValue (digits n) = n := by
  have hDigit : ∀ c ∈ Nat.toDigits 10 n, ∀ acc : Nat,
      10 * acc + ((BitVec.ofNat 8 c.toNat).toNat - 48) = 10 * acc + (c.toNat - '0'.toNat) := by
    intro c hMem acc
    have hIs := Nat.isDigit_of_mem_toDigits (by decide) (by decide) hMem
    rw [Char.isDigit, Bool.and_eq_true, decide_eq_true_eq, decide_eq_true_eq] at hIs
    have hHigh : c.toNat ≤ 57 := hIs.2
    rw [BitVec.toNat_ofNat, Nat.mod_eq_of_lt (by omega)]
    rfl
  calc
    digitsValue (digits n) = Nat.ofDigitChars 10 (Nat.toDigits 10 n) 0 := by
      rw [digitsValue, digits, List.foldl_map, Nat.ofDigitChars_eq_foldl]
      exact List.foldl_ext _ _ 0 fun acc c hMem => hDigit c hMem acc
    _ = n := Nat.ofDigitChars_ten_toDigits

theorem digitsValue_zeros (k : Nat) (row : List Char8) :
    digitsValue (List.replicate k 0x30 ++ row) = digitsValue row := by
  induction k with
  | zero => rfl
  | succ k ih =>
    rw [List.replicate_succ, List.cons_append, ← ih]
    rfl

theorem readNumber_digits (n : Nat) {rest : List Char8} (h : ∀ b ∈ rest.head?, ¬ IsDigit b) :
    readNumber (digits n ++ rest) = some (n, rest) := by
  have hRow : (digits n ++ rest).takeWhile (fun b => decide (IsDigit b)) = digits n := by
    have hRest : rest.takeWhile (fun b => decide (IsDigit b)) = [] := by
      cases rest with
      | nil => rfl
      | cons b rest =>
        apply List.takeWhile_cons_of_neg
        rw [decide_eq_true_eq]
        exact h b rfl
    rw [List.takeWhile_append_of_pos fun b hMem => decide_eq_true (digits_isDigit hMem), hRest, List.append_nil]
  rw [readNumber]
  simp only [hRow, digits_ne_nil, if_false, digitsValue_digits, List.drop_left]

theorem zeroPadded_length {width n : Nat} (h : (digits n).length ≤ width) : (zeroPadded width n).length = width := by
  rw [zeroPadded, List.length_append, List.length_replicate, Nat.sub_add_cancel h]

theorem zeroPadded_mem {width n : Nat} {b : Char8} (h : b ∈ zeroPadded width n) : IsDigit b := by
  rw [zeroPadded, List.mem_append] at h
  obtain hZero | hDigit := h
  · rw [List.eq_of_mem_replicate hZero]
    decide
  · exact digits_isDigit hDigit

theorem readPadded_zeroPadded {width n : Nat} (h : (digits n).length ≤ width) (rest : List Char8) :
    readPadded width (zeroPadded width n ++ rest) = some (n, rest) := by
  have hLength := zeroPadded_length h
  have hTake : (zeroPadded width n ++ rest).take width = zeroPadded width n := List.take_left' hLength
  have hDrop : (zeroPadded width n ++ rest).drop width = rest := List.drop_left' hLength
  have hValue : digitsValue (zeroPadded width n) = n := by
    rw [zeroPadded, digitsValue_zeros, digitsValue_digits]
  rw [readPadded]
  simp only [hTake, hDrop, hValue]
  exact if_pos ⟨hLength, fun _ => zeroPadded_mem⟩

end CString
