import Mathlib.Data.List.Basic

/-! # Strings in character buffers

A buffer is the list of its bytes. It holds a string when one of them is NUL,
and the string is what stands before the first NUL.
-/

namespace CString

abbrev Char8 := BitVec 8

/-- The string in a buffer, `none` when it is not terminated inside the buffer. -/
def content : List Char8 → Option (List Char8)
  | [] => none
  | b :: rest => if b = 0 then some [] else (content rest).map (b :: ·)

theorem content_of_notMem {buffer : List Char8} (h : 0 ∉ buffer) : content buffer = none := by
  induction buffer with
  | nil => rfl
  | cons b rest ih =>
    rw [List.mem_cons, not_or] at h
    rw [content, if_neg (Ne.symm h.1), ih h.2, Option.map_none]

theorem content_append {s : List Char8} (h : 0 ∉ s) (rest : List Char8) :
    content (s ++ 0 :: rest) = some s := by
  induction s with
  | nil => rfl
  | cons b s ih =>
    rw [List.mem_cons, not_or] at h
    rw [List.cons_append, content, if_neg (Ne.symm h.1), ih h.2, Option.map_some]

theorem content_eq_some {buffer s : List Char8} (h : content buffer = some s) :
    0 ∉ s ∧ ∃ rest, buffer = s ++ 0 :: rest := by
  induction buffer generalizing s with
  | nil => cases h
  | cons b buffer ih =>
    rw [content] at h
    split at h
    next hNul =>
      cases h
      exact ⟨List.not_mem_nil, buffer, by rw [hNul, List.nil_append]⟩
    next hOther =>
      obtain ⟨s, hContent, rfl⟩ := Option.map_eq_some_iff.mp h
      obtain ⟨hFree, rest, rfl⟩ := ih hContent
      refine ⟨?_, rest, rfl⟩
      rw [List.mem_cons, not_or]
      exact ⟨Ne.symm hOther, hFree⟩

/-- `do { *to = *from; } while(*to++ != '\0')`: what is copied from memory that reads NUL past its end. -/
def throughNul : List Char8 → List Char8
  | [] => [0]
  | b :: rest => if b = 0 then [0] else b :: throughNul rest

/-- The first `n` bytes of the buffer after `strncpy(buffer, s, n)`. -/
def strncpy (n : Nat) (s : List Char8) : List Char8 := s.take n ++ List.replicate (n - s.length) 0

theorem strncpy_length (n : Nat) (s : List Char8) : (strncpy n s).length = n := by
  rw [strncpy, List.length_append, List.length_take, List.length_replicate]
  omega

theorem strncpy_of_lt {n : Nat} {s : List Char8} (h : s.length < n) :
    strncpy n s = s ++ 0 :: List.replicate (n - s.length - 1) 0 := by
  rw [strncpy, List.take_of_length_le (Nat.le_of_lt h), ← List.replicate_succ]
  congr 2
  omega

theorem strncpy_of_ge {n : Nat} {s : List Char8} (h : n ≤ s.length) : strncpy n s = s.take n := by
  rw [strncpy, Nat.sub_eq_zero_of_le h, List.replicate_zero, List.append_nil]

theorem content_strncpy {n : Nat} {s : List Char8} (h : 0 ∉ s) :
    content (strncpy n s) = if s.length < n then some s else none := by
  split
  next hShort =>
    rw [strncpy_of_lt hShort]
    exact content_append h _
  next hLong =>
    rw [strncpy_of_ge (Nat.le_of_not_lt hLong)]
    exact content_of_notMem fun hMem => h (List.mem_of_mem_take hMem)

def joined (strings : List (List Char8)) : List Char8 := strings.flatMap (· ++ [0])

theorem joined_cons (s : List Char8) (rest : List (List Char8)) (tail : List Char8) :
    joined (s :: rest) ++ tail = s ++ 0 :: (joined rest ++ tail) := by
  simp [joined]

def Separable (strings : List (List Char8)) : Prop := ∀ s ∈ strings, s ≠ [] ∧ 0 ∉ s

theorem Separable.eq_nil {strings : List (List Char8)} (h : Separable strings) {n m : Nat}
    (hBlank : joined strings ++ List.replicate n 0 = List.replicate m 0) : strings = [] := by
  cases strings with
  | nil => rfl
  | cons s rest =>
    obtain ⟨⟨hNonempty, hFree⟩, -⟩ := List.forall_mem_cons.mp h
    obtain ⟨b, tail, rfl⟩ := List.exists_cons_of_ne_nil hNonempty
    have hZero : b = 0 := by
      apply List.eq_of_mem_replicate (n := m)
      rw [← hBlank, joined_cons]
      exact List.mem_cons_self
    exact absurd (hZero ▸ List.mem_cons_self) hFree

/-- Strings that are not empty can be told apart in a buffer that is NUL after them. -/
theorem joined_injective {first second : List (List Char8)} (hFirst : Separable first) (hSecond : Separable second)
    {n m : Nat} (h : joined first ++ List.replicate n 0 = joined second ++ List.replicate m 0) : first = second := by
  induction first generalizing second with
  | nil => exact (hSecond.eq_nil h.symm).symm
  | cons s rest ih =>
    cases second with
    | nil => exact hFirst.eq_nil h
    | cons s' rest' =>
      obtain ⟨⟨-, hFree⟩, hRest⟩ := List.forall_mem_cons.mp hFirst
      obtain ⟨⟨-, hFree'⟩, hRest'⟩ := List.forall_mem_cons.mp hSecond
      rw [joined_cons, joined_cons] at h
      have hContent := congrArg content h
      rw [content_append hFree, content_append hFree'] at hContent
      obtain rfl := Option.some.inj hContent
      rw [ih hRest hRest' (List.cons.inj (List.append_cancel_left h)).2]

def digits (n : Nat) : List Char8 := (Nat.toDigits 10 n).map fun c => BitVec.ofNat 8 c.toNat

/-- `itoa(value, string, 10)`, without the NUL. -/
def itoa (value : Int) : List Char8 :=
  if value < 0 then 0x2D :: digits value.natAbs else digits value.natAbs

theorem itoa_natCast (n : Nat) : itoa n = digits n := if_neg (Int.not_lt.mpr (Int.natCast_nonneg n))

theorem digits_mem {n : Nat} {b : Char8} (h : b ∈ digits n) : 48 ≤ b.toNat ∧ b.toNat ≤ 57 := by
  rw [digits, List.mem_map] at h
  obtain ⟨c, hMem, rfl⟩ := h
  have hDigit := Nat.isDigit_of_mem_toDigits (by decide) (by decide) hMem
  rw [Char.isDigit, Bool.and_eq_true, decide_eq_true_eq, decide_eq_true_eq] at hDigit
  have hLow : 48 ≤ c.toNat := hDigit.1
  have hHigh : c.toNat ≤ 57 := hDigit.2
  rw [BitVec.toNat_ofNat, Nat.mod_eq_of_lt (by omega)]
  exact ⟨hLow, hHigh⟩

theorem zero_notMem_digits (n : Nat) : 0 ∉ digits n := fun h => absurd (digits_mem h).1 (by decide)

theorem zero_notMem_itoa (value : Int) : 0 ∉ itoa value := by
  rw [itoa]
  split
  · rw [List.mem_cons, not_or]
    exact ⟨by decide, zero_notMem_digits _⟩
  · exact zero_notMem_digits _

theorem itoa_length {n : Nat} (h : n < 100) : (itoa n).length = if n < 10 then 1 else 2 := by
  have hPos : 0 < (Nat.toDigits 10 n).length := Nat.length_toDigits_pos
  have hOne := @Nat.length_toDigits_le_iff 10 n 1 (by decide) (by decide)
  have hTwo := (@Nat.length_toDigits_le_iff 10 n 2 (by decide) (by decide)).mpr h
  rw [itoa_natCast, digits, List.length_map]
  split
  · omega
  · omega

end CString
