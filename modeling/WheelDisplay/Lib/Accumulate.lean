import Mathlib.Data.List.Induction
import WheelDisplay.Lib.FixedPoint

/-! # Wrap-around, saturation and accumulators

A cell of `w` bits wraps a value that does not fit it, where saturating arithmetic
would keep its nearest bound. An accumulator that wraps is exact on the sums of all
prefixes of its input exactly when each of them fits.
-/

namespace FixedPoint

def Fits (w : Nat) (v : Int) : Prop := -2 ^ (w - 1) ≤ v ∧ v < 2 ^ (w - 1)

instance (w : Nat) (v : Int) : Decidable (Fits w v) := inferInstanceAs (Decidable (_ ∧ _))

def saturate (w : Nat) (v : Int) : Int := max (-2 ^ (w - 1)) (min v (2 ^ (w - 1) - 1))

theorem two_pow_eq {w : Nat} (hw : 0 < w) : (2 : Int) ^ w = 2 * 2 ^ (w - 1) := by
  rw [← pow_succ', Nat.sub_add_cancel hw]

theorem signed_add_pow (w : Nat) (v : Int) : signed w (v + 2 ^ w) = signed w v := by
  rw [signed, signed, BitVec.toInt_ofInt, BitVec.toInt_ofInt]
  exact_mod_cast Int.add_bmod_right v (2 ^ w)

theorem signed_fits (w : Nat) (v : Int) : Fits w (signed w v) :=
  ⟨BitVec.le_toInt _, BitVec.toInt_lt⟩

theorem signed_eq_iff {w : Nat} (hw : 0 < w) {v : Int} : signed w v = v ↔ Fits w v := by
  constructor
  · intro h
    rw [← h]
    exact signed_fits w v
  · intro h
    exact signed_eq_self hw h.1 h.2

theorem signed_of_high {w : Nat} (hw : 0 < w) {v : Int} (hLow : 2 ^ (w - 1) ≤ v) (hHigh : v < 3 * 2 ^ (w - 1)) :
    signed w v = v - 2 ^ w := by
  have hPow := two_pow_eq hw
  rw [← Int.sub_add_cancel v (2 ^ w), signed_add_pow, signed_eq_self hw (by omega) (by omega)]
  omega

theorem signed_of_low {w : Nat} (hw : 0 < w) {v : Int} (hLow : -(3 * 2 ^ (w - 1)) ≤ v) (hHigh : v < -2 ^ (w - 1)) :
    signed w v = v + 2 ^ w := by
  have hPow := two_pow_eq hw
  rw [← signed_add_pow, signed_eq_self hw (by omega) (by omega)]

theorem saturate_eq {w : Nat} {v : Int} (h : Fits w v) : saturate w v = v := by
  obtain ⟨hLow, hHigh⟩ := h
  rw [saturate, min_eq_left (by omega), max_eq_right hLow]

/-- Within one turn of the range, wrapping agrees with saturating only where nothing overflows. -/
theorem signed_eq_saturate_iff {w : Nat} (hw : 0 < w) {v : Int} (hLow : -2 ^ w ≤ v) (hHigh : v < 2 ^ w) :
    signed w v = saturate w v ↔ Fits w v := by
  have hPow := two_pow_eq hw
  have hPos : (0 : Int) < 2 ^ (w - 1) := by positivity
  constructor
  · intro h
    refine ⟨?_, ?_⟩
    · by_contra hOver
      rw [signed_of_low hw (by omega) (by omega), saturate] at h
      omega
    · by_contra hOver
      rw [signed_of_high hw (by omega) (by omega), saturate] at h
      omega
  · intro h
    rw [saturate_eq h, (signed_eq_iff hw).mpr h]

/-- What an accumulator of `w` bits holds after the values are added to it. -/
def accumulate (w : Nat) (values : List Int) : Int := values.foldl (fun acc v => signed w (acc + v)) 0

theorem accumulate_append (w : Nat) (values : List Int) (v : Int) :
    accumulate w (values ++ [v]) = signed w (accumulate w values + v) := by
  rw [accumulate, List.foldl_append, ← accumulate]
  rfl

theorem signed_signed_add (w : Nat) (u v : Int) : signed w (signed w u + v) = signed w (u + v) := by
  rw [signed, signed, signed, BitVec.toInt_ofInt, BitVec.toInt_ofInt, BitVec.toInt_ofInt, Int.bmod_add_bmod]

/-- Wrapping at every step or once at the end is the same. -/
theorem accumulate_eq_signed (w : Nat) (values : List Int) : accumulate w values = signed w values.sum := by
  induction values using List.reverseRecOn with
  | nil => exact BitVec.toInt_zero.symm
  | append_singleton values v ih =>
    rw [accumulate_append, ih, signed_signed_add, List.sum_append, List.sum_singleton]

theorem accumulate_fits (w : Nat) (values : List Int) : Fits w (accumulate w values) := by
  induction values using List.reverseRecOn with
  | nil =>
    have hPos : (0 : Int) < 2 ^ (w - 1) := by positivity
    exact ⟨by change -2 ^ (w - 1) ≤ 0; omega, hPos⟩
  | append_singleton values v _ =>
    rw [accumulate_append]
    exact signed_fits w _

theorem accumulate_exact {w : Nat} (hw : 0 < w) {values : List Int}
    (h : ∀ pre, pre <+: values → Fits w pre.sum) : accumulate w values = values.sum := by
  induction values using List.reverseRecOn with
  | nil => rfl
  | append_singleton values v ih =>
    have hBefore := ih fun pre hPre => h pre (hPre.trans (List.prefix_append values [v]))
    have hAll := h (values ++ [v]) (List.prefix_refl _)
    rw [List.sum_append, List.sum_singleton] at hAll ⊢
    rw [accumulate_append, hBefore, (signed_eq_iff hw).mpr hAll]

theorem accumulate_exact_iff {w : Nat} (hw : 0 < w) (values : List Int) :
    (∀ pre, pre <+: values → accumulate w pre = pre.sum) ↔ ∀ pre, pre <+: values → Fits w pre.sum := by
  constructor
  · intro h pre hPre
    rw [← h pre hPre]
    exact accumulate_fits w pre
  · intro h pre hPre
    exact accumulate_exact hw fun pre' hPre' => h pre' (hPre'.trans hPre)

end FixedPoint
