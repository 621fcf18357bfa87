import Mathlib.Algebra.Order.Ring.Int
import Mathlib.Tactic.Linarith

/-! # Fixed-point rounding and machine width

`roundShift k v` is the rounding right shift `(v + 2 ^ (k - 1)) >> k` of signed
fixed-point code, over unbounded integers. `signed w v` is what a `w`-bit two's
complement cell holds after `v` is stored in it.
-/

namespace FixedPoint

def signed (w : Nat) (v : Int) : Int := (BitVec.ofInt w v).toInt

theorem signed_eq_self {w : Nat} (hw : 0 < w) {v : Int} (hLow : -2 ^ (w - 1) ≤ v)
    (hHigh : v < 2 ^ (w - 1)) : signed w v = v :=
  BitVec.toInt_ofInt_eq_self hw hLow hHigh

def roundShift (k : Nat) (v : Int) : Int := (v + 2 ^ (k - 1)) / 2 ^ k

theorem roundShift_mono (k : Nat) {a b : Int} (h : a ≤ b) : roundShift k a ≤ roundShift k b :=
  Int.ediv_le_ediv (by positivity) (by linarith)

theorem roundShift_nonneg (k : Nat) {v : Int} (h : 0 ≤ v) : 0 ≤ roundShift k v :=
  Int.ediv_nonneg (by positivity) (by positivity)

theorem roundShift_mul_pow {k : Nat} (hk : 0 < k) (v : Int) : roundShift k (v * 2 ^ k) = v := by
  have hPow : (2 : Int) ^ k ≠ 0 := by positivity
  have hHalf : (2 : Int) ^ (k - 1) / 2 ^ k = 0 :=
    Int.ediv_eq_zero_of_lt (by positivity) (pow_lt_pow_right₀ (by norm_num) (by omega))
  rw [roundShift, Int.add_comm, Int.add_mul_ediv_right _ _ hPow, hHalf, Int.zero_add]

/-- A rounded decay by `b / 2 ^ k` keeps a level between one of its fixpoints and
the level it started from: the rounding stops the decay, and never raises it. -/
theorem roundShift_decay_mem {k : Nat} (hk : 0 < k) {b floor level : Int} (hb : 0 ≤ b)
    (hDecay : b ≤ 2 ^ k) (hFix : floor ≤ roundShift k (floor * b)) (hFloor : 0 ≤ floor)
    (hLevel : floor ≤ level) :
    floor ≤ roundShift k (level * b) ∧ roundShift k (level * b) ≤ level := by
  constructor
  · exact hFix.trans (roundShift_mono k (Int.mul_le_mul_of_nonneg_right hLevel hb))
  · calc
      roundShift k (level * b) ≤ roundShift k (level * 2 ^ k) :=
        roundShift_mono k (Int.mul_le_mul_of_nonneg_left hDecay (hFloor.trans hLevel))
      _ = level := roundShift_mul_pow hk level

end FixedPoint
