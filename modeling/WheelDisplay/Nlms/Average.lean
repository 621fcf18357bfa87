import Mathlib.Algebra.Order.Ring.Abs
import WheelDisplay.Nlms.Descent

/-! # The power estimate of nlms.c against an exponential average

The power of the new sample is added to the normaliser of its own call. It is never
added to `p`, which keeps only the decay.
-/

namespace WheelDisplay.Nlms

open FixedPoint

def averageStep (p : Int) (voice : Sample) : Int :=
  roundShift scale (p * beta) + roundShift scale (roundShift scale (voice.toInt * voice.toInt) * oneMinusBeta)

/-- The fixed-point exponential average of the signal power. -/
def average (voices : List Sample) : Int := voices.foldl averageStep 1024

/-- `p` follows the average through the whole run. -/
def FollowsAverage (calls : List (Sample × Sample)) : Prop :=
  ∀ before rest, calls = before ++ rest → (after before).p.toInt = average (before.map Prod.fst)

theorem averageStep_eq (p : Int) (voice : Sample) :
    averageStep p voice = roundShift 15 (p * 32439) + voicePower voice := by
  rw [averageStep, voicePower_eq, beta_eq, oneMinusBeta_eq]
  rfl

theorem average_append (voices : List Sample) (voice : Sample) :
    average (voices ++ [voice]) = roundShift 15 (average voices * 32439) + voicePower voice := by
  rw [average, List.foldl_append, ← average, List.foldl_cons, List.foldl_nil, averageStep_eq]

theorem after_power (calls : List (Sample × Sample)) (samples : Sample × Sample) :
    (after (calls ++ [samples])).p.toInt = roundShift 15 ((after calls).p.toInt * 32439) := by
  have h := after_powerInv calls
  rw [after_append]
  exact (decayedPower_eq h.low h.high).1

theorem after_power_iterate (calls : List (Sample × Sample)) : (after calls).p = decayedPower^[calls.length] 1024 := by
  induction calls using List.reverseRecOn with
  | nil => rfl
  | append_singleton calls samples ih =>
    rw [after_append, List.length_append, List.length_singleton, Function.iterate_succ_apply', ← ih]
    rfl

/-- `p` is the same after any two runs of one length, however loud they were. -/
theorem after_power_length {calls calls' : List (Sample × Sample)} (h : calls.length = calls'.length) :
    (after calls).p = (after calls').p := by
  rw [after_power_iterate, after_power_iterate, h]

theorem after_power_le (calls : List (Sample × Sample)) : (after calls).p.toInt ≤ max 49 (1024 - calls.length) := by
  induction calls using List.reverseRecOn with
  | nil => decide
  | append_singleton calls samples ih =>
    have h := after_powerInv calls
    have hLow := h.low
    rw [after_power, List.length_append, List.length_singleton, roundShift]
    norm_num
    omega

/-- However loud a run is, its estimate is at the fixpoint of the decay after 975 calls. -/
theorem after_power_floor {calls : List (Sample × Sample)} (h : 975 ≤ calls.length) : (after calls).p = 49 := by
  have hLow := (after_powerInv calls).low
  have hHigh := after_power_le calls
  apply BitVec.eq_of_toInt_eq
  change (after calls).p.toInt = 49
  omega

theorem voicePower_eq_zero_iff (voice : Sample) : voicePower voice = 0 ↔ |voice.toInt| ≤ 1273 := by
  obtain ⟨hSquare, -⟩ := square_range voice
  have hNonneg := abs_nonneg voice.toInt
  have hQuiet : voicePower voice = 0 ↔ voice.toInt * voice.toInt ≤ 1622015 := by
    rw [voicePower_eq, roundShift, roundShift]
    norm_num
    omega
  rw [hQuiet, ← abs_mul_abs_self]
  constructor
  · intro h
    nlinarith
  · intro h
    nlinarith

theorem followsAverage_append (calls : List (Sample × Sample)) (samples : Sample × Sample) :
    FollowsAverage (calls ++ [samples]) ↔
      FollowsAverage calls ∧ (after (calls ++ [samples])).p.toInt = average ((calls ++ [samples]).map Prod.fst) := by
  constructor
  · intro h
    refine ⟨?_, h _ [] (List.append_nil _).symm⟩
    rintro before rest rfl
    exact h before (rest ++ [samples]) (List.append_assoc ..)
  · rintro ⟨hBefore, hLast⟩ before rest hSplit
    obtain rfl | ⟨rest, last, rfl⟩ := List.eq_nil_or_concat rest
    · rw [List.append_nil] at hSplit
      rw [← hSplit]
      exact hLast
    · rw [List.concat_eq_append, ← List.append_assoc] at hSplit
      exact hBefore before rest (List.append_inj' hSplit rfl).1

/-- `p` follows the average exactly in the runs whose every sample is too quiet to count. -/
theorem followsAverage_iff (calls : List (Sample × Sample)) :
    FollowsAverage calls ↔ ∀ samples ∈ calls, |samples.1.toInt| ≤ 1273 := by
  induction calls using List.reverseRecOn with
  | nil =>
    have hEmpty : FollowsAverage [] := by
      intro before rest hSplit
      rw [(List.nil_eq_append_iff.mp hSplit).1]
      rfl
    simp [hEmpty]
  | append_singleton calls samples ih =>
    rw [followsAverage_append, ih, List.forall_mem_append, List.forall_mem_singleton]
    refine and_congr_right fun hQuiet => ?_
    have hSame := ih.mpr hQuiet calls [] (List.append_nil _).symm
    rw [after_power, List.map_append, List.map_singleton, average_append, hSame, ← voicePower_eq_zero_iff]
    omega

theorem power_lost : ¬ ∀ calls, FollowsAverage calls := by
  intro h
  have hLoud := h [(16384, 0)] [(16384, 0)] [] rfl
  revert hLoud
  decide +kernel

end WheelDisplay.Nlms
