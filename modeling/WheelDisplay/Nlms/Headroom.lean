import Mathlib.Algebra.Order.BigOperators.Group.List
import WheelDisplay.Nlms.Exact

/-! # The headroom of the filter

The samples of the converter have twelve bits. Seven products with coefficients of any
value stay within the accumulator then, and the difference within 16 bits.
-/

namespace WheelDisplay.Nlms

open FixedPoint

/-- A difference of two readings of the converter. -/
def Small (v : Sample) : Prop := -4095 ≤ v.toInt ∧ v.toInt ≤ 4095

def SmallSamples (samples : Sample × Sample) : Prop := Small samples.1 ∧ Small samples.2

theorem product_small (w : Sample) {n : Sample} (h : Small n) :
    -134184960 ≤ w.toInt * n.toInt ∧ w.toInt * n.toInt ≤ 134184960 := by
  obtain ⟨hLow, hHigh⟩ := sample_range w
  obtain ⟨hLow', hHigh'⟩ := h
  constructor <;> nlinarith

theorem products_length (w n : Fin taps → Sample) : (products w n).length = 7 := by
  rw [products, List.length_map, List.length_finRange]

theorem prefix_sum_small {w n : Fin taps → Sample} (h : ∀ i, Small (n i)) {pre : List Int} (hPre : pre <+: products w n) :
    -939294720 ≤ pre.sum ∧ pre.sum ≤ 939294720 := by
  have hEach : ∀ v ∈ pre, -134184960 ≤ v ∧ v ≤ 134184960 := by
    intro v hv
    obtain ⟨i, -, rfl⟩ := List.mem_map.mp (hPre.subset hv)
    exact product_small (w i) (h i)
  have hLength : pre.length ≤ 7 := hPre.length_le.trans (products_length w n).le
  have hHigh := List.sum_le_card_nsmul pre 134184960 fun v hv => (hEach v hv).2
  have hLow := List.card_nsmul_le_sum pre (-134184960) fun v hv => (hEach v hv).1
  rw [nsmul_eq_mul] at hHigh hLow
  omega

theorem shiftIn_small {line : Fin taps → Sample} {sample : Sample} (h : ∀ i, Small (line i)) (hNew : Small sample)
    (i : Fin taps) : Small (shiftIn line sample i) := by
  rw [shiftIn]
  split
  · exact hNew
  · exact h _

theorem filterFits_of_small {s : Filter} {samples : Sample × Sample} (hLine : ∀ i, Small (s.n i))
    (h : SmallSamples samples) : FilterFits s samples := by
  have hSum := fun pre (hPre : pre <+: products s.w (shiftIn s.n samples.2)) =>
    prefix_sum_small (shiftIn_small hLine h.2) hPre
  obtain ⟨hLow, hHigh⟩ := hSum _ (List.prefix_refl _)
  obtain ⟨hVoiceLow, hVoiceHigh⟩ := h.1
  have hScaled : -28665 ≤ roundShift 15 (products s.w (shiftIn s.n samples.2)).sum ∧
      roundShift 15 (products s.w (shiftIn s.n samples.2)).sum ≤ 28665 := by
    norm_num [roundShift]
    omega
  refine ⟨?_, ?_, ?_⟩
  · intro pre hPre
    obtain ⟨hPreLow, hPreHigh⟩ := hSum pre hPre
    norm_num [Fits]
    omega
  · norm_num [Fits]
    omega
  · norm_num [Fits, exactError]
    omega

/-- With samples of the converter, no call of a run overflows anywhere on the way to its output. -/
theorem run_exact_of_small {calls : List (Sample × Sample)} (h : ∀ samples ∈ calls, SmallSamples samples) :
    StepRun.Along call FilterExact initial calls := by
  have hSmall : StepRun.Along call (fun _ samples => SmallSamples samples) initial calls :=
    (StepRun.along_event_iff call SmallSamples initial calls).mpr h
  have hZero : Small 0 := ⟨by decide, by decide⟩
  have hStart : ∀ i, Small (initial.n i) := fun _ => hZero
  refine StepRun.along_imp_of_invariant (fun s : Filter => ∀ i, Small (s.n i)) ?_ ?_ hStart hSmall
  · intro s samples hLine hSamples
    exact shiftIn_small hLine hSamples.2
  · intro s samples hLine hSamples
    exact (filterExact_iff s samples).mpr (filterFits_of_small hLine hSamples)

end WheelDisplay.Nlms
