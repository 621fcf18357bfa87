import WheelDisplay.Nlms.Coefficient

/-! # The arithmetic of the filter output

The accumulator has 32 bits, and the scaled sum and the difference are stored in 16.
-/

namespace WheelDisplay.Nlms

open FixedPoint

def products (w n : Fin taps → Sample) : List Int :=
  (List.finRange taps).map fun i => (w i).toInt * (n i).toInt

/-- The output of a call over the integers. -/
def exactError (s : Filter) (samples : Sample × Sample) : Int :=
  samples.1.toInt - roundShift 15 (products s.w (shiftIn s.n samples.2)).sum

/-- The accumulator is exact after every product and after `ROUND`, the scaled sum fits, and the
error is the exact one or its nearest bound. -/
structure FilterExact (s : Filter) (samples : Sample × Sample) : Prop where
  accumulator : ∀ pre, pre <+: products s.w (shiftIn s.n samples.2) → accumulate 32 pre = pre.sum
  rounded : int32 ((products s.w (shiftIn s.n samples.2)).sum + round) =
    (products s.w (shiftIn s.n samples.2)).sum + round
  filtered : (int16 (scaled (filterSum s.w (shiftIn s.n samples.2)))).toInt =
    roundShift 15 (products s.w (shiftIn s.n samples.2)).sum
  error : (nlms s samples.1 samples.2).2.toInt = saturate 16 (exactError s samples)

structure FilterFits (s : Filter) (samples : Sample × Sample) : Prop where
  accumulator : ∀ pre, pre <+: products s.w (shiftIn s.n samples.2) → Fits 32 pre.sum
  filtered : Fits 16 (roundShift 15 (products s.w (shiftIn s.n samples.2)).sum)
  error : Fits 16 (exactError s samples)

theorem filterSum_eq (w n : Fin taps → Sample) : filterSum w n = accumulate 32 (products w n) := by
  have hTaps : List.finRange taps = [0, 1, 2, 3, 4, 5, 6] := by decide
  have hProduct : ∀ i, int32 ((w i).toInt * (n i).toInt) = (w i).toInt * (n i).toInt := by
    intro i
    obtain ⟨hLow, hHigh⟩ := product_range (w i) (n i)
    exact int32_eq (by omega) (by omega)
  have hFirst : signed 32 (0 + (w 0).toInt * (n 0).toInt) = (w 0).toInt * (n 0).toInt := by
    rw [Int.zero_add]
    exact hProduct 0
  rw [products, hTaps, accumulate, List.map_cons, List.foldl_cons, hFirst, List.foldl_map, filterSum]
  simp only [hProduct]
  rfl

theorem nlms_error (s : Filter) (samples : Sample × Sample) : (nlms s samples.1 samples.2).2.toInt =
    signed 16 (samples.1.toInt - (int16 (scaled (filterSum s.w (shiftIn s.n samples.2)))).toInt) := rfl

theorem sum_range {sum : Int} (h : Fits 16 (roundShift 15 sum)) : -1073758208 ≤ sum ∧ sum ≤ 1073725439 := by
  obtain ⟨hLow, hHigh⟩ := h
  norm_num [roundShift] at hLow hHigh
  omega

theorem filterSum_scaled {w n : Fin taps → Sample} (hExact : ∀ pre, pre <+: products w n → accumulate 32 pre = pre.sum)
    (hFits : Fits 16 (roundShift 15 (products w n).sum)) :
    scaled (filterSum w n) = roundShift 15 (products w n).sum := by
  obtain ⟨hLow, hHigh⟩ := sum_range hFits
  rw [filterSum_eq, hExact _ (List.prefix_refl _), scaled_eq (by omega) (by omega)]

/-- A difference of two 16-bit values is far from a second turn of the range. -/
theorem error_saturated_iff {s : Filter} {samples : Sample × Sample}
    (h : Fits 16 (roundShift 15 (products s.w (shiftIn s.n samples.2)).sum)) :
    signed 16 (exactError s samples) = saturate 16 (exactError s samples) ↔ Fits 16 (exactError s samples) := by
  obtain ⟨hVoiceLow, hVoiceHigh⟩ := sample_range samples.1
  obtain ⟨hLow, hHigh⟩ := h
  norm_num at hLow hHigh
  apply signed_eq_saturate_iff (by decide)
  · norm_num [exactError]
    omega
  · norm_num [exactError]
    omega

theorem filterExact_iff (s : Filter) (samples : Sample × Sample) : FilterExact s samples ↔ FilterFits s samples := by
  have hPos : 0 < 16 := by decide
  constructor
  · rintro ⟨hAccumulator, -, hFiltered, hExact⟩
    have hFits : Fits 16 (roundShift 15 (products s.w (shiftIn s.n samples.2)).sum) := by
      rw [← hFiltered]
      exact signed_fits 16 _
    refine ⟨(accumulate_exact_iff (by decide) _).mp hAccumulator, hFits, ?_⟩
    rw [nlms_error, hFiltered] at hExact
    exact (error_saturated_iff hFits).mp hExact
  · rintro ⟨hAccumulator, hFits, hFitsError⟩
    have hExact := (accumulate_exact_iff (by decide) _).mpr hAccumulator
    have hScaled := filterSum_scaled hExact hFits
    have hFiltered : (int16 (scaled (filterSum s.w (shiftIn s.n samples.2)))).toInt =
        roundShift 15 (products s.w (shiftIn s.n samples.2)).sum := by
      rw [hScaled]
      exact (signed_eq_iff hPos).mpr hFits
    obtain ⟨hLow, hHigh⟩ := sum_range hFits
    refine ⟨hExact, ?_, hFiltered, ?_⟩
    · rw [round_eq]
      exact int32_eq (by omega) (by omega)
    · rw [nlms_error, hFiltered]
      exact (error_saturated_iff hFits).mpr hFitsError

/-- The output of a run is exact in every call exactly when every sum, scaled sum and difference of it fits. -/
theorem run_filter_exact_iff (calls : List (Sample × Sample)) :
    StepRun.Along call FilterExact initial calls ↔ StepRun.Along call FilterFits initial calls :=
  StepRun.along_congr_of_invariant (fun _ => True) (fun _ _ _ _ => trivial) (fun s samples _ => filterExact_iff s samples)
    trivial calls

end WheelDisplay.Nlms
