import WheelDisplay.Lib.Accumulate
import WheelDisplay.Nlms.Power

/-! # The clamp of the filter coefficients

The upper bound is tested on the updated coefficient, the lower one on the
coefficient before the update, and `w[i] - leak` is an `int` of 16 bits.
-/

namespace WheelDisplay.Nlms

open FixedPoint

/-- The update of a coefficient over the integers, before it is clamped. -/
def exactUpdate (w leak ue x : Sample) : Int := w.toInt - leak.toInt + roundShift 15 (ue.toInt * x.toInt)

/-- A coefficient at the lower bound stays there or moves to the upper one. Above it, the leaked
coefficient may leave its range only upwards, where the correction must bring it back. -/
def UpdateFits (w leak ue x : Sample) : Prop :=
  if w.toInt = -32768 then
    if leak.toInt ≤ 0 then exactUpdate w leak ue x ≤ -32768 ∨ 32767 ≤ exactUpdate w leak ue x
    else exactUpdate w leak ue x ≤ -32770
  else
    -32768 ≤ w.toInt - leak.toInt ∧ -32768 ≤ exactUpdate w leak ue x ∧
      (w.toInt - leak.toInt ≤ 32767 ∨ exactUpdate w leak ue x ≤ 32767 ∨ exactUpdate w leak ue x = 98303)

theorem product_range (a b : Sample) :
    -1073709056 ≤ a.toInt * b.toInt ∧ a.toInt * b.toInt ≤ 1073741824 := by
  obtain ⟨hLow, hHigh⟩ := sample_range a
  obtain ⟨hLow', hHigh'⟩ := sample_range b
  constructor <;> nlinarith

theorem correction_eq (ue x : Sample) :
    scaled (int32 (ue.toInt * x.toInt)) = roundShift 15 (ue.toInt * x.toInt) ∧
      -32767 ≤ roundShift 15 (ue.toInt * x.toInt) ∧ roundShift 15 (ue.toInt * x.toInt) ≤ 32768 := by
  obtain ⟨hLow, hHigh⟩ := product_range ue x
  refine ⟨?_, ?_, ?_⟩
  · rw [int32_eq (by omega) (by omega), scaled_eq (by omega) (by omega)]
  · exact le_trans (by decide) (roundShift_mono 15 hLow)
  · exact (roundShift_mono 15 hHigh).trans (by decide)

theorem int16_high {v : Int} (hLow : 32768 ≤ v) (hHigh : v < 98304) : (int16 v).toInt = v - 65536 :=
  signed_of_high (by decide) hLow hHigh

theorem int16_low {v : Int} (hLow : -98304 ≤ v) (hHigh : v < -32768) : (int16 v).toInt = v + 65536 :=
  signed_of_low (by decide) hLow hHigh

theorem updateCoeff_toInt (w leak ue x : Sample) :
    (updateCoeff w leak ue x).toInt =
      if 32767 ≤ (int16 (w.toInt - leak.toInt)).toInt + roundShift 15 (ue.toInt * x.toInt) then 32767
      else if w.toInt ≤ -32768 then -32768
      else (int16 ((int16 (w.toInt - leak.toInt)).toInt + roundShift 15 (ue.toInt * x.toInt))).toInt := by
  obtain ⟨hCorrection, hLow, hHigh⟩ := correction_eq ue x
  obtain ⟨hLeakedLow, hLeakedHigh⟩ := sample_range (int16 (w.toInt - leak.toInt))
  rw [updateCoeff, hCorrection, int32_eq (by omega) (by omega)]
  split
  · rfl
  · split
    · exact int16_toInt (by decide) (by decide)
    · rfl

theorem int16_below {v : Int} (hLow : -98304 ≤ v) (hHigh : v < 32767) :
    (int16 v).toInt = if -32768 ≤ v then v else v + 65536 := by
  split
  · exact int16_toInt (by omega) (by omega)
  · exact int16_low hLow (by omega)

theorem updateCoeff_exact_iff (w leak ue x : Sample) :
    (updateCoeff w leak ue x).toInt = saturate 16 (exactUpdate w leak ue x) ↔ UpdateFits w leak ue x := by
  obtain ⟨-, hLow, hHigh⟩ := correction_eq ue x
  obtain ⟨hCoeffLow, hCoeffHigh⟩ := sample_range w
  obtain ⟨hLeakLow, hLeakHigh⟩ := sample_range leak
  obtain ⟨hStoredLow, hStoredHigh⟩ := sample_range (int16 (w.toInt - leak.toInt))
  have hSaturate : ∀ v, saturate 16 v = max (-32768) (min v 32767) := fun _ => rfl
  rw [updateCoeff_toInt, hSaturate, UpdateFits, exactUpdate]
  -- where the 16-bit difference lands
  have hLeaked : (int16 (w.toInt - leak.toInt)).toInt =
      if w.toInt - leak.toInt < -32768 then w.toInt - leak.toInt + 65536
      else if w.toInt - leak.toInt ≤ 32767 then w.toInt - leak.toInt
      else w.toInt - leak.toInt - 65536 := by
    split_ifs
    · exact int16_low (by omega) (by omega)
    · exact int16_toInt (by omega) (by omega)
    · exact int16_high (by omega) (by omega)
  generalize roundShift 15 (ue.toInt * x.toInt) = r at *
  by_cases hTop : 32767 ≤ (int16 (w.toInt - leak.toInt)).toInt + r
  · rw [if_pos hTop]
    rw [hLeaked] at hTop
    split_ifs at hTop ⊢ <;> omega
  · rw [if_neg hTop, int16_below (by omega) (by omega)]
    rw [hLeaked] at hTop ⊢
    split_ifs at hTop ⊢ <;> omega

/-- Every coefficient after the call is its exact update, clamped. -/
def CoeffsExact (s : Filter) (samples : Sample × Sample) : Prop :=
  ∀ i, ((call s samples).w i).toInt = saturate 16
    (exactUpdate (s.w i) s.leak (scaledError s samples.1 samples.2) (shiftIn s.x samples.1 i))

def CoeffsFit (s : Filter) (samples : Sample × Sample) : Prop :=
  ∀ i, UpdateFits (s.w i) s.leak (scaledError s samples.1 samples.2) (shiftIn s.x samples.1 i)

theorem coeffsExact_iff (s : Filter) (samples : Sample × Sample) : CoeffsExact s samples ↔ CoeffsFit s samples :=
  forall_congr' fun _ => updateCoeff_exact_iff ..

/-- The coefficients of a run are exact in every call exactly when every update of it fits. -/
theorem run_coeffs_exact_iff (calls : List (Sample × Sample)) :
    StepRun.Along call CoeffsExact initial calls ↔ StepRun.Along call CoeffsFit initial calls :=
  StepRun.along_congr_of_invariant (fun _ => True) (fun _ _ _ _ => trivial) (fun s samples _ => coeffsExact_iff s samples)
    trivial calls

end WheelDisplay.Nlms
