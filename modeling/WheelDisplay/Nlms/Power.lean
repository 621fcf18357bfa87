import WheelDisplay.Nlms.Filter

/-! # The power term and the normaliser of nlms.c

The safety constant `C` never reaches `c`. What keeps the divisor positive is
the fixpoint 49 of the rounded decay, which no run of calls gets below.
-/

namespace WheelDisplay.Nlms

open FixedPoint

structure PowerInv (s : Filter) : Prop where
  low : 49 ≤ s.p.toInt
  high : s.p.toInt ≤ 1024
  noSafety : s.c = 0

theorem initial_powerInv : PowerInv initial where
  low := by decide
  high := by decide
  noSafety := rfl

theorem decayedPower_eq {p : Sample} (hLow : 49 ≤ p.toInt) (hHigh : p.toInt ≤ 1024) :
    (decayedPower p).toInt = roundShift 15 (p.toInt * 32439) ∧
      49 ≤ (decayedPower p).toInt ∧ (decayedPower p).toInt ≤ p.toInt := by
  have hDecay : 49 ≤ roundShift 15 (p.toInt * 32439) ∧ roundShift 15 (p.toInt * 32439) ≤ p.toInt :=
    roundShift_decay_mem (by decide) (by decide) (by decide) (by decide) (by decide) hLow
  have hScaled : scaled (int32 (p.toInt * beta)) = roundShift 15 (p.toInt * 32439) := by
    rw [beta_eq, int32_eq (by omega) (by omega), scaled_eq (by omega) (by omega)]
  have hEq : (decayedPower p).toInt = roundShift 15 (p.toInt * 32439) := by
    rw [decayedPower, hScaled, int16_toInt (by omega) (by omega)]
  exact ⟨hEq, by omega, by omega⟩

theorem call_powerInv (s : Filter) (samples : Sample × Sample) (h : PowerInv s) :
    PowerInv (call s samples) where
  low := (decayedPower_eq h.low h.high).2.1
  high := (decayedPower_eq h.low h.high).2.2.trans h.high
  noSafety := h.noSafety

theorem after_powerInv (calls : List (Sample × Sample)) : PowerInv (after calls) :=
  StepRun.run_invariant PowerInv call_powerInv initial_powerInv calls

theorem square_range (voice : Sample) :
    0 ≤ voice.toInt * voice.toInt ∧ voice.toInt * voice.toInt ≤ 1073741824 := by
  obtain ⟨hLow, hHigh⟩ := sample_range voice
  constructor <;> nlinarith

theorem voicePower_eq (voice : Sample) :
    voicePower voice = roundShift 15 (roundShift 15 (voice.toInt * voice.toInt) * 328) := by
  obtain ⟨hSquareLow, hSquareHigh⟩ := square_range voice
  have hFirst : scaled (int32 (voice.toInt * voice.toInt)) =
      roundShift 15 (voice.toInt * voice.toInt) := by
    rw [int32_eq (by omega) (by omega), scaled_eq (by omega) (by omega)]
  have hLow := roundShift_nonneg 15 hSquareLow
  have hHigh : roundShift 15 (voice.toInt * voice.toInt) ≤ 32768 :=
    (roundShift_mono 15 hSquareHigh).trans (by decide)
  rw [voicePower, hFirst, oneMinusBeta_eq, int32_eq (by omega) (by omega), scaled_eq (by omega) (by omega)]

theorem voicePower_range (voice : Sample) : 0 ≤ voicePower voice ∧ voicePower voice ≤ 328 := by
  obtain ⟨hSquareLow, hSquareHigh⟩ := square_range voice
  have hLow := roundShift_nonneg 15 hSquareLow
  have hHigh : roundShift 15 (voice.toInt * voice.toInt) ≤ 32768 :=
    (roundShift_mono 15 hSquareHigh).trans (by decide)
  rw [voicePower_eq]
  refine ⟨roundShift_nonneg 15 (by omega), ?_⟩
  calc
    roundShift 15 (roundShift 15 (voice.toInt * voice.toInt) * 328) ≤ roundShift 15 (32768 * 328) :=
      roundShift_mono 15 (by omega)
    _ ≤ 328 := by decide

theorem normaliser_eq {s : Filter} (h : PowerInv s) (voice : Sample) :
    normaliser s voice = (voicePower voice + (decayedPower s.p).toInt) / 2 := by
  obtain ⟨-, hLow, hHigh⟩ := decayedPower_eq h.low h.high
  obtain ⟨hVoiceLow, hVoiceHigh⟩ := voicePower_range voice
  have hPower := h.high
  have hZero : s.c.toInt = 0 := by rw [h.noSafety]; rfl
  rw [normaliser, hZero, int16_toInt (by omega) (by omega), int32_eq (by omega) (by omega), Int.add_zero]

theorem normaliser_range {s : Filter} (h : PowerInv s) (voice : Sample) :
    24 ≤ normaliser s voice ∧ normaliser s voice ≤ 676 := by
  obtain ⟨-, hLow, hHigh⟩ := decayedPower_eq h.low h.high
  obtain ⟨hVoiceLow, hVoiceHigh⟩ := voicePower_range voice
  have hPower := h.high
  rw [normaliser_eq h]
  omega

theorem alpha_tdiv {d : Int} (hLow : 24 ≤ d) (hHigh : d ≤ 676) :
    -1365 ≤ alpha.tdiv d ∧ alpha.tdiv d ≤ -48 := by
  -- C division truncates towards zero, so the negative dividend gives a negative step
  have hNeg : alpha.tdiv d = -(32768 / d) := by
    rw [alpha_eq, Int.neg_tdiv, Int.tdiv_eq_ediv_of_nonneg (by decide)]
  have hUpper : 32768 / d ≤ 1365 := by
    have h : 32768 / d < 1366 := Int.ediv_lt_of_lt_mul (by omega) (by omega)
    omega
  have hLower : 48 ≤ 32768 / d := Int.le_ediv_of_mul_le (by omega) (by omega)
  omega

theorem stepSize_toInt {s : Filter} (h : PowerInv s) (voice : Sample) :
    (stepSize s voice).toInt = alpha.tdiv (normaliser s voice) := by
  obtain ⟨hLow, hHigh⟩ := normaliser_range h voice
  obtain ⟨hQuotLow, hQuotHigh⟩ := alpha_tdiv hLow hHigh
  exact int16_toInt (by omega) (by omega)

/-- In every run the power stays between the fixpoint of its decay and its start,
the divisor is positive and the quotient fits the variable it is stored in. -/
theorem nlms_power_bounded (calls : List (Sample × Sample)) (voice : Sample) :
    49 ≤ (after calls).p.toInt ∧ (after calls).p.toInt ≤ 1024 ∧
      24 ≤ normaliser (after calls) voice ∧
      |alpha.tdiv (normaliser (after calls) voice)| ≤ 1365 ∧
      (stepSize (after calls) voice).toInt = alpha.tdiv (normaliser (after calls) voice) := by
  have h := after_powerInv calls
  obtain ⟨hLow, hHigh⟩ := normaliser_range h voice
  obtain ⟨hQuotLow, hQuotHigh⟩ := alpha_tdiv hLow hHigh
  exact ⟨h.low, h.high, hLow, abs_le.mpr ⟨hQuotLow, by omega⟩, stepSize_toInt h voice⟩

end WheelDisplay.Nlms
