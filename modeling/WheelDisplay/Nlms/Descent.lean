import Mathlib.Algebra.BigOperators.Fin
import WheelDisplay.Nlms.Power

/-! # nlms.c against the normalised LMS step

The reference filter subtracts the filtered noise and corrects every coefficient
along the error, with the tap that it weighted. `1 << SCALE` is negative in a
16-bit `int`, so the step size of the code is negative in every call, and the
correction uses the voice taps.
-/

namespace WheelDisplay.Nlms

open FixedPoint

-- newest first, silence before the first call
def recent (history : List Sample) (i : Fin taps) : Sample := history.reverse.getD i 0

/-- One normalised-LMS descent step, the call on `voice` and `noise` after `calls`. -/
structure DescentStep (calls : List (Sample × Sample)) (voice noise : Sample) : Prop where
  voiceTaps : ∀ i, (nlms (after calls) voice noise).1.x i = recent (calls.map Prod.fst ++ [voice]) i
  noiseTaps : ∀ i, (nlms (after calls) voice noise).1.n i = recent (calls.map Prod.snd ++ [noise]) i
  error : (nlms (after calls) voice noise).2.toInt = voice.toInt -
    roundShift 15 (∑ i, ((after calls).w i).toInt * ((nlms (after calls) voice noise).1.n i).toInt)
  stepPositive : 0 < (stepSize (after calls) voice).toInt
  errorScaled : (scaledError (after calls) voice noise).toInt =
    roundShift 15 ((nlms (after calls) voice noise).2.toInt * (stepSize (after calls) voice).toInt)
  alongError : (scaledError (after calls) voice noise).toInt = 0 ∨
    (scaledError (after calls) voice noise).toInt.sign = (nlms (after calls) voice noise).2.toInt.sign
  update : ∀ i, ((nlms (after calls) voice noise).1.w i).toInt =
    ((after calls).w i).toInt - (after calls).leak.toInt +
      roundShift 15 ((scaledError (after calls) voice noise).toInt *
        ((nlms (after calls) voice noise).1.n i).toInt)

structure NoOverflow (s : Filter) (voice noise : Sample) : Prop where
  partialSums : ∀ k ≤ taps, |((List.finRange taps).take k).foldl
    (fun acc i => acc + (s.w i).toInt * (shiftIn s.n noise i).toInt) 0| < 2147467264
  filtered : |roundShift 15 (∑ i, (s.w i).toInt * (shiftIn s.n noise i).toInt)| ≤ 32767
  error : |voice.toInt - roundShift 15 (∑ i, (s.w i).toInt * (shiftIn s.n noise i).toInt)| ≤ 32767
  errorScaled : |roundShift 15 ((errorSample s voice noise).toInt * (stepSize s voice).toInt)| ≤ 32767
  leaked : ∀ i, |(s.w i).toInt - s.leak.toInt| ≤ 32767
  update : ∀ i, |(s.w i).toInt - s.leak.toInt +
    roundShift 15 ((scaledError s voice noise).toInt * (shiftIn s.x voice i).toInt)| < 32767

theorem shiftIn_recent (history : List Sample) (sample : Sample) :
    shiftIn (recent history) sample = recent (history ++ [sample]) := by
  funext i
  rw [shiftIn, recent, recent, List.reverse_append]
  split
  · rename_i hNewest
    rw [hNewest]
    rfl
  · rename_i hOlder
    have hPos : i.val ≠ 0 := fun h => hOlder (Fin.ext h)
    have hVal : i.val = (i - 1).val + 1 := by
      rw [Fin.val_sub_one_of_ne_zero hOlder]
      omega
    rw [hVal]
    rfl

theorem after_append (calls : List (Sample × Sample)) (samples : Sample × Sample) :
    after (calls ++ [samples]) = call (after calls) samples :=
  StepRun.run_append call initial calls [samples]

theorem after_taps (calls : List (Sample × Sample)) :
    (after calls).x = recent (calls.map Prod.fst) ∧ (after calls).n = recent (calls.map Prod.snd) := by
  induction calls using List.reverseRecOn with
  | nil => exact ⟨rfl, rfl⟩
  | append_singleton calls samples ih =>
    rw [after_append, List.map_append, List.map_append]
    constructor
    · change shiftIn (after calls).x samples.1 = _
      rw [ih.1, shiftIn_recent]
      rfl
    · change shiftIn (after calls).n samples.2 = _
      rw [ih.2, shiftIn_recent]
      rfl

theorem stepSize_neg {s : Filter} (h : PowerInv s) (voice : Sample) : (stepSize s voice).toInt < 0 := by
  obtain ⟨hLow, hHigh⟩ := normaliser_range h voice
  obtain ⟨-, hNegative⟩ := alpha_tdiv hLow hHigh
  rw [stepSize_toInt h]
  omega

/-- No call of any run is a descent step: the step size is never positive. -/
theorem nlms_never_descends (calls : List (Sample × Sample)) (voice noise : Sample) :
    ¬ DescentStep calls voice noise := fun h =>
  (stepSize_neg (after_powerInv calls) voice).not_gt h.stepPositive

theorem nlms_ascends_from_silence : NoOverflow (after []) 16384 0 ∧ ¬ DescentStep [] 16384 0 := by
  refine ⟨⟨?_, ?_, ?_, ?_, ?_, ?_⟩, fun h => ?_⟩
  · decide
  · decide
  · decide
  · decide
  · decide
  · decide
  · exact absurd h.stepPositive (by decide)

end WheelDisplay.Nlms
