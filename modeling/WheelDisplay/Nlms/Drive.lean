import Mathlib.Tactic.FinCases
import WheelDisplay.Nlms.Average
import WheelDisplay.Nlms.Exact

/-! # A run that drives the coefficients apart

A pulse on a silent line moves the first coefficient down. The leak then takes the
coefficients back to sum 0, and not to where they were: every pulse leaves the
first one 144 lower and the others 24 higher.
-/

namespace WheelDisplay.Nlms

open FixedPoint

def silent : Sample × Sample := (0, 0)

/-- One sample of 28737 and as many silent ones as it stays on the line. -/
def pulse : List (Sample × Sample) := (28737, 0) :: List.replicate 6 silent

/-- No noise on the line, and the coefficients after the first are equal. -/
structure Driven (first others leak : Int) (s : Filter) : Prop where
  noise : ∀ i, s.n i = 0
  coeff : ∀ i : Fin taps, (s.w i).toInt = if i.val = 0 then first else others
  leak : s.leak.toInt = leak

theorem newLeak_toInt (w : Fin taps → Sample) : (newLeak w).toInt = (∑ i, (w i).toInt) / 8 := by
  have h0 := sample_range (w 0)
  have h1 := sample_range (w 1)
  have h2 := sample_range (w 2)
  have h3 := sample_range (w 3)
  have h4 := sample_range (w 4)
  have h5 := sample_range (w 5)
  have h6 := sample_range (w 6)
  have hShift : (2 : Int) ^ leakShift = 8 := rfl
  rw [newLeak, hShift, Fin.sum_univ_seven]
  simp only [List.foldl_cons, List.foldl_nil, Int.zero_add]
  simp (disch := omega) only [int32_eq]
  exact int16_toInt (by omega) (by omega)

theorem shiftIn_zero {line : Fin taps → Sample} (h : ∀ i, line i = 0) (i : Fin taps) : shiftIn line 0 i = 0 := by
  rw [shiftIn]
  split
  · rfl
  · exact h _

theorem roundShift_zero : roundShift 15 0 = 0 := by decide

theorem updateCoeff_leak {w leak ue x : Sample} {a l : Int} (hCoeff : w.toInt = a) (hLeak : leak.toInt = l)
    (hZero : ue.toInt * x.toInt = 0) (hRange : -32768 < a ∧ -32768 ≤ a - l ∧ a - l < 32767) :
    (updateCoeff w leak ue x).toInt = a - l := by
  have hLeaked : (int16 (a - l)).toInt = a - l := int16_toInt (by omega) (by omega)
  rw [updateCoeff_toInt, hZero, roundShift_zero, hCoeff, hLeak, hLeaked, Int.add_zero, if_neg (by omega),
    if_neg (by omega), hLeaked]

theorem quiet_error {s : Filter} (h : ∀ i, s.n i = 0) (voice : Sample) : errorSample s voice 0 = voice := by
  have hProducts : ∀ pre, pre <+: products s.w (shiftIn s.n 0) → pre.sum = 0 := by
    intro pre hPre
    apply List.sum_eq_zero
    intro v hv
    obtain ⟨i, _, rfl⟩ := List.mem_map.mp (hPre.subset hv)
    rw [shiftIn_zero h]
    exact Int.mul_zero _
  have hSum : filterSum s.w (shiftIn s.n 0) = 0 := by
    rw [filterSum_eq, accumulate_exact (by decide), hProducts _ (List.prefix_refl _)]
    intro pre hPre
    rw [hProducts pre hPre]
    decide
  have hFiltered : (int16 (scaled 0)).toInt = 0 := by decide
  rw [errorSample, hSum, hFiltered, Int.sub_zero]
  exact BitVec.ofInt_toInt

theorem coeff_sum {first others : Int} : (∑ i : Fin taps, if i.val = 0 then first else others) = first + 6 * others := by
  rw [Fin.sum_univ_seven]
  norm_num
  omega

theorem silent_error {s : Filter} (h : ∀ i, s.n i = 0) : scaledError s 0 0 = 0 := by
  have hZero : (0 : Sample).toInt = 0 := rfl
  rw [scaledError, quiet_error h, hZero, Int.zero_mul]
  decide

theorem driven_leak {first others : Int} {w : Fin taps → Sample}
    (h : ∀ i : Fin taps, (w i).toInt = if i.val = 0 then first else others) :
    (newLeak w).toInt = (first + 6 * others) / 8 := by
  rw [newLeak_toInt, ← coeff_sum]
  simp only [h]

/-- A silent call takes the leak from every coefficient. -/
theorem silent_driven {first others leak : Int} {s : Filter} (h : Driven first others leak s)
    (hFirst : -32768 < first ∧ -32768 ≤ first - leak ∧ first - leak < 32767)
    (hOthers : -32768 < others ∧ -32768 ≤ others - leak ∧ others - leak < 32767) :
    Driven (first - leak) (others - leak) ((first - leak + 6 * (others - leak)) / 8) (call s silent) := by
  have hCoeff : ∀ i : Fin taps, ((call s silent).w i).toInt = if i.val = 0 then first - leak else others - leak := by
    intro i
    have hAt := h.coeff i
    change (updateCoeff (s.w i) s.leak (scaledError s 0 0) (shiftIn s.x 0 i)).toInt = _
    rw [silent_error h.noise]
    split at hAt
    next hHead =>
      rw [if_pos hHead]
      exact updateCoeff_leak hAt h.leak (Int.zero_mul _) hFirst
    next hTail =>
      rw [if_neg hTail]
      exact updateCoeff_leak hAt h.leak (Int.zero_mul _) hOthers
  exact ⟨fun i => shiftIn_zero h.noise i, hCoeff, driven_leak hCoeff⟩

/-- The samples that the next call moves to the taps after the first are silent. -/
def Rested (s : Filter) : Prop := ∀ i : Fin taps, i.val < 6 → s.x i = 0

theorem shiftIn_rested {s : Filter} (h : Rested s) (sample : Sample) {i : Fin taps} (hi : i.val ≠ 0) :
    shiftIn s.x sample i = 0 := by
  have hTail : i ≠ 0 := fun hZero => hi (congrArg Fin.val hZero)
  rw [shiftIn, if_neg hTail]
  have hInside : i.val < 7 := i.isLt
  apply h
  rw [Fin.val_sub_one_of_ne_zero hTail]
  omega

theorem pulse_error {s : Filter} (h : ∀ i, s.n i = 0) (hPower : s.p = 49) (hSafety : s.c = 0) :
    scaledError s 28737 0 = -191 := by
  rw [scaledError, quiet_error h, stepSize, normaliser, hPower, hSafety]
  decide +kernel

theorem pulse_driven {first others : Int} {s : Filter} (h : Driven first others 0 s) (hRested : Rested s)
    (hPower : s.p = 49) (hSafety : s.c = 0) (hFirst : -32600 ≤ first ∧ first ≤ 0)
    (hOthers : 0 ≤ others ∧ others < 32767) :
    Driven (first - 168) others ((first - 168 + 6 * others) / 8) (call s (28737, 0)) := by
  have hCoeff : ∀ i : Fin taps, ((call s (28737, 0)).w i).toInt = if i.val = 0 then first - 168 else others := by
    intro i
    have hAt := h.coeff i
    change (updateCoeff (s.w i) s.leak (scaledError s 28737 0) (shiftIn s.x 28737 i)).toInt = _
    rw [pulse_error h.noise hPower hSafety]
    split at hAt
    next hHead =>
      have hFront : shiftIn s.x 28737 i = 28737 := if_pos (Fin.ext hHead)
      have hCorrection : roundShift 15 ((-191 : Sample).toInt * (28737 : Sample).toInt) = -168 := by decide
      have hLeaked : (int16 first).toInt = first := int16_toInt (by omega) (by omega)
      rw [hFront, updateCoeff_toInt, hCorrection, hAt, h.leak, Int.sub_zero, hLeaked, if_neg (by omega),
        if_neg (by omega), if_pos hHead, int16_toInt (by omega) (by omega)]
      omega
    next hTail =>
      rw [if_neg hTail, ← Int.sub_zero others]
      apply updateCoeff_leak hAt h.leak
      · rw [shiftIn_rested hRested _ hTail]
        exact Int.mul_zero _
      · omega
  exact ⟨fun i => shiftIn_zero h.noise i, hCoeff, driven_leak hCoeff⟩

/-- A pulse, from coefficients of sum 0. -/
theorem period_driven {a : Int} {s : Filter} (h : Driven (-6 * a) a 0 s) (hRested : Rested s)
    (hPower : s.p = 49) (hSafety : s.c = 0) (hLow : 0 ≤ a) (hHigh : a ≤ 5424) :
    Driven (-6 * (a + 24)) (a + 24) 0 (StepRun.run call s pulse) ∧ Rested (StepRun.run call s pulse) := by
  have h1 := pulse_driven h hRested hPower hSafety (by omega) (by omega)
  have hLeak1 : (-6 * a - 168 + 6 * a) / 8 = -21 := by omega
  rw [hLeak1] at h1
  have h2 := silent_driven h1 (by omega) (by omega)
  have hLeak2 : (-6 * a - 168 - -21 + 6 * (a - -21)) / 8 = -3 := by omega
  rw [hLeak2] at h2
  have h3 := silent_driven h2 (by omega) (by omega)
  have hLeak3 : (-6 * a - 168 - -21 - -3 + 6 * (a - -21 - -3)) / 8 = 0 := by omega
  have hFirst : -6 * a - 168 - -21 - -3 = -6 * (a + 24) := by omega
  have hOthers : a - -21 - -3 = a + 24 := by omega
  rw [hLeak3, hFirst, hOthers] at h3
  have hStill : ∀ s, Driven (-6 * (a + 24)) (a + 24) 0 s → Driven (-6 * (a + 24)) (a + 24) 0 (call s silent) := by
    intro s hs
    have hNext := silent_driven hs (by omega) (by omega)
    have hLeak : (-6 * (a + 24) - 0 + 6 * (a + 24 - 0)) / 8 = 0 := by omega
    rw [hLeak, Int.sub_zero, Int.sub_zero] at hNext
    exact hNext
  refine ⟨hStill _ (hStill _ (hStill _ (hStill _ h3))), fun i hi => ?_⟩
  fin_cases i <;> first | rfl | exact absurd hi (by decide)

/-- 975 silent calls, which take `p` to the fixpoint of its decay, and `k` pulses. -/
def drive (k : Nat) : List (Sample × Sample) := List.replicate 975 silent ++ (List.replicate k pulse).flatten

theorem silence_driven (k : Nat) :
    Driven 0 0 0 (after (List.replicate k silent)) ∧ Rested (after (List.replicate k silent)) := by
  induction k with
  | zero => exact ⟨⟨fun _ => rfl, fun _ => (ite_self _).symm, rfl⟩, fun _ _ => rfl⟩
  | succ k ih =>
    rw [List.replicate_succ', after_append]
    refine ⟨silent_driven ih.1 (by omega) (by omega), fun i hi => ?_⟩
    change shiftIn (after (List.replicate k silent)).x 0 i = 0
    by_cases hFront : i.val = 0
    · exact if_pos (Fin.ext hFront)
    · exact shiftIn_rested ih.2 0 hFront

theorem drive_driven {k : Nat} (hk : k ≤ 227) :
    Driven (-6 * (24 * k)) (24 * k) 0 (after (drive k)) ∧ Rested (after (drive k)) := by
  induction k with
  | zero =>
    rw [drive, List.replicate_zero, List.flatten_nil, List.append_nil]
    exact silence_driven 975
  | succ k ih =>
    obtain ⟨hDriven, hRested⟩ := ih (Nat.le_of_succ_le hk)
    have hDrive : drive (k + 1) = drive k ++ pulse := by
      have hPulses : List.replicate (k + 1) pulse = List.replicate k pulse ++ [pulse] := List.replicate_succ'
      rw [drive, drive, hPulses, List.flatten_append, List.flatten_singleton, List.append_assoc]
    have hLength : 975 ≤ (drive k).length := by
      rw [drive, List.length_append, List.length_replicate]
      omega
    have hCount : (24 * (k + 1 : Nat) : Int) = 24 * k + 24 := by
      push_cast
      omega
    rw [hDrive, after, StepRun.run_append, ← after, hCount]
    exact period_driven hDriven hRested (after_power_floor hLength) (after_powerInv _).noSafety (by omega) (by omega)

theorem along_last {P : Filter → Sample × Sample → Prop} {calls : List (Sample × Sample)} {samples : Sample × Sample}
    (h : StepRun.Along call P initial (calls ++ [samples])) : P (after calls) samples := by
  rw [StepRun.along_append, StepRun.along_cons] at h
  exact h.2.1

/-- After 227 pulses the next one takes the first coefficient below its range, and it wraps. -/
theorem coefficient_wraps : ¬ ∀ calls, StepRun.Along call CoeffsExact initial calls := by
  intro h
  obtain ⟨hDriven, hRested⟩ := drive_driven (k := 227) le_rfl
  have hLength : 975 ≤ (drive 227).length := by
    rw [drive, List.length_append, List.length_replicate]
    omega
  have hPower := after_power_floor hLength
  have hSafety := (after_powerInv (drive 227)).noSafety
  have hLast := along_last (h (drive 227 ++ [(28737, 0)]))
  generalize after (drive 227) = s at *
  have hUpdate := (coeffsExact_iff s _).mp hLast 0
  have hFirst : (s.w 0).toInt = -32688 := hDriven.coeff 0
  have hLeak : s.leak.toInt = 0 := hDriven.leak
  have hCorrection : roundShift 15 ((-191 : Sample).toInt * (28737 : Sample).toInt) = -168 := by decide
  have hFront : shiftIn s.x 28737 0 = 28737 := rfl
  rw [pulse_error hDriven.noise hPower hSafety, hFront, UpdateFits, exactUpdate, hFirst, hLeak, hCorrection] at hUpdate
  revert hUpdate
  decide

theorem updateCoeff_still (w ue x : Sample) (hx : x = 0) : updateCoeff w 0 ue x = w := by
  obtain ⟨hLow, hHigh⟩ := sample_range w
  have hZero : ue.toInt * x.toInt = 0 := by
    rw [hx]
    exact Int.mul_zero _
  have hLeak : w.toInt - (0 : Sample).toInt = w.toInt := Int.sub_zero _
  have hStored : (int16 w.toInt).toInt = w.toInt := int16_toInt hLow hHigh
  apply BitVec.eq_of_toInt_eq
  rw [updateCoeff_toInt, hZero, roundShift_zero, hLeak, hStored, Int.add_zero, hStored]
  split_ifs <;> omega

/-- No leak and a silent line: whatever the noise, the coefficients stay as they are. -/
structure Held (w : Fin taps → Sample) (s : Filter) : Prop where
  coeff : s.w = w
  leak : s.leak = 0
  balanced : newLeak w = 0
  rested : Rested s

theorem held_call {w : Fin taps → Sample} {s : Filter} (h : Held w s) (noise : Sample) : Held w (call s (0, noise)) := by
  have hLine : ∀ i, shiftIn s.x 0 i = 0 := by
    intro i
    by_cases hFront : i.val = 0
    · exact if_pos (Fin.ext hFront)
    · exact shiftIn_rested h.rested 0 hFront
  have hCoeff : (call s (0, noise)).w = w := by
    funext i
    change updateCoeff (s.w i) s.leak _ (shiftIn s.x 0 i) = w i
    rw [h.leak, updateCoeff_still _ _ _ (hLine i), h.coeff]
  refine ⟨hCoeff, ?_, h.balanced, fun i _ => hLine i⟩
  change newLeak (call s (0, noise)).w = 0
  rw [hCoeff]
  exact h.balanced

def feed : List (Sample × Sample) := List.replicate 6 (0, 32767)

theorem held_feed {w : Fin taps → Sample} {s : Filter} (h : Held w s) :
    Held w (StepRun.run call s feed) ∧ ∀ i : Fin taps, i.val < 6 → (StepRun.run call s feed).n i = 32767 := by
  refine ⟨held_call (held_call (held_call (held_call (held_call (held_call h _) _) _) _) _) _, fun i hi => ?_⟩
  fin_cases i <;> first | rfl | exact absurd hi (by decide)

/-- The products of the next call when its noise has the sign of the first coefficient and the
noise before it the sign of the others. -/
theorem fed_products {first others : Int} {s : Filter}
    (hCoeff : ∀ i : Fin taps, (s.w i).toInt = if i.val = 0 then first else others)
    (hNoise : ∀ i : Fin taps, i.val < 6 → s.n i = 32767) :
    products s.w (shiftIn s.n (-32768)) =
      (List.finRange taps).map fun i => if i.val = 0 then first * -32768 else others * 32767 := by
  apply List.map_congr_left
  intro i _
  rw [hCoeff, shiftIn]
  split_ifs with hHead hZero hZero
  · rfl
  · exact absurd (Fin.ext hHead) hZero
  · exact absurd (congrArg Fin.val hZero) hHead
  · have hInside : i.val < 7 := i.isLt
    rw [hNoise (i - 1) (by rw [Fin.val_sub_one_of_ne_zero hZero]; omega)]
    rfl

/-- After 114 pulses full-scale noise of the signs of the coefficients takes the scaled sum out of 16 bits. -/
theorem error_wraps : ¬ ∀ calls, StepRun.Along call FilterExact initial calls := by
  intro h
  obtain ⟨hDriven, hRested⟩ := drive_driven (k := 114) (by decide)
  have hLast := along_last (h (drive 114 ++ feed ++ [(0, -32768)]))
  rw [after, StepRun.run_append, ← after] at hLast
  generalize after (drive 114) = s at *
  have hBalanced : newLeak s.w = 0 := by
    apply BitVec.eq_of_toInt_eq
    rw [driven_leak hDriven.coeff]
    rfl
  have hLeak : s.leak = 0 := BitVec.eq_of_toInt_eq hDriven.leak
  obtain ⟨hHeld, hNoise⟩ := held_feed ⟨rfl, hLeak, hBalanced, hRested⟩
  have hFiltered := ((filterExact_iff _ _).mp hLast).filtered
  generalize StepRun.run call s feed = fed at *
  have hCoeff : ∀ i : Fin taps, (fed.w i).toInt = if i.val = 0 then -16416 else 2736 := by
    intro i
    rw [hHeld.coeff]
    exact hDriven.coeff i
  rw [fed_products hCoeff hNoise] at hFiltered
  revert hFiltered
  decide

end WheelDisplay.Nlms
