import Mathlib.Tactic.Ring
import WheelDisplay.Lib.Accumulate
import WheelDisplay.Spi.Peripherals

/-! # The noise floor of the two audio channels

`ADCinit` converts each channel sixteen times over the SPI bus; the voltages change
from one conversion to the next. `int` has 16 bits, so the difference that goes to
`nlms` wraps like `uint16_t`. The delay between two readings changes nothing here.
-/

namespace WheelDisplay.Mcp3204

open FixedPoint SerialBus Spi

/-- What the converter finds at its inputs, and the bits of its answers that it leaves undriven. -/
structure Inputs where
  input : BitVec 2 → BitVec 12
  undriven : Byte

structure Adc where
  bench : Bench
  noisefloor : Fin 2 → Word

/-- `noisefloor` is in `.bss`, and `ADCinit` runs once. -/
def reset (bench : Bench) : Adc := { bench, noisefloor := fun _ => 0 }

abbrev channel0 : Fin 2 := ⟨0, Nat.zero_lt_two⟩

abbrev channel1 : Fin 2 := ⟨1, Nat.one_lt_two⟩

structure Conversion where
  ch : Fin 2
  found : Inputs

section Driver

variable (wiring : (ChipName → Option Byte) → Byte)

def reading (a : Adc) (c : Conversion) : Word × Bench :=
  adcGetValue wiring (BitVec.ofNat 8 c.ch.val) (a.bench.step wiring (.inputs c.found.input c.found.undriven))

-- noisefloor[ch] += ADCGetValue(ch)
def addReading (a : Adc) (c : Conversion) : Adc where
  bench := (reading wiring a c).2
  noisefloor := Function.update a.noisefloor c.ch (a.noisefloor c.ch + (reading wiring a c).1)

def pulseSelect (a : Adc) : Adc := { a with bench := spiUnselectAllSlaves (spiSelectSlave spiAdc a.bench) }

def adcInit (found : Nat → Fin 2 → Inputs) (a : Adc) : Adc :=
  let a := (List.range (1 <<< 4)).foldl
    (fun a i => addReading wiring (addReading wiring a ⟨channel0, found i channel0⟩) ⟨channel1, found i channel1⟩)
    (pulseSelect a)
  { a with noisefloor := fun ch => (a.noisefloor ch).sshiftRight 4 }

/-- The argument that the main loop passes to `nlms` for a channel. -/
def nlmsArgument (a : Adc) (ch : Fin 2) : Word :=
  (adcGetValue wiring (BitVec.ofNat 8 ch.val) a.bench).1 - a.noisefloor ch

/-- The loop as a run over conversions. -/
def loopConversions (found : Nat → Fin 2 → Inputs) (rounds : List Nat) : List Conversion :=
  rounds.flatMap fun i => [⟨channel0, found i channel0⟩, ⟨channel1, found i channel1⟩]

def readingOf (ch : Fin 2) (a : Adc) (c : Conversion) : Option Word :=
  if c.ch = ch then some (reading wiring a c).1 else none

/-- What `ADCGetValue` returns for a channel during `ADCinit`. -/
def readings (found : Nat → Fin 2 → Inputs) (a : Adc) (ch : Fin 2) : List Word :=
  StepRun.emitted (addReading wiring) (readingOf wiring ch) (pulseSelect a)
    (loopConversions found (List.range (1 <<< 4)))

def total (values : List Word) : Int := (values.map fun v => (v.toNat : Int)).sum

/-- The noise floor that `ADCinit` leaves is the mean of the readings, rounded down. -/
structure Calibrated (found : Nat → Fin 2 → Inputs) (a : Adc) (ch : Fin 2) : Prop where
  mean : ((adcInit wiring found a).noisefloor ch).toInt = total (readings wiring found a ch) / 16
  range : ∀ (wiring' : (ChipName → Option Byte) → Byte) (later : Bench),
    -4095 ≤ (nlmsArgument wiring' { adcInit wiring found a with bench := later } ch).toInt ∧
      (nlmsArgument wiring' { adcInit wiring found a with bench := later } ch).toInt ≤ 4095
  centred : 0 ≤ ((readings wiring found a ch).map fun v => (v - (adcInit wiring found a).noisefloor ch).toInt).sum ∧
    ((readings wiring found a ch).map fun v => (v - (adcInit wiring found a).noisefloor ch).toInt).sum < 16

theorem adcGetValue_lt (ch : Byte) (b : Bench) : (adcGetValue wiring ch b).1.toNat < 4096 := by
  rw [adcGetValue, BitVec.toNat_and]
  exact Nat.and_lt_two_pow _ (n := 12) (by decide)

variable (found : Nat → Fin 2 → Inputs) (a : Adc) (ch : Fin 2)

theorem adcInit_noisefloor :
    (adcInit wiring found a).noisefloor ch =
      ((StepRun.run (addReading wiring) (pulseSelect a)
        (loopConversions found (List.range (1 <<< 4)))).noisefloor ch).sshiftRight 4 := by
  have hLoop : (List.range (1 <<< 4)).foldl
      (fun a i => addReading wiring (addReading wiring a ⟨channel0, found i channel0⟩) ⟨channel1, found i channel1⟩)
      (pulseSelect a) =
        StepRun.run (addReading wiring) (pulseSelect a) (loopConversions found (List.range (1 <<< 4))) := by
    rw [StepRun.run, loopConversions, List.foldl_flatMap]
    simp only [List.foldl_cons, List.foldl_nil]
  rw [adcInit, hLoop]

theorem noisefloor_run (conversions : List Conversion) :
    (StepRun.run (addReading wiring) a conversions).noisefloor ch =
      (StepRun.emitted (addReading wiring) (readingOf wiring ch) a conversions).foldl (· + ·) (a.noisefloor ch) := by
  apply StepRun.project_run (readingOf wiring ch) (· + ·) (fun a => a.noisefloor ch)
  intro a c
  rw [readingOf]
  split
  next hSame =>
    rw [← hSame]
    exact Function.update_self ..
  next hOther => exact Function.update_of_ne (Ne.symm hOther) ..

theorem readings_lt : ∀ v ∈ readings wiring found a ch, v.toNat < 4096 := by
  apply StepRun.emitted_forall
  intro a c v hRead
  rw [readingOf] at hRead
  split at hRead
  · cases hRead
    exact adcGetValue_lt wiring _ _
  · cases hRead

theorem readings_length : (readings wiring found a ch).length = 16 := by
  have hKeep : ∀ (a : Adc) (c : Conversion), (readingOf wiring ch a c).isSome = decide (c.ch = ch) := by
    intro a c
    rw [readingOf]
    split
    next hSame => exact (decide_eq_true hSame).symm
    next hOther => exact (decide_eq_false hOther).symm
  have hCount : ∀ ch : Fin 2,
      (loopConversions found (List.range (1 <<< 4))).countP (fun c => decide (c.ch = ch)) = 16 := by
    intro ch
    obtain rfl | rfl := (by decide : ∀ ch : Fin 2, ch = channel0 ∨ ch = channel1) ch <;> rfl
  rw [readings, StepRun.emitted_length hKeep, hCount]

end Driver

theorem total_range {values : List Word} (h : ∀ v ∈ values, v.toNat < 4096) :
    0 ≤ total values ∧ total values ≤ 4095 * values.length := by
  induction values with
  | nil => exact ⟨le_rfl, le_rfl⟩
  | cons v rest ih =>
    rw [List.forall_mem_cons] at h
    obtain ⟨hLow, hHigh⟩ := ih h.2
    have hHead := h.1
    have hSum : total (v :: rest) = v.toNat + total rest := List.sum_cons
    rw [hSum, List.length_cons]
    omega

theorem readings_total (wiring : (ChipName → Option Byte) → Byte) (found : Nat → Fin 2 → Inputs) (a : Adc)
    (ch : Fin 2) : 0 ≤ total (readings wiring found a ch) ∧ total (readings wiring found a ch) ≤ 65520 := by
  have hRange := total_range (readings_lt wiring found a ch)
  rw [readings_length] at hRange
  exact hRange

theorem foldl_add_toInt (values : List Word) :
    (values.foldl (· + ·) 0).toInt = accumulate 16 (values.map fun v => (v.toNat : Int)) := by
  induction values using List.reverseRecOn with
  | nil => rfl
  | append_singleton values v ih =>
    rw [List.map_append, List.map_singleton, accumulate_append, ← ih, List.foldl_append, List.foldl_cons,
      List.foldl_nil, signed, BitVec.toInt_add, BitVec.toInt_ofInt, BitVec.toInt_eq_toNat_bmod v, Int.add_bmod_bmod]

section Init

variable {wiring : (ChipName → Option Byte) → Byte} {found : Nat → Fin 2 → Inputs} {a : Adc} {ch : Fin 2}
  (hZero : a.noisefloor ch = 0)
include hZero

theorem adcInit_toInt :
    ((adcInit wiring found a).noisefloor ch).toInt = signed 16 (total (readings wiring found a ch)) / 16 := by
  have hStart : (pulseSelect a).noisefloor ch = 0 := hZero
  rw [adcInit_noisefloor, BitVec.toInt_sshiftRight, Int.shiftRight_eq_div_pow, noisefloor_run, hStart,
    foldl_add_toInt, accumulate_eq_signed]
  rfl

theorem mean_iff :
    ((adcInit wiring found a).noisefloor ch).toInt = total (readings wiring found a ch) / 16 ↔
      total (readings wiring found a ch) < 32768 := by
  obtain ⟨hLow, hHigh⟩ := readings_total wiring found a ch
  rw [adcInit_toInt hZero]
  constructor
  · intro h
    by_contra hOver
    rw [signed_of_high (by decide) (by omega) (by omega)] at h
    omega
  · intro h
    rw [signed_eq_self (by decide) (by omega) (by omega)]

end Init

theorem sub_toInt {value floor : Word} (hValue : value.toNat < 4096) (hLow : 0 ≤ floor.toInt)
    (hHigh : floor.toInt ≤ 4095) : (value - floor).toInt = value.toNat - floor.toInt := by
  have hSigned : value.toInt = value.toNat := BitVec.toInt_eq_toNat_of_lt (by omega)
  rw [BitVec.toInt_sub, hSigned]
  exact Int.bmod_eq_of_le (by norm_num; omega) (by norm_num; omega)

theorem sum_sub_toInt {values : List Word} {floor : Word} (hValues : ∀ v ∈ values, v.toNat < 4096)
    (hLow : 0 ≤ floor.toInt) (hHigh : floor.toInt ≤ 4095) :
    (values.map fun v => (v - floor).toInt).sum = total values - values.length * floor.toInt := by
  induction values with
  | nil => simp [total]
  | cons v rest ih =>
    rw [List.forall_mem_cons] at hValues
    have hSum : total (v :: rest) = v.toNat + total rest := List.sum_cons
    rw [List.map_cons, List.sum_cons, ih hValues.2, sub_toInt hValues.1 hLow hHigh, hSum, List.length_cons]
    push_cast
    ring

theorem adcInit_calibrated_iff (wiring : (ChipName → Option Byte) → Byte) (found : Nat → Fin 2 → Inputs) {a : Adc}
    {ch : Fin 2} (hZero : a.noisefloor ch = 0) :
    Calibrated wiring found a ch ↔ total (readings wiring found a ch) < 32768 := by
  constructor
  · intro h
    exact (mean_iff hZero).mp h.mean
  · intro h
    have hMean : ((adcInit wiring found a).noisefloor ch).toInt = total (readings wiring found a ch) / 16 :=
      (mean_iff hZero).mpr h
    obtain ⟨hSumLow, hSumHigh⟩ := readings_total wiring found a ch
    have hLow : 0 ≤ ((adcInit wiring found a).noisefloor ch).toInt := by omega
    have hHigh : ((adcInit wiring found a).noisefloor ch).toInt ≤ 4095 := by omega
    refine ⟨hMean, ?_, ?_⟩
    · intro wiring' later
      have hReading := adcGetValue_lt wiring' (BitVec.ofNat 8 ch.val) later
      have hArgument : (nlmsArgument wiring' { adcInit wiring found a with bench := later } ch).toInt =
          (adcGetValue wiring' (BitVec.ofNat 8 ch.val) later).1.toNat -
            ((adcInit wiring found a).noisefloor ch).toInt :=
        sub_toInt hReading hLow hHigh
      rw [hArgument]
      omega
    · rw [sum_sub_toInt (readings_lt wiring found a ch) hLow hHigh, readings_length, hMean]
      omega

/-- The word that `ADCGetValue` returns for a channel that has these inputs. -/
def Inputs.value (found : Inputs) (ch : Fin 2) : Word := (found.input (BitVec.ofNat 2 ch.val)).setWidth 16

section Converter

variable {wiring : (ChipName → Option Byte) → Byte} (hWiring : Faithful wiring)
include hWiring

theorem reading_converter {a : Adc} (h : Idle a.bench) (c : Conversion) :
    (reading wiring a c).1 = c.found.value c.ch ∧ Idle (addReading wiring a c).bench := by
  have hFound : Idle (a.bench.step wiring (.inputs c.found.input c.found.undriven)) :=
    ⟨⟨h.resting.ddrB, h.resting.portB, h.resting.selected⟩, h.expander, h.converter⟩
  have hChannel : (BitVec.ofNat 8 c.ch.val).setWidth 2 = BitVec.ofNat 2 c.ch.val := by bv_omega
  obtain ⟨hOutput, hServed⟩ := adcGetValue_served hWiring hFound (BitVec.ofNat 8 c.ch.val)
  rw [hChannel] at hOutput
  exact ⟨hOutput, hServed.idle⟩

theorem pulseSelect_idle {a : Adc} (h : Idle a.bench) : Idle (pulseSelect a).bench :=
  (converse_converter hWiring h []).2.idle

theorem emitted_converter (found : Nat → Fin 2 → Inputs) (rounds : List Nat) {a : Adc} (h : Idle a.bench)
    (ch : Fin 2) :
    StepRun.emitted (addReading wiring) (readingOf wiring ch) a (loopConversions found rounds) =
      rounds.map fun i => (found i ch).value ch := by
  induction rounds generalizing a with
  | nil => rfl
  | cons i rest ih =>
    obtain ⟨hValue0, hIdle0⟩ := reading_converter hWiring h ⟨channel0, found i channel0⟩
    obtain ⟨hValue1, hIdle1⟩ := reading_converter hWiring hIdle0 ⟨channel1, found i channel1⟩
    have hRest := ih hIdle1
    rw [loopConversions] at hRest
    rw [loopConversions, List.flatMap_cons, List.cons_append, List.cons_append, List.nil_append, StepRun.emitted,
      StepRun.emitted, hRest, readingOf, readingOf, hValue0, hValue1, List.map_cons]
    obtain rfl | rfl := (by decide : ∀ ch : Fin 2, ch = channel0 ∨ ch = channel1) ch
    · rfl
    · rfl

/-- Over the bus `ADCinit` reads what the converter has at the channel, round by round. -/
theorem readings_converter (found : Nat → Fin 2 → Inputs) {a : Adc} (h : Idle a.bench) (ch : Fin 2) :
    readings wiring found a ch = (List.range 16).map fun i => (found i ch).value ch :=
  emitted_converter hWiring found (List.range 16) (pulseSelect_idle hWiring h) ch

/-- Any two sequences of sixteen readings are what the converter gives for some voltages. -/
theorem exists_readings {values : Fin 2 → List Word} (hRange : ∀ ch, ∀ v ∈ values ch, v.toNat < 4096)
    (hLength : ∀ ch, (values ch).length = 16) {a : Adc} (h : Idle a.bench) :
    ∃ found, ∀ ch, readings wiring found a ch = values ch := by
  refine ⟨fun i ch => ⟨fun _ => ((values ch).getD i 0).setWidth 12, 0⟩, fun ch => ?_⟩
  rw [readings_converter hWiring _ h]
  apply List.ext_getElem
  · rw [List.length_map, List.length_range, hLength]
  · intro i hMap hValues
    have hSmall := hRange ch _ (List.getElem_mem hValues)
    rw [List.getElem_map, List.getElem_range, Inputs.value, List.getD_eq_getElem?_getD,
      List.getElem?_eq_getElem hValues, Option.getD_some]
    generalize (values ch)[i] = v at hSmall
    bv_omega

end Converter

def bench : Bench := spiMasterInit (powered (fun _ => 0) (fun _ => 0) 0)

theorem bench_idle : Idle bench := (spiMasterInit_realizes (fun _ => 0) (fun _ => 0) 0).idle

/-- The first channel hums around a fifth of its range, and the second stands just below the middle. -/
def humming (i : Nat) (_ch : Fin 2) : Inputs where
  input := fun channel => if channel = 0 then BitVec.ofNat 12 (800 + 10 * i) else 2047
  undriven := 0xFF

theorem humming_quiet (ch : Fin 2) : total (readings wiredAnd humming (reset bench) ch) < 32768 := by
  have hTotals : ∀ ch : Fin 2, total ((List.range 16).map fun i => (humming i ch).value ch) < 32768 := by
    decide +kernel
  rw [readings_converter wiredAnd_faithful humming bench_idle]
  exact hTotals ch

theorem adcInit_calibrated_iff_humming :
    Calibrated wiredAnd humming (reset bench) channel0 ∧ Calibrated wiredAnd humming (reset bench) channel1 :=
  ⟨(adcInit_calibrated_iff wiredAnd humming rfl).mpr (humming_quiet channel0),
    (adcInit_calibrated_iff wiredAnd humming rfl).mpr (humming_quiet channel1)⟩

/-- Both channels at 2048, the middle of the range. -/
def midScale (_i : Nat) (_ch : Fin 2) : Inputs := ⟨fun _ => 2048, 0⟩

theorem mid_scale_noise_floor :
    readings wiredAnd midScale (reset bench) channel0 = List.replicate 16 2048 ∧
      ((adcInit wiredAnd midScale (reset bench)).noisefloor channel0).toInt = -2048 ∧
      ¬ Calibrated wiredAnd midScale (reset bench) channel0 := by
  have hReadings : readings wiredAnd midScale (reset bench) channel0 = List.replicate 16 2048 :=
    (readings_converter wiredAnd_faithful midScale bench_idle channel0).trans (by decide +kernel)
  have hFloor : ((adcInit wiredAnd midScale (reset bench)).noisefloor channel0).toInt = -2048 := by
    rw [adcInit_toInt rfl, hReadings]
    decide +kernel
  refine ⟨hReadings, hFloor, ?_⟩
  intro h
  have hMean := h.mean
  rw [hFloor, hReadings] at hMean
  exact absurd hMean (by decide)

end WheelDisplay.Mcp3204
