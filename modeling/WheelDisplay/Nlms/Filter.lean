import WheelDisplay.Lib.FixedPoint
import WheelDisplay.Lib.StepRun

/-! # The adaptive filter of nlms.c

`int16_t` variables are `BitVec 16`, read as signed. `int` has 16 bits on the
target, so `1 << SCALE` leaves its range. `int32_t` temporaries are integers
reduced by `int32` where C stores them, and `>>` of a negative `int32_t` is
arithmetic. `beta` is the integer part of 0.99*32767. Nothing assigns `c`.
-/

namespace WheelDisplay.Nlms

open FixedPoint

abbrev Sample := BitVec 16

def int16 (v : Int) : Sample := BitVec.ofInt 16 v

def int32 (v : Int) : Int := signed 32 v

abbrev taps : Nat := 7

def scale : Nat := 15

def beta : Int := 99 * 32767 / 100

def oneMinusBeta : Int := 32767 - beta

def round : Int := (int16 (1 <<< (scale - 1))).toInt

def alpha : Int := (int16 (1 <<< scale)).toInt

def leakShift : Nat := taps - 4

structure Filter where
  x : Fin taps → Sample
  n : Fin taps → Sample
  w : Fin taps → Sample
  p : Sample
  c : Sample
  leak : Sample

def initial : Filter where
  x := fun _ => 0
  n := fun _ => 0
  w := fun _ => 0
  p := 1024
  c := 0
  leak := 0

-- the source shifts from the oldest tap down: every tap takes its neighbour's old sample
def shiftIn (line : Fin taps → Sample) (sample : Sample) : Fin taps → Sample :=
  fun i => if i = 0 then sample else line (i - 1)

def scaled (v : Int) : Int := int32 (v + round) / 2 ^ scale

def voicePower (voice : Sample) : Int :=
  scaled (int32 (scaled (int32 (voice.toInt * voice.toInt)) * oneMinusBeta))

def decayedPower (p : Sample) : Sample := int16 (scaled (int32 (p.toInt * beta)))

-- temp32 at the division
def normaliser (s : Filter) (voice : Sample) : Int :=
  int32 (voicePower voice + (int16 ((decayedPower s.p).toInt + s.c.toInt)).toInt) / 2

def stepSize (s : Filter) (voice : Sample) : Sample :=
  int16 (alpha.tdiv (normaliser s voice))

def filterSum (w n : Fin taps → Sample) : Int :=
  ([1, 2, 3, 4, 5, 6] : List (Fin taps)).foldl
    (fun temp32 i => int32 (temp32 + int32 ((w i).toInt * (n i).toInt)))
    (int32 ((w 0).toInt * (n 0).toInt))

def errorSample (s : Filter) (voice noise : Sample) : Sample :=
  int16 (voice.toInt - (int16 (scaled (filterSum s.w (shiftIn s.n noise)))).toInt)

def scaledError (s : Filter) (voice noise : Sample) : Sample :=
  int16 (scaled (int32 ((errorSample s voice noise).toInt * (stepSize s voice).toInt)))

def updateCoeff (w leak ue x : Sample) : Sample :=
  let temp32 := int32 ((int16 (w.toInt - leak.toInt)).toInt + scaled (int32 (ue.toInt * x.toInt)))
  if temp32 ≥ 32767 then 32767
  else if w.toInt ≤ -32768 then int16 (-32768)
  else int16 temp32

def newLeak (w : Fin taps → Sample) : Sample :=
  int16 (([0, 1, 2, 3, 4, 5, 6] : List (Fin taps)).foldl
    (fun newleak i => int32 (newleak + (w i).toInt)) 0 / 2 ^ leakShift)

def nlms (s : Filter) (voice noise : Sample) : Filter × Sample :=
  let x := shiftIn s.x voice
  let ue := scaledError s voice noise
  let w := fun i => updateCoeff (s.w i) s.leak ue (x i)
  ({ s with
      x := x
      n := shiftIn s.n noise
      w := w
      p := decayedPower s.p
      leak := newLeak w },
    errorSample s voice noise)

-- a call as a step of a run, on (voice, noise)
def call (s : Filter) (samples : Sample × Sample) : Filter := (nlms s samples.1 samples.2).1

def after (calls : List (Sample × Sample)) : Filter := StepRun.run call initial calls

theorem sample_range (v : Sample) : -32768 ≤ v.toInt ∧ v.toInt ≤ 32767 := by
  have hLow := BitVec.le_toInt v
  have hHigh := BitVec.toInt_lt (x := v)
  norm_num at hLow hHigh
  omega

theorem int16_toInt {v : Int} (hLow : -32768 ≤ v) (hHigh : v ≤ 32767) : (int16 v).toInt = v :=
  BitVec.toInt_ofInt_eq_self (by decide) (by norm_num; omega) (by norm_num; omega)

theorem int32_eq {v : Int} (hLow : -2147483648 ≤ v) (hHigh : v ≤ 2147483647) : int32 v = v :=
  signed_eq_self (by decide) (by norm_num; omega) (by norm_num; omega)

theorem round_eq : round = 16384 := by decide

theorem alpha_eq : alpha = -32768 := by decide

theorem beta_eq : beta = 32439 := by decide

theorem oneMinusBeta_eq : oneMinusBeta = 328 := by decide

theorem scaled_eq {v : Int} (hLow : -2147483648 ≤ v) (hHigh : v ≤ 2147467263) :
    scaled v = roundShift 15 v := by
  rw [scaled, int32_eq (by rw [round_eq]; omega) (by rw [round_eq]; omega), round_eq]
  rfl

end WheelDisplay.Nlms
