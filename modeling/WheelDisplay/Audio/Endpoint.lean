import Mathlib.Tactic.IntervalCases
import WheelDisplay.Target

/-! # The sampling-frequency endpoint property of wheel-display.c

The division by the sampling frequency is undefined for zero, so the functions
that evaluate it return `none` there. The pointers `DataLength` and `Data` are
an optional value, `none` for NULL, and the bytes from the address on.
-/

namespace WheelDisplay.Audio

def endpointDirIn : Byte := 0x80

def dataINEndpointNumber : Byte := 3

def audioReqSetCurrent : Byte := 0x01

def audioReqGetCurrent : Byte := 0x81

def audioEPControlSamplingFreq : Byte := 0x01

structure AudioState where
  currentAudioSampleFrequency : Long
  ocr0a : Byte
  timsk0 : Byte
  tccr0a : Byte
  tccr0b : Byte

def initial : AudioState where
  currentAudioSampleFrequency := 8000
  ocr0a := 0
  timsk0 := 0
  tccr0a := 0
  tccr0b := 0

def timerReload (frequency : Long) : Option Byte :=
  if frequency = 0 then none else some ((fCpu / 8 / frequency - 1).setWidth 8)

def eventUSBDeviceConnect (s : AudioState) : Option AudioState :=
  (timerReload s.currentAudioSampleFrequency).map fun reload =>
    { s with timsk0 := 1 <<< 1, ocr0a := reload, tccr0a := 1 <<< 1, tccr0b := 1 <<< 1 }

def eventUSBDeviceDisconnect (s : AudioState) : AudioState := { s with tccr0b := 0 }

structure Answer where
  ok : Bool
  dataLength : Option Word
  data : Nat → Byte

def frequencyOf (data : Nat → Byte) : Long :=
  (data 2).setWidth 32 <<< 16 ||| (data 1).setWidth 32 <<< 8 ||| (data 0).setWidth 32

def putFrequency (frequency : Long) (data : Nat → Byte) : Nat → Byte :=
  let data := Function.update data 2 ((frequency >>> 16).setWidth 8)
  let data := Function.update data 1 ((frequency >>> 8).setWidth 8)
  Function.update data 0 ((frequency &&& 0xFF).setWidth 8)

def callbackAudioDeviceGetSetEndpointProperty
    (endpointProperty endpointAddress endpointControl : Byte) (dataLength : Option Word)
    (data : Nat → Byte) (s : AudioState) : Option (AudioState × Answer) :=
  if endpointAddress = endpointDirIn ||| dataINEndpointNumber then
    if endpointControl = audioEPControlSamplingFreq then
      if endpointProperty = audioReqSetCurrent then
        match dataLength with
        | none => some (s, ⟨true, none, data⟩)
        | some length =>
          (timerReload (frequencyOf data)).map fun reload =>
            ({ s with currentAudioSampleFrequency := frequencyOf data, ocr0a := reload },
              ⟨true, some length, data⟩)
      else if endpointProperty = audioReqGetCurrent then
        match dataLength with
        | none => some (s, ⟨true, none, data⟩)
        | some _ =>
          some (s, ⟨true, some 3, putFrequency s.currentAudioSampleFrequency data⟩)
      else some (s, ⟨false, dataLength, data⟩)
    else some (s, ⟨false, dataLength, data⟩)
  else some (s, ⟨false, dataLength, data⟩)

def callbackAudioDeviceGetSetInterfaceProperty (_property _entityAddress : Byte)
    (_parameter : Word) (dataLength : Option Word) (data : Nat → Byte) : Answer :=
  ⟨false, dataLength, data⟩

theorem frequencyOf_eq_append (data : Nat → Byte) :
    frequencyOf data = (data 2 ++ data 1 ++ data 0).setWidth 32 := by
  apply BitVec.eq_of_getLsbD_eq
  intro i hi
  simp only [frequencyOf, BitVec.getLsbD_or, BitVec.getLsbD_shiftLeft, BitVec.getLsbD_setWidth,
    BitVec.getLsbD_append, hi, decide_true, Bool.true_and]
  rcases (by omega : i < 8 ∨ (8 ≤ i ∧ i < 16) ∨ 16 ≤ i) with hLow | ⟨hMid, hMid'⟩ | hHigh
  · have hNext : i < 16 := by omega
    simp [hLow, hNext]
  · have hAbove : ¬ i < 8 := by omega
    have hIndex : i - 8 < 8 := by omega
    have hWide : i - 8 < 32 := by omega
    simp [hMid', hAbove, hIndex, hWide, BitVec.getLsbD_of_ge (data 0) i hMid]
  · have hAbove : ¬ i < 8 := by omega
    have hAbove' : ¬ i < 16 := by omega
    have hIndex : ¬ i - 8 < 8 := by omega
    have hWide : i - 16 < 32 := by omega
    have hShift : i - 8 - 8 = i - 16 := by omega
    simp [hAbove, hAbove', hIndex, hWide, hShift, BitVec.getLsbD_of_ge (data 0) i (by omega),
      BitVec.getLsbD_of_ge (data 1) (i - 8) (by omega)]

theorem frequencyOf_lt (data : Nat → Byte) : (frequencyOf data).toNat < 2 ^ 24 := by
  rw [frequencyOf_eq_append, BitVec.toNat_setWidth_of_le (by decide)]
  exact (data 2 ++ data 1 ++ data 0).isLt

theorem frequencyOf_putFrequency {frequency : Long} (h : frequency.toNat < 2 ^ 24) (data : Nat → Byte) :
    frequencyOf (putFrequency frequency data) = frequency := by
  have hHigh : putFrequency frequency data 2 = (frequency >>> 16).setWidth 8 := by simp [putFrequency]
  have hMid : putFrequency frequency data 1 = (frequency >>> 8).setWidth 8 := by simp [putFrequency]
  have hLow : putFrequency frequency data 0 = (frequency &&& 0xFF).setWidth 8 := by simp [putFrequency]
  rw [frequencyOf_eq_append, hHigh, hMid, hLow]
  apply BitVec.eq_of_getLsbD_eq
  intro i hi
  simp only [BitVec.getLsbD_setWidth, BitVec.getLsbD_append, BitVec.getLsbD_ushiftRight,
    BitVec.getLsbD_and, hi, decide_true, Bool.true_and]
  rcases (by omega : i < 8 ∨ (8 ≤ i ∧ i < 16) ∨ (16 ≤ i ∧ i < 24) ∨ 24 ≤ i) with
    hByte | ⟨hByte, hByte'⟩ | ⟨hByte, hByte'⟩ | hByte
  · have hMask : (0xFF#32).getLsbD i = true := by
      interval_cases i <;> rfl
    simpa [hByte] using fun _ => hMask
  · have hAbove : ¬ i < 8 := by omega
    have hIndex : i - 8 < 8 := by omega
    have hShift : 8 + (i - 8) = i := by omega
    simp [hAbove, hIndex, hShift]
  · have hAbove : ¬ i < 8 := by omega
    have hAbove' : ¬ i - 8 < 8 := by omega
    have hIndex : i - 8 - 8 < 8 := by omega
    have hShift : 16 + (i - 8 - 8) = i := by omega
    simp [hAbove, hAbove', hIndex, hShift]
  · have hTop : frequency.getLsbD i = false :=
      Nat.testBit_lt_two_pow (h.trans_le (Nat.pow_le_pow_right (by decide) hByte))
    have hAbove : ¬ i < 8 := by omega
    have hAbove' : ¬ i - 8 < 8 := by omega
    have hIndex : ¬ i - 8 - 8 < 8 := by omega
    simp [hAbove, hAbove', hIndex, hTop]

end WheelDisplay.Audio
