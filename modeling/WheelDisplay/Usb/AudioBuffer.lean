import WheelDisplay.Usb.AudioClass

/-! # The buffer that the audio driver hands to the endpoint callback

The driver makes it as long as the host asks for. The callback reads or writes
three bytes of it, and gives back a length of 3.
-/

namespace WheelDisplay.Usb.AudioClass

open Audio

def endpointCallback (r : Request) (length : Option Word) (data : Nat → Byte) (s : AudioState) :
    Option (AudioState × Answer) :=
  callbackAudioDeviceGetSetEndpointProperty r.bRequest (endpointAddress r) (endpointControl r) length data s

def Agree (n : Nat) (data data' : Nat → Byte) : Prop := ∀ i < n, data i = data' i

/-- What can be seen of a call from outside its buffer and in the first `n` bytes of it. -/
def Alike (n : Nat) : Option (AudioState × Answer) → Option (AudioState × Answer) → Prop
  | none, none => True
  | some (s, a), some (s', a') => s = s' ∧ a.ok = a'.ok ∧ a.dataLength = a'.dataLength ∧ Agree n a.data a'.data
  | _, _ => False

/-- The callback stays inside a buffer of `wLength` bytes, and leaves everything alone when it is only asked. -/
structure WithinBuffer (r : Request) (s : AudioState) : Prop where
  probe : ∃ ok, ∀ data, endpointCallback r none data s = some (s, ⟨ok, none, data⟩)
  reads : ∀ data data', Agree r.wLength.toNat data data' →
    Alike r.wLength.toNat (endpointCallback r (some r.wLength) data s) (endpointCallback r (some r.wLength) data' s)
  writes : ∀ data s' a, endpointCallback r (some r.wLength) data s = some (s', a) →
    ∀ i, r.wLength.toNat ≤ i → a.data i = data i
  length : ∀ data s' a, endpointCallback r (some r.wLength) data s = some (s', a) →
    ∃ n, a.dataLength = some n ∧ n ≤ r.wLength

/-- The requests that the callback serves. -/
def IsFrequency (r : Request) : Prop :=
  endpointAddress r = endpointDirIn ||| dataINEndpointNumber ∧ endpointControl r = audioEPControlSamplingFreq ∧
    (r.bRequest = audioReqSetCurrent ∨ r.bRequest = audioReqGetCurrent)

theorem endpointCallback_other {r : Request} (h : ¬ IsFrequency r) (length : Option Word) (data : Nat → Byte)
    (s : AudioState) : endpointCallback r length data s = some (s, ⟨false, length, data⟩) := by
  rw [endpointCallback, callbackAudioDeviceGetSetEndpointProperty.eq_def]
  split_ifs with hAddress hControl hSet hGet
  · exact absurd ⟨hAddress, hControl, Or.inl hSet⟩ h
  · exact absurd ⟨hAddress, hControl, Or.inr hGet⟩ h
  · rfl
  · rfl
  · rfl

theorem endpointCallback_probe {r : Request} (h : IsFrequency r) (data : Nat → Byte) (s : AudioState) :
    endpointCallback r none data s = some (s, ⟨true, none, data⟩) := by
  obtain ⟨hAddress, hControl, hRequest⟩ := h
  rw [endpointCallback, callbackAudioDeviceGetSetEndpointProperty, if_pos hAddress, if_pos hControl]
  split_ifs with hSet hGet
  · rfl
  · rfl
  · exact absurd hRequest (not_or.mpr ⟨hSet, hGet⟩)

theorem endpointCallback_set {r : Request} (h : IsFrequency r) (hSet : r.bRequest = audioReqSetCurrent) (length : Word)
    (data : Nat → Byte) (s : AudioState) :
    endpointCallback r (some length) data s = (timerReload (frequencyOf data)).map fun reload =>
      ({ s with currentAudioSampleFrequency := frequencyOf data, ocr0a := reload }, ⟨true, some length, data⟩) := by
  rw [endpointCallback, callbackAudioDeviceGetSetEndpointProperty, if_pos h.1, if_pos h.2.1, if_pos hSet]

theorem endpointCallback_get {r : Request} (h : IsFrequency r) (hGet : r.bRequest = audioReqGetCurrent) (length : Word)
    (data : Nat → Byte) (s : AudioState) :
    endpointCallback r (some length) data s =
      some (s, ⟨true, some 3, putFrequency s.currentAudioSampleFrequency data⟩) := by
  have hNotSet : r.bRequest ≠ audioReqSetCurrent := by
    rw [hGet]
    decide
  rw [endpointCallback, callbackAudioDeviceGetSetEndpointProperty, if_pos h.1, if_pos h.2.1, if_neg hNotSet,
    if_pos hGet]

theorem frequencyOf_congr {n : Nat} (hn : 3 ≤ n) {data data' : Nat → Byte} (h : Agree n data data') :
    frequencyOf data = frequencyOf data' := by
  rw [frequencyOf, frequencyOf, h 0 (by omega), h 1 (by omega), h 2 (by omega)]

theorem putFrequency_congr {n : Nat} (frequency : Long) {data data' : Nat → Byte} (h : Agree n data data') :
    Agree n (putFrequency frequency data) (putFrequency frequency data') := by
  intro i hi
  simp only [putFrequency, Function.update_apply, h i hi]

theorem putFrequency_beyond (frequency : Long) (data : Nat → Byte) {i : Nat} (hi : 3 ≤ i) :
    putFrequency frequency data i = data i := by
  rw [putFrequency, Function.update_of_ne (by omega), Function.update_of_ne (by omega), Function.update_of_ne (by omega)]

theorem alike_of_same {n : Nat} {s : AudioState} {ok : Bool} {length : Option Word} {data data' : Nat → Byte}
    (h : Agree n data data') : Alike n (some (s, ⟨ok, length, data⟩)) (some (s, ⟨ok, length, data'⟩)) :=
  ⟨rfl, rfl, rfl, h⟩

theorem withinBuffer_of_other {r : Request} (h : ¬ IsFrequency r) (s : AudioState) : WithinBuffer r s where
  probe := ⟨false, fun data => endpointCallback_other h none data s⟩
  reads := by
    intro data data' hAgree
    rw [endpointCallback_other h, endpointCallback_other h]
    exact alike_of_same hAgree
  writes := by
    intro data s' a hCall i _
    rw [endpointCallback_other h] at hCall
    cases hCall
    rfl
  length := by
    intro data s' a hCall
    rw [endpointCallback_other h] at hCall
    cases hCall
    exact ⟨r.wLength, rfl, BitVec.le_refl _⟩

theorem withinBuffer_of_long {r : Request} (h : IsFrequency r) (hLength : 3 ≤ r.wLength) (s : AudioState) :
    WithinBuffer r s := by
  have hBytes : 3 ≤ r.wLength.toNat := hLength
  have hProbe : ∃ ok, ∀ data, endpointCallback r none data s = some (s, ⟨ok, none, data⟩) :=
    ⟨true, fun data => endpointCallback_probe h data s⟩
  obtain hSet | hGet := h.2.2
  · refine ⟨hProbe, fun data data' hAgree => ?_, fun data s' a hCall i _ => ?_, fun data s' a hCall => ?_⟩
    · rw [endpointCallback_set h hSet, endpointCallback_set h hSet, frequencyOf_congr hBytes hAgree]
      cases timerReload (frequencyOf data') with
      | none => trivial
      | some reload => exact alike_of_same hAgree
    · rw [endpointCallback_set h hSet] at hCall
      obtain ⟨reload, _, hResult⟩ := Option.map_eq_some_iff.mp hCall
      cases hResult
      rfl
    · rw [endpointCallback_set h hSet] at hCall
      obtain ⟨reload, _, hResult⟩ := Option.map_eq_some_iff.mp hCall
      cases hResult
      exact ⟨r.wLength, rfl, BitVec.le_refl _⟩
  · refine ⟨hProbe, fun data data' hAgree => ?_, fun data s' a hCall i hi => ?_, fun data s' a hCall => ?_⟩
    · rw [endpointCallback_get h hGet, endpointCallback_get h hGet]
      exact alike_of_same (putFrequency_congr _ hAgree)
    · rw [endpointCallback_get h hGet] at hCall
      cases hCall
      exact putFrequency_beyond _ _ (hBytes.trans hi)
    · rw [endpointCallback_get h hGet] at hCall
      cases hCall
      exact ⟨3, rfl, hLength⟩

/-- Two payloads that differ in the third byte only. -/
def highByte (b : Byte) : Nat → Byte := fun i => if i = 2 then b else 0

theorem not_withinBuffer_of_short {r : Request} (h : IsFrequency r) (hLength : ¬ 3 ≤ r.wLength) (s : AudioState) :
    ¬ WithinBuffer r s := by
  intro hWithin
  obtain hSet | hGet := h.2.2
  · have hAgree : Agree r.wLength.toNat (highByte 1) (highByte 2) := by
      intro i hi
      have hBelow : i ≠ 2 := by bv_omega
      rw [highByte, highByte, if_neg hBelow, if_neg hBelow]
    have hReads := hWithin.reads _ _ hAgree
    have hFirst : timerReload (frequencyOf (highByte 1)) = some 29 := by decide +kernel
    have hSecond : timerReload (frequencyOf (highByte 2)) = some 14 := by decide +kernel
    rw [endpointCallback_set h hSet, endpointCallback_set h hSet, hFirst, hSecond] at hReads
    have hReload : (29 : Byte) = 14 := congrArg AudioState.ocr0a hReads.1
    exact absurd hReload (by decide)
  · obtain ⟨n, hThree, hRaised⟩ := hWithin.length _ _ _ (endpointCallback_get h hGet r.wLength (highByte 0) s)
    cases hThree
    exact hLength hRaised

/-- The callback stays inside its buffer unless the host sets or reads the frequency with less than three bytes. -/
theorem withinBuffer_iff (r : Request) (s : AudioState) : WithinBuffer r s ↔ (IsFrequency r → 3 ≤ r.wLength) := by
  by_cases h : IsFrequency r
  · rw [imp_iff_right h]
    constructor
    · intro hWithin
      by_contra hShort
      exact not_withinBuffer_of_short h hShort s hWithin
    · intro hLong
      exact withinBuffer_of_long h hLong s
  · exact iff_of_true (withinBuffer_of_other h s) fun hFrequency => absurd hFrequency h

/-- A frequency of two bytes. -/
def shortFrequency : Request := ⟨0x22, audioReqSetCurrent, 0x0100, 0x0083, 2⟩

theorem buffer_overrun : ¬ ∀ (r : Request) (s : AudioState), WithinBuffer r s := by
  intro h
  have hFrequency : IsFrequency shortFrequency := ⟨by decide, by decide, Or.inl rfl⟩
  exact not_withinBuffer_of_short hFrequency (by decide) Audio.initial (h _ _)

end WheelDisplay.Usb.AudioClass
