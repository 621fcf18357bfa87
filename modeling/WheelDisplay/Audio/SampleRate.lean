import WheelDisplay.Audio.Endpoint
import WheelDisplay.Lib.StepRun

/-! # Sampling-frequency requests over a session

The reload value fits `OCR0A` exactly for the frequencies from 7783 Hz to 2 MHz.
The callback acknowledges every other frequency as well.
-/

namespace WheelDisplay.Audio

inductive Event where
  | setCur (b0 b1 b2 : Byte)
  | getCur (length : Word) (buffer : Nat → Byte)
  | connect
  | disconnect

def payload (b0 b1 b2 : Byte) : Nat → Byte
  | 0 => b0
  | 1 => b1
  | 2 => b2
  | _ => 0

def request (endpointProperty : Byte) (length : Word) (data : Nat → Byte) (s : AudioState) :
    Option (AudioState × Answer) :=
  callbackAudioDeviceGetSetEndpointProperty endpointProperty (endpointDirIn ||| dataINEndpointNumber)
    audioEPControlSamplingFreq (some length) data s

def serve (s : AudioState) : Event → Option (AudioState × Option Answer)
  | .setCur b0 b1 b2 => (request audioReqSetCurrent 3 (payload b0 b1 b2) s).map (Prod.map id some)
  | .getCur length buffer => (request audioReqGetCurrent length buffer s).map (Prod.map id some)
  | .connect => (eventUSBDeviceConnect s).map (·, none)
  | .disconnect => some (eventUSBDeviceDisconnect s, none)

-- the state and the frequency of the last acknowledged SET_CUR
structure Session where
  state : AudioState
  acknowledged : Long

def start : Session := ⟨initial, 8000⟩

-- after an undefined division nothing is known, and the session stays where it was
def sessionStep (t : Session) (e : Event) : Session :=
  match serve t.state e, e with
  | some (s, some answer), .setCur b0 b1 b2 =>
    ⟨s, if answer.ok then frequencyOf (payload b0 b1 b2) else t.acknowledged⟩
  | some (s, _), _ => ⟨s, t.acknowledged⟩
  | none, _ => t

def Representable (frequency : Long) : Prop :=
  1 ≤ fCpu.toNat / 8 / frequency.toNat ∧ fCpu.toNat / 8 / frequency.toNat ≤ 256

/-- What one event owes the host in a session. -/
def Honoured (t : Session) (e : Event) : Prop :=
  (serve t.state e).isSome ∧
  match e with
  | .setCur b0 b1 b2 => ∀ s answer, serve t.state e = some (s, some answer) →
      (answer.ok = true → s.ocr0a.toNat + 1 = fCpu.toNat / 8 / (frequencyOf (payload b0 b1 b2)).toNat) ∧
      (¬ Representable (frequencyOf (payload b0 b1 b2)) → answer.ok = false ∧
        s.currentAudioSampleFrequency = t.state.currentAudioSampleFrequency ∧
        s.ocr0a = t.state.ocr0a)
  | .getCur length _ => 3 ≤ length.toNat → ∃ s answer, serve t.state e = some (s, some answer) ∧
      answer.ok = true ∧ answer.dataLength = some 3 ∧ frequencyOf answer.data = t.acknowledged
  | .connect => True
  | .disconnect => True

def InWindow : Event → Prop
  | .setCur b0 b1 b2 =>
    7783 ≤ (frequencyOf (payload b0 b1 b2)).toNat ∧ (frequencyOf (payload b0 b1 b2)).toNat ≤ 2000000
  | _ => True

theorem clock_eq : fCpu.toNat / 8 = 2000000 := by decide

theorem representable_iff (frequency : Long) :
    Representable frequency ↔ 7783 ≤ frequency.toNat ∧ frequency.toNat ≤ 2000000 := by
  rw [Representable, clock_eq]
  rcases Nat.eq_zero_or_pos frequency.toNat with hZero | hPos
  · simp [hZero]
  · rw [Nat.le_div_iff_mul_le hPos, Nat.div_le_iff_le_mul_add_pred hPos]
    omega

theorem timerReload_window {frequency : Long} (h : Representable frequency) :
    ∃ reload, timerReload frequency = some reload ∧
      reload.toNat + 1 = fCpu.toNat / 8 / frequency.toNat := by
  have hWindow := (representable_iff frequency).mp h
  have hNonzero : frequency ≠ 0 := by
    rintro rfl
    exact absurd hWindow.1 (by decide)
  refine ⟨_, if_neg hNonzero, ?_⟩
  have hQuot : (fCpu / 8 / frequency).toNat = fCpu.toNat / 8 / frequency.toNat := by
    rw [BitVec.toNat_udiv, BitVec.toNat_udiv]
    rfl
  have hSub : (fCpu / 8 / frequency - 1).toNat = fCpu.toNat / 8 / frequency.toNat - 1 := by
    rw [BitVec.toNat_sub_of_le (by rw [BitVec.le_def, hQuot]; exact h.1), hQuot]
    rfl
  rw [BitVec.toNat_setWidth, hSub]
  have hLow := h.1
  have hHigh := h.2
  omega

theorem serve_setCur (s : AudioState) (b0 b1 b2 : Byte) :
    serve s (.setCur b0 b1 b2) = (timerReload (frequencyOf (payload b0 b1 b2))).map fun reload =>
      ({ s with currentAudioSampleFrequency := frequencyOf (payload b0 b1 b2), ocr0a := reload },
        some ⟨true, some 3, payload b0 b1 b2⟩) := by
  simp only [serve, request, callbackAudioDeviceGetSetEndpointProperty, if_true, Option.map_map]
  rfl

theorem serve_getCur (s : AudioState) (length : Word) (buffer : Nat → Byte) :
    serve s (.getCur length buffer) =
      some (s, some ⟨true, some 3, putFrequency s.currentAudioSampleFrequency buffer⟩) := rfl

structure SessionInv (t : Session) : Prop where
  inForce : t.state.currentAudioSampleFrequency = t.acknowledged
  representable : Representable t.acknowledged
  short : t.acknowledged.toNat < 2 ^ 24

theorem start_inv : SessionInv start where
  inForce := rfl
  representable := (representable_iff _).mpr (by decide)
  short := by decide

theorem sessionStep_inv (t : Session) (e : Event) (h : SessionInv t) (hWindow : InWindow e) :
    SessionInv (sessionStep t e) := by
  cases e with
  | setCur b0 b1 b2 =>
    have hRep := (representable_iff (frequencyOf (payload b0 b1 b2))).mpr hWindow
    obtain ⟨reload, hReload, -⟩ := timerReload_window hRep
    simp only [sessionStep, serve_setCur, hReload, Option.map_some]
    exact ⟨rfl, hRep, frequencyOf_lt _⟩
  | getCur length buffer =>
    simp only [sessionStep, serve_getCur]
    exact h
  | connect =>
    obtain ⟨reload, hReload, -⟩ := timerReload_window h.representable
    simp only [sessionStep, serve, eventUSBDeviceConnect, h.inForce, hReload, Option.map_some]
    exact ⟨rfl, h.representable, h.short⟩
  | disconnect =>
    exact ⟨h.inForce, h.representable, h.short⟩

theorem honoured_iff (t : Session) (e : Event) (h : SessionInv t) : Honoured t e ↔ InWindow e := by
  cases e with
  | setCur b0 b1 b2 =>
    constructor
    · rintro ⟨hDefined, hServed⟩
      by_contra hOutside
      have hRefused := fun h => hOutside ((representable_iff _).mp h)
      rw [serve_setCur] at hDefined hServed
      obtain ⟨reload, hReload⟩ := Option.isSome_iff_exists.mp (Option.isSome_map ▸ hDefined)
      rw [hReload] at hServed
      exact absurd ((hServed _ _ rfl).2 hRefused).1 (by simp)
    · intro hWindow
      have hRep := (representable_iff (frequencyOf (payload b0 b1 b2))).mpr hWindow
      obtain ⟨reload, hReload, hExact⟩ := timerReload_window hRep
      constructor
      · rw [serve_setCur, hReload]
        rfl
      · intro s answer hServe
        rw [serve_setCur, hReload] at hServe
        cases hServe
        exact ⟨fun _ => hExact, fun hNot => absurd hRep hNot⟩
  | getCur length buffer =>
    refine iff_of_true ⟨rfl, fun _ => ⟨_, _, serve_getCur _ _ _, rfl, rfl, ?_⟩⟩ trivial
    rw [h.inForce]
    exact frequencyOf_putFrequency h.short buffer
  | connect =>
    obtain ⟨reload, hReload, -⟩ := timerReload_window h.representable
    refine iff_of_true ⟨?_, trivial⟩ trivial
    simp only [serve, eventUSBDeviceConnect, h.inForce, hReload, Option.map_some, Option.isSome_some]
  | disconnect => exact iff_of_true ⟨rfl, trivial⟩ trivial

/-- Every event of a session is honoured exactly when every SET_CUR stays in the window. -/
theorem session_honoured_iff (events : List Event) :
    StepRun.Along sessionStep Honoured start events ↔ ∀ e ∈ events, InWindow e := by
  rw [StepRun.along_congr_of_invariant (Q := fun _ e => InWindow e) SessionInv sessionStep_inv
    honoured_iff start_inv, StepRun.along_event_iff]

/-- 0 Hz divides by zero, and 4000 Hz is acknowledged with a reload value that lost its ninth bit. -/
theorem setCur_outside_window :
    ¬ StepRun.Along sessionStep Honoured start [.setCur 0 0 0] ∧
      ¬ StepRun.Along sessionStep Honoured start [.setCur 0xA0 0x0F 0] := by
  constructor
  · rintro ⟨⟨hDefined, -⟩, -⟩
    exact absurd hDefined (by decide)
  · rintro ⟨⟨-, hServed⟩, -⟩
    exact absurd ((hServed _ _ rfl).1 rfl) (by decide)

end WheelDisplay.Audio
