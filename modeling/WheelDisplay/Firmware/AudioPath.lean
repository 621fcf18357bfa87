import WheelDisplay.Firmware.Wired
import WheelDisplay.Nlms.Headroom

/-! # From the converter to the audio sample

A turn of the body reads both channels, takes the noise floor that `ADCinit` left from
them and puts the filter output where the sample timer finds it.
-/

namespace WheelDisplay.Firmware

open Spi

def filterCall (t : Nlms.Filter × Nlms.Sample) (samples : Nlms.Sample × Nlms.Sample) : Nlms.Filter × Nlms.Sample :=
  Nlms.nlms t.1 samples.1 samples.2

/-- The samples that a step puts through the filter. -/
def filtered (f : Firmware) : Event → Option (Nlms.Sample × Nlms.Sample)
  | .task found => if f.next = .body then some (found.voice, found.noise) else none
  | _ => none

theorem step_filtered (f : Firmware) (e : Event) :
    ((f.step e).filter, (f.step e).audioSample) =
      (filtered f e).toList.foldl filterCall (f.filter, f.audioSample) := by
  cases e with
  | task found =>
    rw [step, runTask, filtered]
    cases f.next with
    | hid => rfl
    | usb => rfl
    | body =>
      have hKept : (update (catchButtons f)).filter = f.filter ∧ (update (catchButtons f)).audioSample = f.audioSample := by
        rw [update, catchButtons]
        split_ifs <;> exact ⟨rfl, rfl⟩
      dsimp only
      rw [body, filterSample, hKept.1]
      rfl
  | _ => rfl

def Facing.filtered (floor : Fin 2 → Word) (s : Facing) (happening : Happening) : Option (Nlms.Sample × Nlms.Sample) :=
  (s.event floor happening).bind (Firmware.filtered s.firmware)

theorem facing_filtered (floor : Fin 2 → Word) (s : Facing) (happening : Happening) :
    ((s.step floor happening).firmware.filter, (s.step floor happening).firmware.audioSample) =
      (s.filtered floor happening).toList.foldl filterCall (s.firmware.filter, s.firmware.audioSample) := by
  have hStep : (s.step floor happening).firmware = (s.event floor happening).toList.foldl Firmware.step s.firmware := rfl
  rw [hStep, Facing.filtered]
  cases s.event floor happening with
  | none => rfl
  | some e => exact step_filtered s.firmware e

theorem filterCalls_filter (t : Nlms.Filter × Nlms.Sample) (calls : List (Nlms.Sample × Nlms.Sample)) :
    (calls.foldl filterCall t).1 = StepRun.run Nlms.call t.1 calls := by
  induction calls generalizing t with
  | nil => rfl
  | cons samples rest ih => exact ih (filterCall t samples)

theorem sample_small {floor : Word} (hLow : 0 ≤ floor.toInt) (hHigh : floor.toInt ≤ 4095) (reading : BitVec 12) :
    Nlms.Small (reading.setWidth 16 - floor) := by
  have hReading : (reading.setWidth 16).toNat < 4096 := by bv_omega
  rw [Nlms.Small, Mcp3204.sub_toInt hReading hLow hHigh]
  omega

theorem filtered_small {floor : Fin 2 → Word} (hFloor : ∀ ch, 0 ≤ (floor ch).toInt ∧ (floor ch).toInt ≤ 4095)
    (s : Facing) (happening : Happening) (samples : Nlms.Sample × Nlms.Sample)
    (h : s.filtered floor happening = some samples) : Nlms.SmallSamples samples := by
  rw [Facing.filtered] at h
  cases happening with
  | outside world undriven => cases h
  | firmware e =>
    cases e with
    | task found =>
      change (if s.firmware.next = .body then some ((s.observed floor found).voice, (s.observed floor found).noise)
        else none) = some samples at h
      split at h
      next hNext =>
        have hObserved : s.observed floor found =
            found.observe 0 (s.world.sample floor Mcp3204.channel0) (s.world.sample floor Mcp3204.channel1) := by
          rw [Facing.observed, hNext]
        rw [hObserved] at h
        cases h
        exact ⟨sample_small (hFloor _).1 (hFloor _).2 _, sample_small (hFloor _).1 (hFloor _).2 _⟩
      next => cases h
    | _ => cases h

/-- The samples that the filter of a run takes. -/
def filterCalls (floor : Fin 2 → Word) (s : Facing) (happenings : List Happening) : List (Nlms.Sample × Nlms.Sample) :=
  StepRun.emitted (Facing.step floor) (Facing.filtered floor) s happenings

/-- With the noise floor that `ADCinit` finds in a quiet room, nothing overflows on the way from the converter to the
audio sample, in no run of the board: it is the exact difference of the voice and the filtered noise. -/
theorem audio_exact {wiring : (ChipName → Option Byte) → Byte} (hWiring : SerialBus.Faithful wiring)
    (found : Nat → Fin 2 → Mcp3204.Inputs) (bench : Bench)
    (hQuiet : ∀ ch, Mcp3204.total (Mcp3204.readings wiring found (Mcp3204.reset bench) ch) < 32768)
    (voiceFirst : Bool) (beyond : Nat → Lcd.LCDtext) (world : Outside) (undriven : Byte) (happenings : List Happening) :
    let floor := (Mcp3204.adcInit wiring found (Mcp3204.reset bench)).noisefloor
    let w := StepRun.run (Wired.step wiring floor voiceFirst) (Wired.start wiring beyond world undriven) happenings
    let calls := filterCalls floor ⟨entry beyond, world, false⟩ happenings
    w.firmware.filter = Nlms.after calls ∧ StepRun.Along Nlms.call Nlms.FilterExact Nlms.initial calls ∧
      ∀ earlier last, calls = earlier ++ [last] →
        w.firmware.audioSample.toInt = Nlms.exactError (Nlms.after earlier) last := by
  intro floor w calls
  have hFloor : ∀ ch, 0 ≤ (floor ch).toInt ∧ (floor ch).toInt ≤ 4095 := by
    intro ch
    have hMean : (floor ch).toInt = _ := (Mcp3204.mean_iff (a := Mcp3204.reset bench) rfl).mpr (hQuiet ch)
    obtain ⟨hLow, hHigh⟩ := Mcp3204.readings_total wiring found (Mcp3204.reset bench) ch
    omega
  have hExact : StepRun.Along Nlms.call Nlms.FilterExact Nlms.initial calls :=
    Nlms.run_exact_of_small (StepRun.emitted_forall (filtered_small hFloor) _ happenings)
  have hProject := StepRun.project_run (Facing.filtered floor) filterCall
    (fun s : Facing => (s.firmware.filter, s.firmware.audioSample)) (facing_filtered floor) ⟨entry beyond, world, false⟩
    happenings
  have hFirmware : w.firmware = (StepRun.run (Facing.step floor) ⟨entry beyond, world, false⟩ happenings).firmware :=
    (run_matches hWiring floor voiceFirst beyond world undriven happenings).1
  have hOutput : (w.firmware.filter, w.firmware.audioSample) = calls.foldl filterCall (Nlms.initial, 0) := by
    rw [hFirmware]
    exact hProject
  refine ⟨(congrArg Prod.fst hOutput).trans (filterCalls_filter _ calls), hExact, ?_⟩
  intro earlier last hCalls
  rw [hCalls, StepRun.along_append] at hExact
  have hLast : Nlms.FilterExact (Nlms.after earlier) last := hExact.2.1
  have hFits := (Nlms.filterExact_iff _ last).mp hLast
  have hSample : w.firmware.audioSample = (Nlms.nlms (Nlms.after earlier) last.1 last.2).2 := by
    rw [hCalls, List.foldl_append] at hOutput
    have hFilter := filterCalls_filter (Nlms.initial, 0) earlier
    rw [Nlms.after, ← hFilter]
    exact congrArg Prod.snd hOutput
  rw [hSample, hLast.error, FixedPoint.saturate_eq hFits.error]

/-- The third button is held while somebody speaks. -/
def speaking : Outside := ⟨fun _ => 0x0B, fun channel => if channel = 0 then 0x700 else 0x650⟩

theorem audio_exact_speaking :
    let floor := (Mcp3204.adcInit wiredAnd Mcp3204.humming (Mcp3204.reset Mcp3204.bench)).noisefloor
    let w := StepRun.run (Wired.step wiredAnd floor true) (Wired.start wiredAnd (fun _ => Lcd.blank) speaking 0xFF)
      (held.map .firmware)
    let calls := filterCalls floor ⟨entry fun _ => Lcd.blank, speaking, false⟩ (held.map .firmware)
    w.firmware.filter = Nlms.after calls ∧ StepRun.Along Nlms.call Nlms.FilterExact Nlms.initial calls ∧
      ∀ earlier last, calls = earlier ++ [last] →
        w.firmware.audioSample.toInt = Nlms.exactError (Nlms.after earlier) last :=
  audio_exact wiredAnd_faithful Mcp3204.humming Mcp3204.bench Mcp3204.humming_quiet true (fun _ => Lcd.blank) speaking
    0xFF (held.map .firmware)

end WheelDisplay.Firmware
