import WheelDisplay.Firmware.MainLoop
import WheelDisplay.Usb.SampleTimer

/-! # The sample timer over whole runs

Every run of the main loop is a sequence of accesses to the endpoint registers that writes
nothing to the streaming endpoint. The timer may interrupt it between any two of them.
-/

namespace WheelDisplay.Firmware

open Lcd Usb

theorem step_reaches (f : Firmware) (e : Event) : Reaches f.device.endpoints (f.step e).device.endpoints := by
  cases e with
  | setup r => exact (Reaches.refl _).receive r
  | suspend => exact Reaches.refl _
  | wakeUp => exact Reaches.refl _
  | reset => exact (Reaches.refl _).configure 0
  | startOfFrame => exact Reaches.refl _
  | task found =>
    rw [step, runTask]
    cases f.next with
    | hid => exact Hid.usbTask_reaches ..
    | usb => exact usbTask_reaches ..
    | body =>
      obtain ⟨pending, hBody⟩ := body_device found.voice found.noise f
      dsimp only
      rw [hBody]
      exact Reaches.refl _

theorem run_reaches (beyond : Nat → LCDtext) (events : List Event) :
    Reaches Usb.initial.endpoints (run beyond events).device.endpoints :=
  StepRun.run_invariant (fun f => Reaches Usb.initial.endpoints f.device.endpoints)
    (fun f e hReaches => hReaches.trans (step_reaches f e)) (Reaches.refl _) events

/-- Wherever the timer interrupts the run, the main loop finds and leaves what it does without the interrupt, and
the stream is packets of 32 samples: those accepted since the endpoint was last emptied, in their order. -/
theorem sample_timer_transparent (beyond : Nat → LCDtext) (events : List Event) :
    ∃ accesses, StepRun.run Access.perform Usb.initial.endpoints accesses = (run beyond events).device.endpoints ∧
      ∀ moments : List Moment, moments.filterMap Moment.access? = accesses →
        let e := StepRun.run Moment.step Usb.initial.endpoints moments
        Same e (run beyond events).device.endpoints ∧
          e.log.filter mainEntry = (run beyond events).device.endpoints.log ∧
            ∃ f : Feed, f.Whole ∧ streamFifo e.log = f.fifo ∧
              f = StepRun.run Feed.step ⟨[], []⟩
                (StepRun.emitted Moment.step feeding Usb.initial.endpoints moments) := by
  obtain ⟨accesses, hRun, hSpares⟩ := run_reaches beyond events
  refine ⟨accesses, hRun, ?_⟩
  rintro moments rfl
  have hSame := Same.refl Usb.initial.endpoints
  have hEmpty : Carries Usb.initial.endpoints ⟨[], []⟩ :=
    ⟨rfl, (by decide : 0 < samplesInPacket), List.forall_mem_nil _⟩
  have hMain : ∀ entry ∈ (run beyond events).device.endpoints.log, mainEntry entry = true := by
    rw [← hRun]
    exact StepRun.run_invariant_along (fun e => ∀ entry ∈ e.log, mainEntry entry = true)
      (fun _ _ hLog hSpare => perform_main hSpare hLog) (List.forall_mem_nil _) hSpares
  have hInterrupted := run_same moments hSame
  rw [hRun] at hInterrupted
  obtain ⟨hFifo, hWhole⟩ := run_carries moments hSame hSpares hEmpty
  exact ⟨hInterrupted, hInterrupted.log.trans (List.filter_eq_self.mpr hMain), _, hWhole, hFifo, rfl⟩

end WheelDisplay.Firmware
