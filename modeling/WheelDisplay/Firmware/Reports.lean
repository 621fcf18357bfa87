import WheelDisplay.Firmware.ButtonEdge
import WheelDisplay.Usb.Standing

/-! # What the host is told

The host knows the device by its reports and by the answers to GET_IDLE, GET_PROTOCOL
and GET_CONFIGURATION. `View` says what these are, without the device: the idle period
in the 4 ms of the requests, and frames counted instead of a countdown. A period that
is set counts from the next report on; the one before it ends as it was.
-/

namespace WheelDisplay.Firmware

open Lcd Usb Standing

/-- `answered` says whether the data stage of a request gets as far as a packet. -/
inductive Exchange where
  | request (buttons : Byte) (answered : Bool) (r : Request)
  | poll (buttons : Byte)
  | frame
  | reset

/-- `loaded` is the idle period that was set when the HID task last sent a report, and `elapsed` the
frames since. -/
structure View where
  last : Byte
  idle : Byte
  loaded : Byte
  elapsed : Nat
  reportProtocol : Bool
  configuration : Byte

def reportOf (buttons : Byte) : Report := ⟨buttons.setWidth 16, 0⟩

namespace View

def start : View := ⟨0, 0, 0, 0, false, 0⟩

def sends (buttons : Byte) (v : View) : Prop := buttons ≠ v.last ∨ v.idle ≠ 0 ∧ 4 * v.loaded.toNat ≤ v.elapsed

instance (buttons : Byte) (v : View) : Decidable (v.sends buttons) := inferInstanceAs (Decidable (_ ∨ _ ∧ _))

def tells (v : View) : Exchange → Option Told
  | .request buttons answered r =>
    if isHid hidReqGetReport Hid.fromInterface r then
      if r.wLength ≠ 0 ∧ answered = true then some (.report 0 ((reportOf buttons).bytes.take r.wLength.toNat)) else none
    else if isHid hidReqGetProtocol Hid.fromInterface r then some (.byte 0 (if v.reportProtocol then 1 else 0))
    else if isHid hidReqGetIdle Hid.fromInterface r then some (.byte 0 v.idle)
    else if isGetConfiguration r then some (.byte 0 v.configuration)
    else none
  | .poll buttons => if v.sends buttons then some (.report 1 (reportOf buttons).bytes) else none
  | _ => none

def step (v : View) : Exchange → View
  | .request buttons _ r =>
    if isHid hidReqGetReport Hid.fromInterface r then { v with last := buttons }
    else if isHid hidReqSetProtocol Hid.toInterface r then { v with reportProtocol := r.wValue &&& 0xFF != 0 }
    else if isHid hidReqSetIdle Hid.toInterface r then { v with idle := (r.wValue >>> 8).setWidth 8 }
    else if isSetConfiguration r then
      { v with idle := 125, loaded := 0, reportProtocol := true, configuration := r.wValue.setWidth 8 }
    else v
  | .poll buttons =>
    if v.sends buttons then { v with last := buttons, loaded := v.idle, elapsed := 0 } else { v with last := buttons }
  | .frame => { v with elapsed := v.elapsed + 1 }
  | .reset => { v with configuration := 0 }

end View

/-- What the step is to the host. -/
def exchange (f : Firmware) : Event → Option Exchange
  | .task found =>
    match f.next with
    | .hid => (Hid.sampledBy found.frameNumber found.ready found.buttons f.device).map .poll
    | .usb => (takenUp f.device).map (.request found.host.buttons (offered found.host.polls))
    | .body => none
  | .startOfFrame => some .frame
  | .reset => some .reset
  | _ => none

/-- The device stands as the view says. -/
structure StandsAs (v : View) (s : Standing) : Prop where
  report : s.prevReport = reportOf v.last
  idle : s.hid.idleCount = v.idle.setWidth 16 <<< 2
  remaining : s.hid.idleMSRemaining.toNat = 4 * v.loaded.toNat - v.elapsed
  protocol : s.hid.usingReportProtocol = v.reportProtocol
  configuration : s.configurationNumber = v.configuration

theorem idlePeriod_toNat (idle : Byte) : ((idle.setWidth 16 <<< 2 : Word)).toNat = 4 * idle.toNat := by
  revert idle
  decide +kernel

theorem idlePeriod_told (idle : Byte) : (((idle.setWidth 16 <<< 2 : Word)) >>> 2).setWidth 8 = idle := by
  revert idle
  decide +kernel

theorem idlePeriod_set (wValue : Word) :
    (wValue &&& 0xFF00) >>> 6 = (((wValue >>> 8).setWidth 8 : Byte).setWidth 16 <<< 2 : Word) := by
  apply BitVec.eq_of_getLsbD_eq
  intro i hi
  interval_cases i <;> simp

theorem idlePeriod_ne_zero (idle : Byte) : (idle.setWidth 16 <<< 2 : Word) ≠ 0 ↔ idle ≠ 0 := by
  revert idle
  decide +kernel

theorem millisecondElapsed_remaining (d : Device) :
    (Hid.millisecondElapsed d).hid.idleMSRemaining.toNat = d.hid.idleMSRemaining.toNat - 1 := by
  rw [Hid.millisecondElapsed]
  dsimp only
  split
  next hZero =>
    rw [hZero]
    rfl
  next hPositive =>
    have hOne : 1 ≤ d.hid.idleMSRemaining.toNat := by
      rw [Nat.one_le_iff_ne_zero]
      exact fun hZero => hPositive (BitVec.eq_of_toNat_eq hZero)
    exact BitVec.toNat_sub_of_le hOne

section Exchanges

variable {v : View} {s : Standing} (h : StandsAs v s)
include h

theorem StandsAs.after_frame {s' : Standing} (hReport : s'.prevReport = s.prevReport)
    (hIdle : s'.hid.idleCount = s.hid.idleCount)
    (hRemaining : s'.hid.idleMSRemaining.toNat = s.hid.idleMSRemaining.toNat - 1)
    (hProtocol : s'.hid.usingReportProtocol = s.hid.usingReportProtocol)
    (hConfiguration : s'.configurationNumber = s.configurationNumber) : StandsAs (v.step .frame) s' where
  report := hReport.trans h.report
  idle := hIdle.trans h.idle
  remaining := by
    rw [hRemaining, h.remaining]
    exact Nat.sub_sub ..
  protocol := hProtocol.trans h.protocol
  configuration := hConfiguration.trans h.configuration

theorem StandsAs.sends_iff (buttons : Byte) :
    v.sends buttons ↔ reportOf buttons ≠ s.prevReport ∨ Hid.idlePeriodElapsed s.hid = true := by
  have hReport : reportOf buttons ≠ s.prevReport ↔ buttons ≠ v.last := by
    have hAll : ∀ a b : Byte, reportOf a = reportOf b ↔ a = b := by
      intro a b
      rw [reportOf, reportOf, Report.mk.injEq, and_iff_left rfl]
      refine ⟨fun hWord => ?_, fun hByte => hByte ▸ rfl⟩
      simpa using congrArg (BitVec.setWidth 8) hWord
    rw [h.report, ne_eq, hAll]
  have hRemaining : s.hid.idleMSRemaining = 0 ↔ 4 * v.loaded.toNat ≤ v.elapsed := by
    rw [← Nat.sub_eq_zero_iff_le, ← h.remaining, BitVec.toNat_eq]
    rfl
  rw [View.sends, hReport, Hid.idlePeriodElapsed, Bool.and_eq_true, bne_iff_ne, beq_iff_eq, hRemaining, h.idle,
    idlePeriod_ne_zero]

theorem StandsAs.poll (frameNumber : Word) (buttons : Byte) :
    (s.poll frameNumber buttons).told = (v.tells (.poll buttons)).toList ++ s.told ∧
      StandsAs (v.step (.poll buttons)) (s.poll frameNumber buttons) := by
  rw [Standing.poll, View.tells, View.step]
  dsimp only
  split
  next hSend =>
    rw [if_pos ((h.sends_iff buttons).mpr hSend), if_pos ((h.sends_iff buttons).mpr hSend)]
    refine ⟨rfl, rfl, h.idle, ?_, h.protocol, h.configuration⟩
    change s.hid.idleCount.toNat = _
    rw [h.idle, idlePeriod_toNat]
    rfl
  next hSilent =>
    rw [if_neg (mt (h.sends_iff buttons).mp hSilent), if_neg (mt (h.sends_iff buttons).mp hSilent)]
    exact ⟨rfl, rfl, h.idle, h.remaining, h.protocol, h.configuration⟩

theorem StandsAs.requestReport (buttons : Byte) (answered : Bool) (wLength : Word) :
    StandsAs { v with last := buttons } (s.requestReport buttons answered wLength) := by
  rw [Standing.requestReport]
  split <;> exact ⟨rfl, h.idle, h.remaining, h.protocol, h.configuration⟩

theorem StandsAs.request (buttons : Byte) (answered : Bool) (r : Request) :
    (s.request buttons answered r).told = (v.tells (.request buttons answered r)).toList ++ s.told ∧
      StandsAs (v.step (.request buttons answered r)) (s.request buttons answered r) := by
  have hCode : ∀ {code code' type type' : Byte}, isHid code type r → code' ≠ code → ¬ isHid code' type' r :=
    fun hIs hNe hOther => hNe (hOther.2.1.symm.trans hIs.2.1)
  rw [Standing.request, Standing.requestHid, Standing.requestStandard, View.tells, View.step]
  dsimp only
  split
  next hIs =>
    have hFrom : ∀ code, ¬ isHid code Hid.fromInterface r :=
      fun _ hOther => absurd (hIs.2.symm.trans hOther.2.2) (by decide)
    have hTo : ∀ code, ¬ isHid code Hid.toInterface r :=
      fun _ hOther => absurd (hIs.2.symm.trans hOther.2.2) (by decide)
    have hSet : ¬ isSetConfiguration r := fun hSet => absurd (hIs.1.symm.trans hSet.1) (by decide)
    simp only [hFrom, hTo, hSet, if_false]
    rw [h.configuration]
    exact ⟨rfl, h.report, h.idle, h.remaining, h.protocol, h.configuration⟩
  split
  next hIs =>
    have hFrom : ∀ code, ¬ isHid code Hid.fromInterface r :=
      fun _ hOther => absurd (hIs.2.1.symm.trans hOther.2.2) (by decide)
    have hTo : ∀ code, ¬ isHid code Hid.toInterface r :=
      fun _ hOther => absurd (hIs.2.1.symm.trans hOther.2.2) (by decide)
    simp only [hFrom, hTo, if_false]
    exact ⟨rfl, h.report, rfl, (Nat.zero_sub _).symm, rfl, rfl⟩
  split
  next hIs =>
    refine ⟨?_, h.requestReport buttons answered r.wLength⟩
    rw [Standing.requestReport]
    split <;> rfl
  split
  next hIs =>
    rw [if_neg (hCode hIs (by decide)), if_neg (hCode hIs (by decide)), h.protocol]
    exact ⟨rfl, h.report, h.idle, h.remaining, h.protocol, h.configuration⟩
  split
  next hIs =>
    rw [if_neg (hCode hIs (by decide))]
    exact ⟨rfl, h.report, h.idle, h.remaining, rfl, h.configuration⟩
  split
  next hIs =>
    rw [if_neg (hCode hIs (by decide))]
    exact ⟨rfl, h.report, idlePeriod_set r.wValue, h.remaining, h.protocol, h.configuration⟩
  split
  next =>
    rw [h.idle, idlePeriod_told]
    exact ⟨rfl, h.report, h.idle, h.remaining, h.protocol, h.configuration⟩
  next => exact ⟨rfl, h.report, h.idle, h.remaining, h.protocol, h.configuration⟩

end Exchanges

/-- All that the host has been told, the earliest first. -/
def told (f : Firmware) : List Told := f.device.endpoints.told.reverse

theorem told_of_standing {d d' : Device} {m : Option Told}
    (h : d'.standing.told = m.toList ++ d.standing.told) :
    d'.endpoints.told.reverse = d.endpoints.told.reverse ++ m.toList := by
  change d'.endpoints.told = m.toList ++ d.endpoints.told at h
  rw [h, List.reverse_append]
  cases m <;> rfl

theorem step_standsAs (f : Firmware) (v : View) (e : Event) (h : StandsAs v f.device.standing) :
    told (f.step e) = told f ++ ((exchange f e).bind v.tells).toList ∧
      StandsAs ((exchange f e).elim v v.step) (f.step e).device.standing := by
  cases e with
  | task found =>
    rw [step, runTask, exchange]
    cases hNext : f.next with
    | hid =>
      have hStanding := Hid.usbTask_standing found.frameNumber found.ready found.buttons f.device
      cases hSample : Hid.sampledBy found.frameNumber found.ready found.buttons f.device with
      | none =>
        rw [hSample] at hStanding
        refine ⟨told_of_standing (m := none) (congrArg Standing.told hStanding), ?_⟩
        exact hStanding ▸ h
      | some buttons =>
        rw [hSample] at hStanding
        obtain ⟨hTold, hStands⟩ := h.poll found.frameNumber buttons
        exact ⟨told_of_standing ((congrArg Standing.told hStanding).trans hTold), hStanding ▸ hStands⟩
    | usb =>
      have hStanding := usbTask_standing found.host f.device
      cases hTaken : takenUp f.device with
      | none =>
        rw [hTaken] at hStanding
        refine ⟨told_of_standing (m := none) (congrArg Standing.told hStanding), ?_⟩
        exact hStanding ▸ h
      | some r =>
        rw [hTaken] at hStanding
        obtain ⟨hTold, hStands⟩ := h.request found.host.buttons (offered found.host.polls) r
        exact ⟨told_of_standing ((congrArg Standing.told hStanding).trans hTold), hStanding ▸ hStands⟩
    | body =>
      obtain ⟨pending, hBody⟩ := body_device found.voice found.noise f
      have hStanding : (body found.voice found.noise f).device.standing = f.device.standing := by
        rw [hBody]
        rfl
      exact ⟨told_of_standing (m := none) (congrArg Standing.told hStanding), hStanding ▸ h⟩
  | startOfFrame =>
    exact ⟨(List.append_nil _).symm, h.after_frame rfl rfl (millisecondElapsed_remaining f.device) rfl rfl⟩
  | reset => exact ⟨(List.append_nil _).symm, h.report, h.idle, h.remaining, h.protocol, rfl⟩
  | _ => exact ⟨(List.append_nil _).symm, h⟩

theorem entry_standsAs (beyond : Nat → LCDtext) : StandsAs View.start (entry beyond).device.standing :=
  ⟨rfl, rfl, rfl, rfl, rfl⟩

/-- The reports and the answers of a run are, in their order, those of the view that takes the same
requests, polls and frames. -/
theorem host_told (beyond : Nat → LCDtext) (events : List Event) :
    told (run beyond events) =
      StepRun.emitted View.step View.tells View.start (StepRun.emitted Firmware.step exchange (entry beyond) events) :=
  (StepRun.run_refines exchange View.tells told (fun f v => StandsAs v f.device.standing)
    (fun f v e h => step_standsAs f v e h) (entry_standsAs beyond) events).1

/-- The report whose memory a packet holds. -/
def reportIn : List Byte → Option Report
  | [low, high, fix] => some ⟨high.setWidth 16 <<< 8 ||| low.setWidth 16, fix⟩
  | _ => none

theorem reportIn_bytes (report : Report) : reportIn report.bytes = some report := by
  have hWord : ∀ w : Word, ((w >>> 8).setWidth 8).setWidth 16 <<< 8 ||| (w.setWidth 8).setWidth 16 = w := by
    intro w
    apply BitVec.eq_of_getLsbD_eq
    intro i hi
    interval_cases i <;> simp
  rw [Report.bytes, reportIn, hWord]

def buttonsTold : Told → Option Word
  | .report _ packet => (reportIn packet).map Report.button
  | .byte .. => none

/-- The buttons of the last whole report, none held before the first. -/
def pictured (messages : List Told) : Word := ((messages.filterMap buttonsTold).getLast?).getD 0

theorem pictured_append (messages : List Told) (message : Told) :
    pictured (messages ++ [message]) = (buttonsTold message).getD (pictured messages) := by
  rw [pictured, List.filterMap_append]
  cases hTold : buttonsTold message <;> simp [hTold, pictured]

theorem pictured_report (messages : List Told) (endpoint : Byte) (report : Report) :
    pictured (messages ++ [.report endpoint report.bytes]) = report.button := by
  rw [pictured_append, buttonsTold, reportIn_bytes]
  rfl

def Exchange.sample : Exchange → Option Byte
  | .request buttons _ r => if isGetReport r then some buttons else none
  | .poll buttons => some buttons
  | _ => none

theorem exchange_sampled (f : Firmware) (e : Event) : sampled f e = (exchange f e).bind Exchange.sample := by
  cases e with
  | task found =>
    rw [sampled, exchange]
    cases f.next with
    | hid =>
      dsimp only
      cases Hid.sampledBy found.frameNumber found.ready found.buttons f.device <;> rfl
    | usb =>
      dsimp only
      cases takenUp f.device <;> rfl
    | body => rfl
  | _ => rfl

theorem View.step_last (v : View) (x : Exchange) : (v.step x).last = x.sample.getD v.last := by
  cases x with
  | request buttons answered r =>
    rw [View.step, Exchange.sample]
    split
    next hGet => rw [if_pos (show isGetReport r from hGet)]; rfl
    next hOther =>
      rw [if_neg (show ¬ isGetReport r from hOther)]
      split_ifs <;> rfl
  | poll buttons =>
    rw [View.step]
    split <;> rfl
  | _ => rfl

/-- A report that is asked for goes out whole. -/
def Exchange.delivers : Exchange → Prop
  | .request _ answered r => isGetReport r → 3 ≤ r.wLength.toNat ∧ answered = true
  | _ => True

instance (x : Exchange) : Decidable x.delivers :=
  match x with
  | .request _ answered r => inferInstanceAs (Decidable (isGetReport r → 3 ≤ r.wLength.toNat ∧ answered = true))
  | .poll _ => isTrue trivial
  | .frame => isTrue trivial
  | .reset => isTrue trivial

def Delivers (f : Firmware) (e : Event) : Prop := ∀ x ∈ exchange f e, x.delivers

instance (f : Firmware) (e : Event) : Decidable (Delivers f e) :=
  inferInstanceAs (Decidable (∀ x ∈ exchange f e, x.delivers))

/-- What is not told is what the host knows already. -/
theorem View.pictured_step {v : View} {messages : List Told} (h : pictured messages = v.last.setWidth 16)
    {x : Exchange} (hDelivers : x.delivers) :
    pictured (messages ++ (v.tells x).toList) = (v.step x).last.setWidth 16 := by
  have hNone : pictured (messages ++ []) = v.last.setWidth 16 := by rw [List.append_nil, h]
  rw [View.step_last]
  cases x with
  | request buttons answered r =>
    rw [View.tells, Exchange.sample]
    split
    next hGet =>
      obtain ⟨hWhole, hAnswered⟩ := hDelivers hGet
      have hSome : r.wLength ≠ 0 := by
        rintro hNone
        rw [hNone] at hWhole
        exact absurd hWhole (by decide)
      rw [if_pos (show isGetReport r from hGet), if_pos ⟨hSome, hAnswered⟩,
        List.take_of_length_le (Report.bytes_length _ ▸ hWhole)]
      exact pictured_report ..
    next hOther =>
      rw [if_neg (show ¬ isGetReport r from hOther)]
      split_ifs
      · exact (pictured_append ..).trans h
      · exact (pictured_append ..).trans h
      · exact (pictured_append ..).trans h
      · exact (pictured_append ..).trans h
      · exact hNone
  | poll buttons =>
    rw [View.tells]
    split
    · exact pictured_report ..
    next hSilent =>
      have hSame : buttons = v.last := not_not.mp fun hNe => hSilent (.inl hNe)
      rw [hSame]
      exact hNone
  | _ => exact hNone

theorem View.run_last (v : View) (exchanges : List Exchange) :
    (StepRun.run View.step v exchanges).last = ((exchanges.filterMap Exchange.sample).getLast?).getD v.last := by
  induction exchanges generalizing v with
  | nil => rfl
  | cons x rest ih =>
    rw [StepRun.run_cons, ih, View.step_last, List.filterMap_cons]
    cases x.sample with
    | none => rfl
    | some buttons => rw [List.getLast?_cons, Option.getD_some, Option.getD_some]

/-- The second button is held while the host asks for the report. -/
def asked (wLength : Word) : List Event :=
  [.wakeUp, .reset, .setup ⟨Hid.fromInterface, hidReqGetReport, 0x0100, hidInterfaceNumber, wLength⟩, .task idle,
    .task { idle with host := { patient with polls := [⟨.default, false, none, true⟩], buttons := 0x02 } }]

-- A host that asks for no byte gets none, but the sample still counts as reported.
example : told (run (fun _ => blank) (asked 0)) = [] ∧
    (run (fun _ => blank) (asked 0)).device.prevReport = reportOf 0x02 := ⟨rfl, by decide +kernel⟩

/-- The HID task writes a report that says the same as the one before it. -/
def repeats (f : Firmware) (e : Event) : Nat :=
  match exchange f e with
  | some (.poll buttons) =>
    if reportOf buttons = f.device.prevReport ∧ (told f).length < (told (f.step e)).length then 1 else 0
  | _ => 0

def frames (_ : Firmware) : Event → Nat
  | .startOfFrame => 1
  | _ => 0

/-- The request neither changes the idle period nor restarts the countdown. -/
def Exchange.keepsPeriod : Exchange → Prop
  | .request _ _ r => ¬ (isHid hidReqSetIdle Hid.toInterface r ∨ isSetConfiguration r)
  | _ => True

instance (x : Exchange) : Decidable x.keepsPeriod :=
  match x with
  | .request _ _ r =>
    inferInstanceAs (Decidable (¬ (isHid hidReqSetIdle Hid.toInterface r ∨ isSetConfiguration r)))
  | .poll _ => isTrue trivial
  | .frame => isTrue trivial
  | .reset => isTrue trivial

def KeepsPeriod (f : Firmware) (e : Event) : Prop := ∀ x ∈ exchange f e, x.keepsPeriod

instance (f : Firmware) (e : Event) : Decidable (KeepsPeriod f e) :=
  inferInstanceAs (Decidable (∀ x ∈ exchange f e, x.keepsPeriod))

/-- The frames still to come before a report is repeated; a longer period from before does not count. -/
def countdown (period : Nat) (s : HidState) : Nat := min s.idleMSRemaining.toNat period

structure Paced (period : Nat) (f : Firmware) (e : Event) : Prop where
  kept : (f.step e).device.hid.idleCount.toNat = period
  pays : period * repeats f e + countdown period f.device.hid ≤ frames f e + countdown period (f.step e).device.hid
  off : period = 0 → repeats f e = 0

theorem Paced.of_hid {period : Nat} {f : Firmware} {e : Event} (hPeriod : f.device.hid.idleCount.toNat = period)
    (hRepeats : repeats f e = 0) (hFrames : frames f e = 0)
    (hCount : (f.step e).device.hid.idleCount = f.device.hid.idleCount)
    (hRemaining : (f.step e).device.hid.idleMSRemaining = f.device.hid.idleMSRemaining) : Paced period f e where
  kept := by rw [hCount, hPeriod]
  pays := by
    rw [hRepeats, hFrames, countdown, countdown, hRemaining]
    omega
  off := fun _ => hRepeats

theorem Paced.of_poll {period : Nat} {f : Firmware} {e : Event} {frameNumber : Word} {buttons : Byte}
    (hPeriod : f.device.hid.idleCount.toNat = period) (hFrames : frames f e = 0)
    (hExchange : exchange f e = some (.poll buttons))
    (hStanding : (f.step e).device.standing = f.device.standing.poll frameNumber buttons) : Paced period f e := by
  have hCount : (f.step e).device.hid.idleCount = f.device.hid.idleCount := by
    refine (congrArg (·.hid.idleCount) hStanding).trans ?_
    rw [Standing.poll]
    dsimp only
    split <;> rfl
  have hGrown : ∀ n, (f.step e).device.standing.told.length = f.device.standing.told.length + n →
      (told (f.step e)).length = (told f).length + n := by
    intro n hLength
    rw [told, told, List.length_reverse, List.length_reverse]
    exact hLength
  rw [Standing.poll] at hStanding
  dsimp only at hStanding
  split at hStanding
  next hSend =>
    have hLength := hGrown 1 (congrArg (·.told.length) hStanding)
    have hRemaining : (f.step e).device.hid.idleMSRemaining = f.device.hid.idleCount :=
      congrArg (·.hid.idleMSRemaining) hStanding
    have hCountdown : countdown period (f.step e).device.hid = period := by
      rw [countdown, hRemaining, hPeriod, Nat.min_self]
    have hRepeats : repeats f e = if reportOf buttons = f.device.prevReport then 1 else 0 := by
      simp only [repeats, hExchange, hLength, Nat.lt_add_one, and_true]
    obtain hChanged | hElapsed := hSend
    · have hZero : repeats f e = 0 := hRepeats.trans (if_neg hChanged)
      refine ⟨hCount ▸ hPeriod, ?_, fun _ => hZero⟩
      rw [hZero, hFrames, hCountdown, countdown]
      omega
    · obtain ⟨hOn, hOver⟩ := Bool.and_eq_true_iff.mp hElapsed
      have hNow : countdown period f.device.hid = 0 := by
        have hRemainingZero : f.device.hid.idleMSRemaining = 0 := eq_of_beq hOver
        rw [countdown, hRemainingZero]
        exact Nat.zero_min _
      have hAtMost : repeats f e ≤ 1 := by
        rw [hRepeats]
        split <;> decide
      refine ⟨hCount ▸ hPeriod, ?_, ?_⟩
      · rw [hNow, hFrames, hCountdown]
        have hPays := Nat.mul_le_mul_left period hAtMost
        omega
      · rintro rfl
        exact absurd (BitVec.eq_of_toNat_eq hPeriod) (bne_iff_ne.mp hOn)
  next hSilent =>
    have hLength := hGrown 0 (congrArg (·.told.length) hStanding)
    refine .of_hid hPeriod ?_ hFrames hCount (congrArg (·.hid.idleMSRemaining) hStanding)
    simp only [repeats, hExchange, hLength, Nat.add_zero, lt_irrefl, and_false, if_false]

theorem Standing.request_period {r : Request} (hIdle : ¬ isHid hidReqSetIdle Hid.toInterface r)
    (hConfiguration : ¬ isSetConfiguration r) (buttons : Byte) (answered : Bool) (s : Standing) :
    (s.request buttons answered r).hid.idleCount = s.hid.idleCount ∧
      (s.request buttons answered r).hid.idleMSRemaining = s.hid.idleMSRemaining := by
  rw [Standing.request, Standing.requestStandard, Standing.requestHid, Standing.requestReport, if_neg hIdle,
    if_neg hConfiguration]
  split_ifs <;> exact ⟨rfl, rfl⟩

section Tasks

variable {period : Nat} {f : Firmware} (hPeriod : f.device.hid.idleCount.toNat = period)
include hPeriod

theorem hid_paced (found : Surroundings) (hNext : f.next = .hid) : Paced period f (.task found) := by
  have hExchange : exchange f (.task found) =
      (Hid.sampledBy found.frameNumber found.ready found.buttons f.device).map .poll := by
    rw [exchange, hNext]
  have hStanding : (f.step (.task found)).device.standing =
      (Hid.sampledBy found.frameNumber found.ready found.buttons f.device).elim f.device.standing
        (f.device.standing.poll found.frameNumber) := by
    rw [step, runTask, hNext]
    exact Hid.usbTask_standing ..
  cases hSample : Hid.sampledBy found.frameNumber found.ready found.buttons f.device with
  | none =>
    rw [hSample] at hExchange hStanding
    refine .of_hid hPeriod ?_ rfl (congrArg (·.hid.idleCount) hStanding) (congrArg (·.hid.idleMSRemaining) hStanding)
    rw [repeats, hExchange, Option.map_none]
  | some buttons =>
    rw [hSample] at hExchange hStanding
    exact .of_poll hPeriod rfl hExchange hStanding

theorem usb_paced {found : Surroundings} (hKeeps : KeepsPeriod f (.task found)) (hNext : f.next = .usb) :
    Paced period f (.task found) := by
  have hExchange : exchange f (.task found) =
      (takenUp f.device).map (.request found.host.buttons (offered found.host.polls)) := by
    rw [exchange, hNext]
  have hRepeats : repeats f (.task found) = 0 := by
    rw [repeats, hExchange]
    cases takenUp f.device <;> rfl
  have hStanding := usbTask_standing found.host f.device
  have hHid : (f.step (.task found)).device.hid.idleCount = f.device.hid.idleCount ∧
      (f.step (.task found)).device.hid.idleMSRemaining = f.device.hid.idleMSRemaining := by
    rw [step, runTask, hNext]
    cases hTaken : takenUp f.device with
    | none =>
      rw [hTaken] at hStanding
      exact ⟨congrArg (·.hid.idleCount) hStanding, congrArg (·.hid.idleMSRemaining) hStanding⟩
    | some r =>
      rw [hTaken] at hStanding
      have hKept := hKeeps (.request found.host.buttons (offered found.host.polls) r) (by rw [hExchange, hTaken]; rfl)
      obtain ⟨hIdle, hConfiguration⟩ := not_or.mp hKept
      obtain ⟨hCount, hRemaining⟩ := Standing.request_period hIdle hConfiguration found.host.buttons
        (offered found.host.polls) f.device.standing
      exact ⟨(congrArg (·.hid.idleCount) hStanding).trans hCount,
        (congrArg (·.hid.idleMSRemaining) hStanding).trans hRemaining⟩
  exact .of_hid hPeriod hRepeats rfl hHid.1 hHid.2

theorem body_paced (found : Surroundings) (hNext : f.next = .body) : Paced period f (.task found) := by
  have hRepeats : repeats f (.task found) = 0 := by rw [repeats, exchange, hNext]
  obtain ⟨pending, hBody⟩ := body_device found.voice found.noise f
  have hHid : (f.step (.task found)).device.hid = f.device.hid := by
    rw [step, runTask, hNext]
    change (body found.voice found.noise f).device.hid = _
    rw [hBody]
  exact .of_hid hPeriod hRepeats rfl (congrArg HidState.idleCount hHid) (congrArg HidState.idleMSRemaining hHid)

theorem frame_paced : Paced period f .startOfFrame := by
  refine ⟨hPeriod, ?_, fun _ => rfl⟩
  have hRemaining : (f.step .startOfFrame).device.hid.idleMSRemaining.toNat =
      f.device.hid.idleMSRemaining.toNat - 1 := millisecondElapsed_remaining f.device
  change period * 0 + countdown period f.device.hid ≤ 1 + countdown period (f.step .startOfFrame).device.hid
  rw [countdown, countdown, hRemaining]
  omega

theorem step_paced {e : Event} (hKeeps : KeepsPeriod f e) : Paced period f e := by
  cases e with
  | task found =>
    cases hNext : f.next with
    | hid => exact hid_paced hPeriod found hNext
    | usb => exact usb_paced hPeriod hKeeps hNext
    | body => exact body_paced hPeriod found hNext
  | startOfFrame => exact frame_paced hPeriod
  | _ => exact .of_hid hPeriod rfl rfl rfl rfl

end Tasks

/-- From any state on, as long as the host leaves the idle period alone, the repeated reports are a period
apart; with a period of zero there are none. -/
theorem idle_rate {f : Firmware} {events : List Event} (h : StepRun.Along step KeepsPeriod f events) :
    let period := f.device.hid.idleCount.toNat
    period * StepRun.tally step repeats f events ≤ StepRun.tally step frames f events + period ∧
      (period = 0 → StepRun.tally step repeats f events = 0) := by
  intro period
  have hPaced : StepRun.Along step (Paced period) f events :=
    StepRun.along_imp_of_invariant (fun f => f.device.hid.idleCount.toNat = period)
      (fun f e hPeriod hKeeps => (step_paced hPeriod hKeeps).kept) (fun f e hPeriod hKeeps => step_paced hPeriod hKeeps)
      rfl h
  refine ⟨?_, ?_⟩
  · have hPaid := StepRun.tally_le (StepRun.along_mono (fun f e hPace => hPace.pays) hPaced)
    rw [StepRun.tally_mul] at hPaid
    have hAtMost : countdown period (StepRun.run step f events).device.hid ≤ period := Nat.min_le_right ..
    omega
  · intro hOff
    exact StepRun.tally_eq_zero (StepRun.along_mono (fun f e hPace => hPace.off hOff) hPaced)

/-- A configured device with an idle period of 4 ms is polled before and after four frames. -/
def polledTwice : List Event :=
  [.task { idle with frameNumber := 1, ready := true }, .task idle, .task idle, .startOfFrame, .startOfFrame,
    .startOfFrame, .startOfFrame, .task { idle with frameNumber := 5, ready := true }]

def configured : Firmware :=
  { entry fun _ => blank with device := { initial with deviceState := .configured, hid := ⟨true, 0, 4, 0⟩ } }

theorem idle_rate_twice :
    configured.device.hid.idleCount.toNat * StepRun.tally step repeats configured polledTwice ≤
        StepRun.tally step frames configured polledTwice + configured.device.hid.idleCount.toNat ∧
      StepRun.tally step repeats configured polledTwice = 2 := by
  have hKeeps : StepRun.Along step KeepsPeriod configured polledTwice := by decide +kernel
  have hTwice : StepRun.tally step repeats configured polledTwice = 2 := by decide +kernel
  exact ⟨(idle_rate hKeeps).1, hTwice⟩

end WheelDisplay.Firmware
