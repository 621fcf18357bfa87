import WheelDisplay.Ks0108.Bus
import WheelDisplay.Lib.StepRun

/-! # The busy handshake of the KS0108 driver

`ks0108_readdata` returns the output latch it has just cleared, so the wait loop
of `ks0108_instruction` ends after one status read, whatever the controller
reports on the pins.
-/

namespace WheelDisplay.Ks0108

open Board

/-- Between calls EN is low and both chip selects are high. -/
structure Idle (b : Board) : Prop where
  disabled : b.pins.enabled = false
  released : ∀ c, b.pins.selects c = false

structure StatusRead (i : Byte) (b b' : Board) : Prop where
  idle : Idle b'
  latency : b'.latency = b.latency
  commands : b'.commands = b.commands
  busy : ∀ c, b'.pins.busy c = if i = number c then b.pins.busy c - 1 else b.pins.busy c
  strobes : ∀ c, strobes c b'.trace = strobes c b.trace
  pinLoads : pinLoads b'.trace = pinLoads b.trace

structure Written (i : Byte) (b b' : Board) : Prop where
  idle : Idle b'
  latency : b'.latency = b.latency
  commands : b'.commands = b.commands + 1
  busy : ∀ c, b'.pins.busy c = if i = number c then b.latency b.commands else b.pins.busy c
  strobes : ∀ c, strobes c b'.trace =
    if i = number c then b.pins.busy c :: strobes c b.trace else strobes c b.trace
  pinLoads : pinLoads b'.trace = pinLoads b.trace

/-- EN is low, and no controller but `i` is selected. -/
structure Held (i : Byte) (b : Board) : Prop where
  disabled : b.pins.enabled = false
  others : ∀ c, i ≠ number c → b.pins.selects c = false

theorem Idle.held {b : Board} (h : Idle b) (i : Byte) : Held i b := ⟨h.disabled, fun c _ => h.released c⟩

theorem Held.enable_selects {i : Byte} {b : Board} (h : Held i b) (c : Fin 2) :
    (ks0108ControllerEnable i b).pins.selects c = decide (i = number c) := by
  have hOther := h.others c
  by_cases h0 : i = 0
  · subst h0
    fin_cases c <;> simp_all [enable_portC, chipSelect, Pins.selects, number, cs1]
  · by_cases h1 : i = 1
    · subst h1
      fin_cases c <;> simp_all [enable_portC, chipSelect, Pins.selects, number, cs2]
    · rw [Pins.selects, enable_portC, chipSelect_other h0 h1]
      fin_cases c <;> simp_all [Pins.selects, number]

theorem enable_enabled (i : Byte) {b : Board} (h : Idle b) :
    (ks0108ControllerEnable i b).pins.enabled = false := by
  have hEnabled := h.disabled
  simp_all [Pins.enabled, enable_portC]

theorem enable_selects (i : Byte) {b : Board} (h : Idle b) (c : Fin 2) :
    (ks0108ControllerEnable i b).pins.selects c = decide (i = number c) := (h.held i).enable_selects c

theorem disable_idle (i : Byte) {b : Board} (hEnabled : b.pins.enabled = false)
    (hSelects : ∀ c, b.pins.selects c = decide (i = number c)) :
    Idle (ks0108ControllerDisable i b) := by
  have hFirst := hSelects 0
  have hSecond := hSelects 1
  by_cases h0 : i = 0
  · subst h0
    refine ⟨?_, fun c => ?_⟩
    · simp_all [Pins.enabled, disable_portC, chipSelect, cs1]
    · fin_cases c <;> simp_all [Pins.selects, disable_portC, chipSelect, cs1, number]
  · by_cases h1 : i = 1
    · subst h1
      refine ⟨?_, fun c => ?_⟩
      · simp_all [Pins.enabled, disable_portC, chipSelect, cs2]
      · fin_cases c <;> simp_all [Pins.selects, disable_portC, chipSelect, cs2, number]
    · refine ⟨?_, fun c => ?_⟩
      · rw [Pins.enabled, disable_portC, chipSelect_other h0 h1]
        simpa [Pins.enabled] using hEnabled
      · rw [Pins.selects, disable_portC, chipSelect_other h0 h1]
        fin_cases c <;> simp_all [Pins.selects, number]

theorem readStatus_value (i : Byte) (b : Board) : (readStatus i b).1 = 0 := rfl

def statusLines (i : Byte) (b : Board) : Board := (prepareRead i b).clearCtrl rs

def statusStrobe (i : Byte) (b : Board) : Board := (((statusLines i b).setCtrl en).load ks0108Data).2

theorem readStatus_snd (i : Byte) (b : Board) :
    (readStatus i b).2 = ks0108ControllerDisable i ((statusStrobe i b).clearCtrl en) := rfl

theorem statusLines_portC (i : Byte) (b : Board) :
    (statusLines i b).pins.portC = ((ks0108ControllerEnable i b).pins.portC ||| rw) &&& ~~~rs := rfl

theorem statusLines_quiet (i : Byte) (b : Board) : Quiet b (statusLines i b) := by
  have hLatch := ((enable_quiet i b).trans (quiet_storePortD _ 0x00)).trans (quiet_storeDdrD _ 0x00)
  exact (hLatch.trans (quiet_setCtrl _ rfl)).trans (quiet_clearCtrl _ rfl)

theorem statusStrobe_quiet (i : Byte) {b : Board} (h : (statusLines i b).pins.enabled = false) :
    Quiet b (statusStrobe i b) := by
  have hLines := statusLines_quiet i b
  constructor
  · exact (raise_busy h).trans hLines.busy
  · exact hLines.latency
  · exact (raise_commands h).trans hLines.commands
  · intro c
    have hReads : (statusLines i b).pins.reads = true := by
      simp [statusLines_portC, Pins.reads, rw, rs]
    have hRaise := strobes_raise c h
    rw [hReads, Bool.not_true, Bool.false_and, if_neg Bool.false_ne_true] at hRaise
    exact hRaise.trans (hLines.strobes c)
  · exact hLines.pinLoads

theorem statusLines_disabled (i : Byte) {b : Board} (h : Idle b) : (statusLines i b).pins.enabled = false := by
  have hEnable := enable_enabled i h
  simp_all [statusLines_portC, Pins.enabled, rw, rs]

theorem statusStrobe_portC (i : Byte) (b : Board) :
    (statusStrobe i b).pins.portC = ((ks0108ControllerEnable i b).pins.portC ||| rw) &&& ~~~rs ||| en := rfl

theorem statusStrobe_enabled (i : Byte) (b : Board) : (statusStrobe i b).pins.enabled = true := by
  simp [Pins.enabled, statusStrobe_portC, en]

theorem statusStrobe_reads (i : Byte) (b : Board) : (statusStrobe i b).pins.reads = true := by
  simp [Pins.reads, statusStrobe_portC, en, rw, rs]

theorem statusStrobe_dataMode (i : Byte) (b : Board) : (statusStrobe i b).pins.dataMode = false := by
  simp [Pins.dataMode, statusStrobe_portC, en, rw, rs]

theorem statusStrobe_selects (i : Byte) {b : Board} (h : Idle b) (c : Fin 2) :
    (statusStrobe i b).pins.selects c = decide (i = number c) := by
  rw [← enable_selects i h c, Pins.selects, Pins.selects, statusStrobe_portC]
  fin_cases c <;> simp [rw, rs, en]

theorem readStatus_spec (i : Byte) {b : Board} (h : Idle b) : StatusRead i b (readStatus i b).2 := by
  have hQuiet := statusStrobe_quiet i (statusLines_disabled i h)
  have hEnabled := statusStrobe_enabled i b
  have hReads : ((statusStrobe i b).pins.reads && !(statusStrobe i b).pins.dataMode) = true := by
    rw [statusStrobe_reads, statusStrobe_dataMode]
    rfl
  have hSelected := statusStrobe_selects i h
  have hEnd := disable_quiet i ((statusStrobe i b).clearCtrl en)
  rw [readStatus_snd]
  constructor
  · apply disable_idle
    · simp [Pins.enabled, en]
    · intro c
      rw [← hSelected c]
      fin_cases c <;> simp [Pins.selects, en]
  · exact hEnd.latency.trans hQuiet.latency
  · rw [hEnd.commands, lower_commands hEnabled, hReads, if_pos rfl, hQuiet.commands]
  · intro c
    rw [hEnd.busy, lower_busy hEnabled, hReads, hSelected, if_pos rfl, hQuiet.busy]
    simp
  · intro c
    rw [hEnd.strobes, strobes_lower, hQuiet.strobes]
  · exact hEnd.pinLoads.trans hQuiet.pinLoads

theorem waitWhileBusy_eq (i : Byte) (fuel : Nat) (b : Board) :
    waitWhileBusy i (fuel + 1) b = some (readStatus i b).2 := by
  have hValue : (readStatus i b).1 &&& 0x80 = 0 := by
    rw [readStatus_value]
    decide
  rw [waitWhileBusy]
  exact if_neg (not_not.mpr hValue)

def writeLines (i instruction data : Byte) (b : Board) : Board :=
  let b := ((ks0108ControllerEnable i b).storeDdrD 0xFF).clearCtrl rw
  let b := if data ≠ 0 then b.setCtrl rs else b.clearCtrl rs
  b.storePortD instruction

theorem writeLines_quiet (i instruction data : Byte) (b : Board) :
    Quiet b (writeLines i instruction data b) := by
  have hTurn := ((enable_quiet i b).trans (quiet_storeDdrD _ 0xFF)).trans
    (quiet_clearCtrl _ (rfl : rw[7] = false))
  rw [writeLines]
  split
  · exact (hTurn.trans (quiet_setCtrl _ rfl)).trans (quiet_storePortD _ _)
  · exact (hTurn.trans (quiet_clearCtrl _ rfl)).trans (quiet_storePortD _ _)

theorem writeLines_portC (i instruction data : Byte) (b : Board) :
    (writeLines i instruction data b).pins.portC = (ks0108ControllerEnable i b).pins.portC &&& ~~~rw |||
        rs ∨
    (writeLines i instruction data b).pins.portC =
      (ks0108ControllerEnable i b).pins.portC &&& ~~~rw &&& ~~~rs := by
  rw [writeLines]
  split
  · exact Or.inl rfl
  · exact Or.inr rfl

theorem writeLines_disabled (i instruction data : Byte) {b : Board} (h : Idle b) :
    (writeLines i instruction data b).pins.enabled = false := by
  have hEnable := enable_enabled i h
  rcases writeLines_portC i instruction data b with hPortC | hPortC <;>
    simp_all [Pins.enabled, rs, rw]

theorem writeLines_reads (i instruction data : Byte) (b : Board) :
    (writeLines i instruction data b).pins.reads = false := by
  rcases writeLines_portC i instruction data b with hPortC | hPortC <;>
    simp [Pins.reads, hPortC, rs, rw]

theorem writeLines_selects (i instruction data : Byte) {b : Board} (h : Idle b) (c : Fin 2) :
    (writeLines i instruction data b).pins.selects c = decide (i = number c) := by
  rw [← enable_selects i h c, Pins.selects, Pins.selects]
  rcases writeLines_portC i instruction data b with hPortC | hPortC <;>
    rw [hPortC] <;> fin_cases c <;> simp [rw, rs]

theorem writeLines_dataMode (i instruction data : Byte) (b : Board) :
    ((writeLines i instruction data b).setCtrl en).pins.dataMode = (data != 0) := by
  rw [writeLines]
  split
  next hData =>
    rw [bne_iff_ne.mpr hData]
    simp [Pins.dataMode, rs, en]
  next hCommand =>
    rw [not_not.mp hCommand]
    simp [Pins.dataMode, rs, en]

theorem write_spec (i instruction data : Byte) {b : Board} (h : Idle b) :
    Written i b (ks0108ControllerDisable i (strobe (writeLines i instruction data b))) := by
  have hQuiet := writeLines_quiet i instruction data b
  have hLow := writeLines_disabled i instruction data h
  have hWrites := writeLines_reads i instruction data b
  have hSelected := writeLines_selects i instruction data h
  have hRaised := raise_enabled (writeLines i instruction data b)
  have hReads : ((writeLines i instruction data b).setCtrl en).pins.reads = false := by
    rw [raise_reads, hWrites]
  have hStrobed : ∀ c, ((writeLines i instruction data b).setCtrl en).pins.selects c = decide (i = number c) := by
    intro c
    rw [raise_selects, hSelected]
  have hEnd := disable_quiet i (strobe (writeLines i instruction data b))
  constructor
  · apply disable_idle
    · simp [Pins.enabled, strobe, en]
    · intro c
      rw [← hSelected c]
      fin_cases c <;> simp [strobe, Pins.selects, en]
  · exact hEnd.latency.trans hQuiet.latency
  · rw [hEnd.commands, strobe, lower_commands hRaised, hReads, Bool.false_and, if_neg Bool.false_ne_true,
      raise_commands hLow, hQuiet.commands]
  · intro c
    rw [hEnd.busy, strobe, lower_busy hRaised, hReads, hStrobed, raise_busy hLow, raise_commands hLow,
      hQuiet.commands, hQuiet.busy, Bool.false_and, if_neg Bool.false_ne_true]
    simp only [decide_eq_true_eq]
    exact if_congr Iff.rfl (congrFun hQuiet.latency _) rfl
  · intro c
    rw [hEnd.strobes, strobe, strobes_lower, strobes_raise c hLow, hWrites, hSelected, hQuiet.strobes,
      hQuiet.busy]
    simp
  · exact hEnd.pinLoads.trans hQuiet.pinLoads

theorem ks0108Instruction_eq (i instruction data : Byte) (fuel : Nat) (b : Board) :
    ks0108Instruction (fuel + 1) i instruction data b =
      some (ks0108ControllerDisable i (strobe (writeLines i instruction data (readStatus i b).2))) := by
  rw [ks0108Instruction, waitWhileBusy_eq]
  rfl

structure Load where
  busy : Fin 2 → Nat
  commands : Nat

def Board.asLoad (b : Board) : Load := ⟨b.pins.busy, b.commands⟩

def loadStep (latency : Nat → Nat) (l : Load) (call : Call) : Load where
  busy := fun c => if call.controller = number c then latency l.commands else l.busy c
  commands := l.commands + 1

/-- The status read before the write is the last one that the controller reports busy. -/
def Ready (l : Load) (call : Call) : Prop := ∀ c, call.controller = number c → l.busy c ≤ 1

def NeverWhileBusy (trace : List Access) : Prop := ∀ c, ∀ n ∈ strobes c trace, n = 0

/-- The access sampled the pins while the controller put its status on them, and bit 7 was low. -/
def Access.SampledReady (c : Fin 2) : Access → Prop
  | .load .pin value pins => pins.statusRead c = true ∧ value &&& 0x80 = 0
  | _ => False

def Preceded (trace : List Access) : Prop :=
  ∀ later access earlier, trace = later ++ access :: earlier → ∀ c,
    (access.strobe c).isSome → ∃ sample ∈ earlier, sample.SampledReady c

def HandshakeKept (trace : List Access) : Prop := NeverWhileBusy trace ∧ Preceded trace

theorem instruction_spec (call : Call) (fuel : Nat) {b : Board} (h : Idle b) :
    ∃ b', ks0108Instruction (fuel + 1) call.controller call.instruction call.data b = some b' ∧
      Idle b' ∧ b'.latency = b.latency ∧ b'.asLoad = loadStep b.latency b.asLoad call ∧
      (∀ c, strobes c b'.trace =
        if call.controller = number c then (b.pins.busy c - 1) :: strobes c b.trace
        else strobes c b.trace) ∧
      pinLoads b'.trace = pinLoads b.trace := by
  have hRead := readStatus_spec call.controller h
  have hWrite := write_spec call.controller call.instruction call.data hRead.idle
  refine ⟨_, ks0108Instruction_eq _ _ _ _ _, hWrite.idle, hWrite.latency.trans hRead.latency, ?_, ?_,
    hWrite.pinLoads.trans hRead.pinLoads⟩
  · rw [Board.asLoad, hWrite.commands, hRead.commands, loadStep]
    congr 1
    funext c
    rw [hWrite.busy, hRead.busy, hRead.latency, hRead.commands]
    by_cases hc : call.controller = number c <;> simp [Board.asLoad, hc]
  · intro c
    rw [hWrite.strobes, hRead.strobes, hRead.busy]
    by_cases hc : call.controller = number c <;> simp [hc]

theorem neverWhileBusy_call {call : Call} {b b' : Board}
    (h : ∀ c, strobes c b'.trace =
      if call.controller = number c then (b.pins.busy c - 1) :: strobes c b.trace
      else strobes c b.trace) :
    NeverWhileBusy b'.trace ↔ NeverWhileBusy b.trace ∧ Ready b.asLoad call := by
  constructor
  · intro hNever
    constructor
    · intro c n hn
      apply hNever c n
      rw [h]
      split
      · exact List.mem_cons_of_mem _ hn
      · exact hn
    · intro c hc
      have hHead := hNever c (b.pins.busy c - 1) (by simp [h, hc])
      exact Nat.sub_eq_zero_iff_le.mp hHead
  · rintro ⟨hNever, hReady⟩ c n hn
    rw [h] at hn
    by_cases hc : call.controller = number c
    · rw [if_pos hc, List.mem_cons] at hn
      rcases hn with rfl | hn
      · exact Nat.sub_eq_zero_iff_le.mpr (hReady c hc)
      · exact hNever c n hn
    · rw [if_neg hc] at hn
      exact hNever c n hn

theorem issue_spec (calls : List Call) (fuel : Nat) {b : Board} (h : Idle b) :
    ∃ b', issue (fuel + 1) calls b = some b' ∧ pinLoads b'.trace = pinLoads b.trace ∧
      (∀ c, (strobes c b'.trace).length =
        calls.countP (·.controller = number c) + (strobes c b.trace).length) ∧
      (NeverWhileBusy b'.trace ↔
        NeverWhileBusy b.trace ∧ StepRun.Along (loadStep b.latency) Ready b.asLoad calls) := by
  induction calls generalizing b with
  | nil => exact ⟨b, rfl, rfl, by simp, by simp⟩
  | cons call rest ih =>
    obtain ⟨b', hCall, hIdle, hLatency, hLoad, hStrobes, hPins⟩ := instruction_spec call fuel h
    obtain ⟨b'', hIssue, hPins', hCount, hNever⟩ := ih hIdle
    refine ⟨b'', ?_, hPins'.trans hPins, ?_, ?_⟩
    · rw [issue, hCall]
      exact hIssue
    · intro c
      rw [hCount, hStrobes, List.countP_cons]
      by_cases hc : call.controller = number c
      · simp [hc]
        omega
      · simp [hc]
    · rw [hNever, neverWhileBusy_call hStrobes, hLatency, hLoad, StepRun.along_cons, and_assoc]

theorem powered_quiet (latency : Nat → Nat) (busy : Fin 2 → Nat) :
    Quiet (reset latency busy) (powered latency busy) :=
  (quiet_storeDdrC _ _).trans (quiet_setCtrl _ (by simp [cs1, cs2]))

theorem powered_idle (latency : Nat → Nat) (busy : Fin 2 → Nat) : Idle (powered latency busy) := by
  refine ⟨?_, fun c => ?_⟩
  · simp [Pins.enabled, powered, reset, cs1, cs2]
  · fin_cases c <;> simp [Pins.selects, powered, reset, cs1, cs2]

theorem powered_load (latency : Nat → Nat) (busy : Fin 2 → Nat) :
    (powered latency busy).asLoad = ⟨busy, 0⟩ := by
  rw [Board.asLoad, (powered_quiet latency busy).busy, (powered_quiet latency busy).commands]
  rfl

theorem powered_strobes (latency : Nat → Nat) (busy : Fin 2 → Nat) (c : Fin 2) :
    strobes c (powered latency busy).trace = [] := (powered_quiet latency busy).strobes c

/-- Without a sample of the pins, a trace keeps the handshake only when it writes nothing. -/
theorem preceded_iff {trace : List Access} (h : pinLoads trace = []) :
    Preceded trace ↔ ∀ c, strobes c trace = [] := by
  have hBlind : ∀ access ∈ trace, ∀ c, ¬ access.SampledReady c := by
    intro access hMem c hSampled
    have hPin : access.isPinLoad = true := by
      cases access with
      | store before after => exact hSampled.elim
      | load reg value pins =>
        cases reg with
        | port => exact hSampled.elim
        | pin => rfl
    exact List.filter_eq_nil_iff.mp h access hMem hPin
  constructor
  · intro hPreceded c
    rw [strobes, List.filterMap_eq_nil_iff]
    intro access hMem
    by_contra hStrobe
    obtain ⟨later, earlier, rfl⟩ := List.append_of_mem hMem
    obtain ⟨sample, hSample, hSampled⟩ := hPreceded later access earlier rfl c
      (Option.isSome_iff_ne_none.mpr hStrobe)
    exact hBlind sample (by simp [hSample]) c hSampled
  · rintro hNone later access earlier rfl c hStrobe
    have hAccess := List.filterMap_eq_nil_iff.mp (hNone c) access (by simp)
    rw [hAccess] at hStrobe
    cases hStrobe

/-- The driver keeps the handshake only as long as it addresses no controller, and is safe exactly
as long as the controllers need no wait. -/
theorem handshake_kept_iff (latency : Nat → Nat) (busy : Fin 2 → Nat) (calls : List Call) (fuel : Nat) :
    ∃ b, issue (fuel + 1) calls (powered latency busy) = some b ∧
      (HandshakeKept b.trace ↔ ∀ call ∈ calls, ∀ c, call.controller ≠ number c) ∧
      (NeverWhileBusy b.trace ↔ StepRun.Along (loadStep latency) Ready ⟨busy, 0⟩ calls) := by
  obtain ⟨b, hIssue, hPins, hCount, hNever⟩ := issue_spec calls fuel (powered_idle latency busy)
  have hSafe : NeverWhileBusy b.trace ↔ StepRun.Along (loadStep latency) Ready ⟨busy, 0⟩ calls := by
    rw [hNever, powered_load]
    refine and_iff_right ?_
    intro c n hn
    rw [powered_strobes] at hn
    cases hn
  have hSilent : ∀ c, strobes c b.trace = [] ↔ ∀ call ∈ calls, call.controller ≠ number c := by
    intro c
    rw [← List.length_eq_zero_iff, hCount, powered_strobes, List.length_nil, Nat.add_zero,
      List.countP_eq_zero]
    simp only [decide_eq_true_eq]
  refine ⟨b, hIssue, ?_, hSafe⟩
  rw [HandshakeKept, preceded_iff hPins]
  constructor
  · rintro ⟨-, hNone⟩ call hCall c
    exact (hSilent c).mp (hNone c) call hCall
  · intro hAway
    have hNone : ∀ c, strobes c b.trace = [] :=
      fun c => (hSilent c).mpr fun call hCall => hAway call hCall c
    refine ⟨?_, hNone⟩
    intro c n hn
    rw [hNone] at hn
    cases hn

/-- One call to a controller that reports busy twice: the write starts while it is busy, and no
status was sampled. -/
theorem write_while_busy : ∃ b,
    issue 3 [⟨0, 0x3F, 0⟩] (powered (fun _ => 0) (fun c => if c = 0 then 2 else 0)) = some b ∧
      strobes 0 b.trace = [1] ∧ ¬ HandshakeKept b.trace := by
  refine ⟨_, rfl, rfl, ?_⟩
  rintro ⟨hNever, -⟩
  exact absurd (hNever 0 1 (List.mem_singleton.mpr rfl)) (by decide)

end WheelDisplay.Ks0108
