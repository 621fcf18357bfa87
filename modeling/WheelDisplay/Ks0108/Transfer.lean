import WheelDisplay.Ks0108.Handshake
import WheelDisplay.Ks0108.Panel

/-! # What the controllers take from the bus

A controller that is selected for a write takes what stands on the data lines when
EN falls, unless it is busy. As long as no write meets a busy controller, the calls of
`ks0108_instruction` leave on the panel what `Panel` says, call by call.
-/

namespace WheelDisplay.Ks0108

open Board

structure Transfer where
  value : Byte
  dataMode : Bool

def Access.transfer (c : Fin 2) : Access → Option Transfer
  | .store before after =>
    if before.enabled && !after.enabled && !before.reads && before.selects c && before.busy c == 0 then
      some { value := before.pinD, dataMode := before.dataMode }
    else none
  | .load _ _ _ => none

/-- What a controller took, the latest first. -/
def transfers (c : Fin 2) (trace : List Access) : List Transfer := trace.filterMap (Access.transfer c)

def Chip.latch (k : Chip) (t : Transfer) : Chip := if t.dataMode then k.write t.value else k.command t.value

/-- The panel after the accesses of a trace. -/
def observed (p : Panel) (trace : List Access) : Panel :=
  ⟨fun c => (transfers c trace).foldr (fun t k => k.latch t) (p.chip c)⟩

def Unlatched (b b' : Board) : Prop := ∀ c, transfers c b'.trace = transfers c b.trace

theorem Unlatched.trans {b b' b'' : Board} (h : Unlatched b b') (h' : Unlatched b' b'') : Unlatched b b'' :=
  fun c => (h' c).trans (h c)

theorem unlatched_drive {b : Board} {after : Pins}
    (h : b.pins.enabled = false ∨ after.enabled = true ∨ b.pins.reads = true) : Unlatched b (b.drive after) := by
  intro c
  apply List.filterMap_cons_none
  have hAfter : ({ after with busy := b.busyAfter after } : Pins).enabled = after.enabled := rfl
  rw [Access.transfer, hAfter]
  obtain hLow | hHigh | hReads := h
  · rw [hLow]
    rfl
  · rw [hHigh, Bool.not_true, Bool.and_false]
    rfl
  · rw [hReads, Bool.not_true, Bool.and_false]
    rfl

theorem unlatched_same {b : Board} {after : Pins} (h : after.enabled = b.pins.enabled) :
    Unlatched b (b.drive after) := by
  apply unlatched_drive
  cases hEnabled : b.pins.enabled with
  | false => exact Or.inl rfl
  | true => exact Or.inr (Or.inl (h.trans hEnabled))

theorem unlatched_setCtrl (b : Board) {mask : Byte} (h : mask.getLsbD 7 = false) : Unlatched b (b.setCtrl mask) := by
  apply unlatched_same
  have hBit : (b.pins.portC ||| mask).getLsbD 7 = b.pins.portC.getLsbD 7 := by
    rw [BitVec.getLsbD_or, h, Bool.or_false]
  exact hBit

theorem unlatched_clearCtrl (b : Board) {mask : Byte} (h : mask.getLsbD 7 = false) :
    Unlatched b (b.clearCtrl mask) := by
  apply unlatched_same
  have hBit : (b.pins.portC &&& ~~~mask).getLsbD 7 = b.pins.portC.getLsbD 7 := by
    rw [BitVec.getLsbD_and, BitVec.getLsbD_not, h]
    exact Bool.and_true _
  exact hBit

theorem unlatched_storePortD (b : Board) (v : Byte) : Unlatched b (b.storePortD v) := unlatched_same rfl

theorem unlatched_storeDdrC (b : Board) (v : Byte) : Unlatched b (b.storeDdrC v) := unlatched_same rfl

theorem unlatched_storeDdrD (b : Board) (v : Byte) : Unlatched b (b.storeDdrD v) := unlatched_same rfl

theorem unlatched_enable (i : Byte) (b : Board) : Unlatched b (ks0108ControllerEnable i b) := by
  rw [ks0108ControllerEnable]
  split
  · exact unlatched_clearCtrl b rfl
  · split
    · exact unlatched_clearCtrl b rfl
    · exact fun _ => rfl

theorem unlatched_disable (i : Byte) (b : Board) : Unlatched b (ks0108ControllerDisable i b) := by
  rw [ks0108ControllerDisable]
  split
  · exact unlatched_setCtrl b rfl
  · split
    · exact unlatched_setCtrl b rfl
    · exact fun _ => rfl

theorem transfers_lower (c : Fin 2) {b : Board} (hEnabled : b.pins.enabled = true) (hReads : b.pins.reads = false) :
    transfers c (b.clearCtrl en).trace =
      if b.pins.selects c && b.pins.busy c == 0 then
        { value := b.pins.pinD, dataMode := b.pins.dataMode } :: transfers c b.trace
      else transfers c b.trace := by
  have hLow : (b.clearCtrl en).pins.enabled = false := by simp [Pins.enabled, en]
  have hTrace : (b.clearCtrl en).trace = .store b.pins (b.clearCtrl en).pins :: b.trace := rfl
  rw [transfers, hTrace, List.filterMap_cons, Access.transfer, hEnabled, hLow, hReads]
  cases b.pins.selects c <;> cases b.pins.busy c == 0 <;> rfl

theorem readStatus_unlatched (i : Byte) {b : Board} (h : Idle b) : Unlatched b (readStatus i b).2 := by
  have hLatch := ((unlatched_enable i b).trans (unlatched_storePortD _ 0x00)).trans (unlatched_storeDdrD _ 0x00)
  have hLines : Unlatched b (statusLines i b) :=
    (hLatch.trans (unlatched_setCtrl _ rfl)).trans (unlatched_clearCtrl _ rfl)
  have hRaise : Unlatched (statusLines i b) (statusStrobe i b) :=
    unlatched_drive (Or.inl (statusLines_disabled i h))
  have hLower : Unlatched (statusStrobe i b) ((statusStrobe i b).clearCtrl en) :=
    unlatched_drive (Or.inr (Or.inr (statusStrobe_reads i b)))
  rw [readStatus_snd]
  exact ((hLines.trans hRaise).trans hLower).trans (unlatched_disable i _)

theorem writeLines_unlatched (i instruction data : Byte) (b : Board) :
    Unlatched b (writeLines i instruction data b) := by
  have hTurn := ((unlatched_enable i b).trans (unlatched_storeDdrD _ 0xFF)).trans
    (unlatched_clearCtrl _ (rfl : rw.getLsbD 7 = false))
  rw [writeLines]
  split
  · exact (hTurn.trans (unlatched_setCtrl _ rfl)).trans (unlatched_storePortD _ _)
  · exact (hTurn.trans (unlatched_clearCtrl _ rfl)).trans (unlatched_storePortD _ _)

theorem writeLines_pinD (i instruction data : Byte) (b : Board) :
    ((writeLines i instruction data b).setCtrl en).pins.pinD = instruction := by
  rw [writeLines]
  split <;> exact if_pos rfl

theorem write_transfers (i instruction data : Byte) {b : Board} (h : Idle b) (c : Fin 2) :
    transfers c (ks0108ControllerDisable i (strobe (writeLines i instruction data b))).trace =
      if i = number c ∧ b.pins.busy c = 0 then { value := instruction, dataMode := data != 0 } :: transfers c b.trace
      else transfers c b.trace := by
  have hRaise : Unlatched b ((writeLines i instruction data b).setCtrl en) :=
    (writeLines_unlatched i instruction data b).trans
      (unlatched_drive (Or.inl (writeLines_disabled i instruction data h)))
  have hReads : ((writeLines i instruction data b).setCtrl en).pins.reads = false := by
    rw [raise_reads, writeLines_reads]
  have hBusy : ((writeLines i instruction data b).setCtrl en).pins.busy = b.pins.busy :=
    (raise_busy (writeLines_disabled i instruction data h)).trans (writeLines_quiet i instruction data b).busy
  rw [unlatched_disable, strobe, transfers_lower c (raise_enabled _) hReads, hRaise, raise_selects,
    writeLines_selects i instruction data h, writeLines_pinD, writeLines_dataMode, hBusy]
  simp only [Bool.and_eq_true, decide_eq_true_eq, beq_iff_eq]

/-- The status read before the write is the last one that reports busy. -/
theorem instruction_observed (p : Panel) (call : Call) (fuel : Nat) {b b' : Board} (h : Idle b)
    (hReady : Ready b.asLoad call)
    (hCall : ks0108Instruction (fuel + 1) call.controller call.instruction call.data b = some b') :
    observed p b'.trace = (observed p b.trace).take call := by
  have hRead := readStatus_spec call.controller h
  have hTransfers := write_transfers call.controller call.instruction call.data hRead.idle
  have hTaken : ∀ c, call.controller = number c ∧ (readStatus call.controller b).2.pins.busy c = 0 ↔
      call.controller = number c := by
    intro c
    refine and_iff_left_of_imp fun hSelected => ?_
    rw [hRead.busy, if_pos hSelected]
    exact Nat.sub_eq_zero_of_le (hReady c hSelected)
  rw [ks0108Instruction_eq] at hCall
  rw [← Option.some.inj hCall, observed, Panel.take]
  congr 1
  funext c
  rw [hTransfers, readStatus_unlatched call.controller h]
  simp only [hTaken]
  split
  · rw [List.foldr_cons, Chip.latch, Chip.take]
    simp only [bne_iff_ne, observed]
  · rfl

theorem issue_observed (p : Panel) {calls : List Call} (fuel : Nat) {b : Board} (h : Idle b)
    (hReady : StepRun.Along (loadStep b.latency) Ready b.asLoad calls) :
    ∃ b', issue (fuel + 1) calls b = some b' ∧ observed p b'.trace = (observed p b.trace).run calls := by
  induction calls generalizing b with
  | nil => exact ⟨b, rfl, rfl⟩
  | cons call rest ih =>
    obtain ⟨b', hCall, hIdle, hLatency, hLoad, -, -⟩ := instruction_spec call fuel h
    have hObserved := instruction_observed p call fuel h hReady.1 hCall
    obtain ⟨b'', hIssue, hRest⟩ := ih hIdle (by rw [hLatency, hLoad]; exact hReady.2)
    refine ⟨b'', ?_, ?_⟩
    · rw [issue, hCall]
      exact hIssue
    · rw [hRest, hObserved, Panel.run_cons]

/-- Controllers that are ready again by the second look are never written to while they are busy. -/
theorem ready_of_prompt {latency : Nat → Nat} (hLatency : ∀ k, latency k ≤ 1) {l : Load} (h : ∀ c, l.busy c ≤ 1)
    (calls : List Call) : StepRun.Along (loadStep latency) Ready l calls := by
  refine StepRun.along_of_invariant (fun l : Load => ∀ c, l.busy c ≤ 1) ?_ (fun l call hPrompt c _ => hPrompt c) h calls
  intro l call hPrompt c
  rw [loadStep]
  dsimp only
  split
  · exact hLatency _
  · exact hPrompt c

/-- The driver puts on the panel what the calls say, from power-up on. -/
theorem issue_panel {latency : Nat → Nat} {busy : Fin 2 → Nat} {calls : List Call}
    (hReady : StepRun.Along (loadStep latency) Ready ⟨busy, 0⟩ calls) (p : Panel) (fuel : Nat) :
    ∃ b, issue (fuel + 1) calls (powered latency busy) = some b ∧ observed p b.trace = p.run calls := by
  have hUnlatched : Unlatched (reset latency busy) (powered latency busy) :=
    (unlatched_storeDdrC _ _).trans (unlatched_setCtrl _ (by decide))
  have hStart : observed p (powered latency busy).trace = p := by
    rw [observed]
    simp only [hUnlatched _]
    rfl
  rw [← powered_load latency busy] at hReady
  obtain ⟨b, hIssue, hObserved⟩ := issue_observed p fuel (powered_idle latency busy) hReady
  rw [hStart] at hObserved
  exact ⟨b, hIssue, hObserved⟩

end WheelDisplay.Ks0108
