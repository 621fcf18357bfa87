import WheelDisplay.Lib.Packets
import WheelDisplay.Lib.StepRun
import WheelDisplay.Target

/-! # The data stage of a control transfer

`Endpoint_Write_Control_Stream_LE` and `Endpoint_Read_Control_Stream_LE` wait in loops
that look at the flags of the control endpoint over and over. A pass of a loop is one
step, which finds the flags as the bus and its interrupts have left them by then.
-/

namespace WheelDisplay.Usb

open Packets

inductive DeviceState where
  | unattached
  | powered
  | default
  | addressed
  | configured
  | suspended
  deriving DecidableEq

def controlEndpointSize : Nat := 8

inductive StreamCode where
  | noError
  | hostAborted
  | deviceDisconnected
  | busSuspended
  deriving DecidableEq

inductive Stage where
  | data
  | status
  | returned (code : StreamCode)
  deriving DecidableEq

/-- `out` is the packet in the endpoint while RXOUTI is set. -/
structure Poll where
  deviceState : DeviceState
  setupReceived : Bool
  out : Option (List Byte)
  inReady : Bool

def Poll.busError (p : Poll) : Option StreamCode :=
  if p.deviceState = .unattached then some .deviceDisconnected
  else if p.deviceState = .suspended then some .busSuspended
  else none

/-- Neither the bus nor the host ends the data stage. -/
def Poll.goesOn (p : Poll) : Prop := p.busError = none ∧ p.setupReceived = false

instance (p : Poll) : Decidable p.goesOn := inferInstanceAs (Decidable (_ ∧ _))

/-- Some poll finds the bank ready for a packet before anything ends the data stage. -/
def offered : List Poll → Bool
  | [] => false
  | p :: rest => decide (p.goesOn ∧ p.out = none) && (p.inReady || offered rest)

structure Writing where
  left : List Byte
  lastPacketFull : Bool
  sent : List (List Byte)
  stage : Stage

namespace Writing

/-- The loop that fills a bank. -/
def transferBytes (bank : List Byte) : List Byte → List Byte × List Byte
  | [] => (bank, [])
  | b :: left =>
    if bank.length < controlEndpointSize then transferBytes (bank ++ [b]) left else (bank, b :: left)

def stageOf (left : List Byte) (lastPacketFull : Bool) : Stage :=
  if left = [] ∧ lastPacketFull = false then .status else .data

def start (stream : List Byte) (wLength : Word) : Writing :=
  let left := if wLength.toNat < stream.length then stream.take wLength.toNat else stream
  let sent := if wLength.toNat < stream.length then [] else if stream = [] then [[]] else []
  ⟨left, false, sent, stageOf left false⟩

/-- A bank that is ready for a packet is empty. -/
def step (s : Writing) (p : Poll) : Writing :=
  match s.stage with
  | .data =>
    match p.busError with
    | some code => { s with stage := .returned code }
    | none =>
      if p.setupReceived then { s with stage := .returned .hostAborted }
      else if p.out.isSome then { s with stage := .status }
      else if p.inReady then
        let (bank, left) := transferBytes [] s.left
        let lastPacketFull := bank.length == controlEndpointSize
        ⟨left, lastPacketFull, s.sent ++ [bank], stageOf left lastPacketFull⟩
      else s
  | .status =>
    if p.out.isSome then { s with stage := .returned .noError }
    else
      match p.busError with
      | some code => { s with stage := .returned code }
      | none => s
  | .returned _ => s

end Writing

/-- The packets of the data stage. Only a host that asks for nothing gets none. -/
def transferOf (stream : List Byte) (wLength : Word) : List (List Byte) :=
  if stream ≠ [] ∧ wLength = 0 then [] else split controlEndpointSize (stream.take wLength.toNat)

namespace Writing

theorem transferBytes_eq {bank : List Byte} (h : bank.length ≤ controlEndpointSize) (left : List Byte) :
    transferBytes bank left =
      (bank ++ left.take (controlEndpointSize - bank.length), left.drop (controlEndpointSize - bank.length)) := by
  induction left generalizing bank with
  | nil => rw [transferBytes, List.take_nil, List.drop_nil, List.append_nil]
  | cons b left ih =>
    rw [transferBytes]
    split
    next hRoom =>
      have hLength : (bank ++ [b]).length = bank.length + 1 := by rw [List.length_append, List.length_singleton]
      obtain ⟨room, hLeft⟩ : ∃ room, controlEndpointSize - bank.length = room + 1 :=
        ⟨controlEndpointSize - bank.length - 1, by omega⟩
      have hNext : controlEndpointSize - (bank ++ [b]).length = room := by omega
      rw [ih (by omega), hNext, hLeft, List.append_assoc, List.singleton_append, List.take_succ_cons,
        List.drop_succ_cons]
    next hFull =>
      have hNone : controlEndpointSize - bank.length = 0 := by omega
      rw [hNone, List.take_zero, List.drop_zero, List.append_nil]

theorem transferBytes_empty (left : List Byte) :
    transferBytes [] left = (left.take controlEndpointSize, left.drop controlEndpointSize) :=
  transferBytes_eq (Nat.zero_le _) left

/-- A bank is sent, and the loop goes on exactly while the bank was full. -/
theorem step_ready {s : Writing} {p : Poll} (hStage : s.stage = .data) (hPoll : p.goesOn ∧ p.out = none)
    (hReady : p.inReady = true) :
    s.step p =
      ⟨s.left.drop controlEndpointSize, decide (controlEndpointSize ≤ s.left.length),
        s.sent ++ [s.left.take controlEndpointSize],
        if s.left.length < controlEndpointSize then .status else .data⟩ := by
  obtain ⟨⟨hBus, hSetup⟩, hOut⟩ := hPoll
  have hFull : ((s.left.take controlEndpointSize).length == controlEndpointSize) =
      decide (controlEndpointSize ≤ s.left.length) := by
    rw [Bool.eq_iff_iff, beq_iff_eq, decide_eq_true_iff, List.length_take]
    omega
  simp only [step, hStage, hBus, hSetup, hOut, hReady, transferBytes_empty, hFull, Option.isSome_none,
    Bool.false_eq_true, if_false, if_true]
  congr 1
  rw [stageOf]
  refine if_congr ?_ rfl rfl
  rw [List.drop_eq_nil_iff, decide_eq_false_iff_not]
  omega

theorem step_wait {s : Writing} {p : Poll} (hStage : s.stage = .data) (hPoll : p.goesOn ∧ p.out = none)
    (hReady : p.inReady = false) : s.step p = s := by
  obtain ⟨⟨hBus, hSetup⟩, hOut⟩ := hPoll
  simp only [step, hStage, hBus, hSetup, hOut, hReady, Option.isSome_none, Bool.false_eq_true, if_false]

theorem step_status {s : Writing} {p : Poll} (hStage : s.stage = .status) (hPoll : p.goesOn ∧ p.out = none) :
    s.step p = s := by
  obtain ⟨⟨hBus, -⟩, hOut⟩ := hPoll
  simp only [step, hStage, hBus, hOut, Option.isSome_none, Bool.false_eq_true, if_false]

theorem step_ended {s : Writing} (p : Poll) (hStage : s.stage ≠ .data) :
    (s.step p).sent = s.sent ∧ (s.step p).stage ≠ .data := by
  rw [step]
  split
  next hData => exact absurd hData hStage
  next hStatus =>
    split
    · exact ⟨rfl, nofun⟩
    split
    · exact ⟨rfl, nofun⟩
    · exact ⟨rfl, hStage⟩
  next => exact ⟨rfl, hStage⟩

theorem run_status {s : Writing} (hStage : s.stage = .status) {polls : List Poll}
    (hQuiet : ∀ p ∈ polls, p.goesOn ∧ p.out = none) : StepRun.run step s polls = s := by
  induction polls with
  | nil => rfl
  | cons p rest ih =>
    obtain ⟨hHead, hRest⟩ := List.forall_mem_cons.mp hQuiet
    rw [StepRun.run_cons, step_status hStage hHead, ih hRest]

/-- Every poll that finds the endpoint ready sends the next packet. -/
theorem run_data {s : Writing} (hStage : s.stage = .data) {polls : List Poll}
    (hQuiet : ∀ p ∈ polls, p.goesOn ∧ p.out = none) :
    (StepRun.run step s polls).sent =
        s.sent ++ (split controlEndpointSize s.left).take (polls.countP (·.inReady)) ∧
      ((split controlEndpointSize s.left).length ≤ polls.countP (·.inReady) →
        (StepRun.run step s polls).stage = .status) := by
  have hSize : 0 < controlEndpointSize := by decide
  induction polls generalizing s with
  | nil =>
    refine ⟨(List.append_nil _).symm, ?_⟩
    intro hNone
    rw [split_eq hSize] at hNone
    exact absurd hNone (Nat.not_succ_le_zero _)
  | cons p rest ih =>
    obtain ⟨hHead, hRest⟩ := List.forall_mem_cons.mp hQuiet
    rw [StepRun.run_cons, List.countP_cons]
    cases hReady : p.inReady with
    | false =>
      rw [step_wait hStage hHead hReady, if_neg Bool.false_ne_true, Nat.add_zero]
      exact ih hStage hRest
    | true =>
      rw [step_ready hStage hHead hReady, if_pos rfl, split_eq hSize, List.take_succ_cons, List.length_cons,
        Nat.succ_le_succ_iff]
      split
      next hLast =>
        have hRun := run_status (s := ⟨s.left.drop controlEndpointSize, decide (controlEndpointSize ≤ s.left.length),
          s.sent ++ [s.left.take controlEndpointSize], .status⟩) rfl hRest
        rw [hRun, List.take_nil]
        exact ⟨rfl, fun _ => rfl⟩
      next hMore =>
        obtain ⟨hSent, hEnd⟩ := ih (s := ⟨s.left.drop controlEndpointSize,
          decide (controlEndpointSize ≤ s.left.length), s.sent ++ [s.left.take controlEndpointSize], .data⟩) rfl hRest
        exact ⟨by rw [hSent, List.append_assoc, List.singleton_append], hEnd⟩

theorem run_ended {s : Writing} (hStage : s.stage ≠ .data) (polls : List Poll) :
    (StepRun.run step s polls).sent = s.sent := by
  induction polls generalizing s with
  | nil => rfl
  | cons p rest ih =>
    obtain ⟨hSent, hNext⟩ := step_ended p hStage
    rw [StepRun.run_cons, ih hNext, hSent]

theorem step_interrupted {s : Writing} {p : Poll} (hStage : s.stage = .data) (hPoll : ¬ (p.goesOn ∧ p.out = none)) :
    (s.step p).sent = s.sent ∧ (s.step p).stage ≠ .data := by
  simp only [step, hStage]
  split
  next => exact ⟨rfl, nofun⟩
  next hBus =>
    split
    next => exact ⟨rfl, nofun⟩
    next hSetup =>
      split
      next => exact ⟨rfl, nofun⟩
      next hOut =>
        exact absurd ⟨⟨hBus, Bool.not_eq_true _ ▸ hSetup⟩, Option.not_isSome_iff_eq_none.mp hOut⟩ hPoll

theorem run_prefix {s : Writing} (hStage : s.stage = .data) (polls : List Poll) :
    (StepRun.run step s polls).sent <+: s.sent ++ split controlEndpointSize s.left := by
  induction polls generalizing s with
  | nil => exact List.prefix_append ..
  | cons p rest ih =>
    rw [StepRun.run_cons]
    obtain hPoll | hPoll := Classical.em (p.goesOn ∧ p.out = none)
    · cases hReady : p.inReady with
      | false =>
        rw [step_wait hStage hPoll hReady]
        exact ih hStage
      | true =>
        rw [step_ready hStage hPoll hReady, split_eq (by decide)]
        split
        next hLast =>
          have hEnd := run_ended (s := ⟨s.left.drop controlEndpointSize, decide (controlEndpointSize ≤ s.left.length),
            s.sent ++ [s.left.take controlEndpointSize], .status⟩) nofun rest
          exact hEnd.symm ▸ List.prefix_rfl
        next hMore =>
          have hRest := ih (s := ⟨s.left.drop controlEndpointSize,
            decide (controlEndpointSize ≤ s.left.length), s.sent ++ [s.left.take controlEndpointSize], .data⟩) rfl
          rw [List.append_assoc, List.singleton_append] at hRest
          exact hRest
    · obtain ⟨hSent, hEnded⟩ := step_interrupted hStage hPoll
      rw [run_ended hEnded, hSent]
      exact List.prefix_append ..

theorem start_left (stream : List Byte) (wLength : Word) :
    (start stream wLength).left = stream.take wLength.toNat := by
  rw [start]
  dsimp only
  split
  · rfl
  next hFits => exact (List.take_of_length_le (Nat.le_of_not_lt hFits)).symm

theorem start_stage (stream : List Byte) (wLength : Word) :
    (start stream wLength).stage = if stream.take wLength.toNat = [] then .status else .data := by
  rw [← start_left]
  exact if_congr (and_iff_left rfl) rfl rfl

theorem start_sent {stream : List Byte} (hStream : stream ≠ []) (wLength : Word) :
    (start stream wLength).sent = [] := by
  rw [start]
  dsimp only
  rw [if_neg hStream, ite_self]

theorem take_ne_nil {stream : List Byte} (hStream : stream ≠ []) {wLength : Word} (hSome : wLength ≠ 0) :
    stream.take wLength.toNat ≠ [] := by
  rw [ne_eq, List.take_eq_nil_iff, not_or]
  exact ⟨fun hZero => hSome (BitVec.eq_of_toNat_eq hZero), hStream⟩

/-- The data stage starts with the packets to send, or it is over. -/
theorem start_cases (stream : List Byte) (wLength : Word) :
    (start stream wLength).stage = .data ∧ (start stream wLength).sent = [] ∧
        transferOf stream wLength = split controlEndpointSize (start stream wLength).left ∨
      (start stream wLength).stage = .status ∧ (start stream wLength).sent = transferOf stream wLength := by
  have hStage := start_stage stream wLength
  obtain rfl | hStream := eq_or_ne stream []
  · refine Or.inr ⟨?_, ?_⟩
    · rw [hStage, List.take_nil, if_pos rfl]
    · rw [transferOf, if_neg fun h => h.1 rfl, List.take_nil, start]
      rfl
  · have hSent := start_sent hStream wLength
    obtain hNone | hSome := eq_or_ne wLength 0
    · refine Or.inr ⟨?_, ?_⟩
      · rw [hStage, hNone]
        exact if_pos rfl
      · rw [hSent, transferOf, if_pos ⟨hStream, hNone⟩]
    · refine Or.inl ⟨?_, hSent, ?_⟩
      · rw [hStage, if_neg (take_ne_nil hStream hSome)]
      · rw [transferOf, if_neg fun h => hSome h.2, start_left]

theorem run_short {s : Writing} (hStage : s.stage = .data) (hShort : s.left.length < controlEndpointSize)
    (polls : List Poll) :
    (StepRun.run step s polls).sent = if offered polls then s.sent ++ [s.left] else s.sent := by
  induction polls with
  | nil => rfl
  | cons p rest ih =>
    rw [StepRun.run_cons, offered]
    obtain hPoll | hPoll := Classical.em (p.goesOn ∧ p.out = none)
    · rw [decide_eq_true hPoll, Bool.true_and]
      cases hReady : p.inReady with
      | false =>
        rw [step_wait hStage hPoll hReady, ih, Bool.false_or]
      | true =>
        rw [step_ready hStage hPoll hReady, if_pos hShort, Bool.true_or, if_pos rfl,
          List.take_of_length_le (Nat.le_of_lt hShort)]
        refine run_ended ?_ rest
        exact nofun
    · obtain ⟨hSent, hEnded⟩ := step_interrupted hStage hPoll
      rw [run_ended hEnded, hSent, decide_eq_false hPoll, Bool.false_and, if_neg Bool.false_ne_true]

/-- A stream that fits one packet goes out in it, cut to what was asked for, or not at all. -/
theorem sent_short {stream : List Byte} (hStream : stream ≠ []) (hShort : stream.length < controlEndpointSize)
    (wLength : Word) (polls : List Poll) :
    (StepRun.run step (start stream wLength) polls).sent =
      if wLength ≠ 0 ∧ offered polls = true then [stream.take wLength.toNat] else [] := by
  have hSent := start_sent hStream wLength
  obtain hNone | hSome := eq_or_ne wLength 0
  · have hStage : (start stream wLength).stage ≠ .data := by
      rw [start_stage, hNone]
      exact nofun
    rw [run_ended hStage, hSent, if_neg fun h => h.1 hNone]
  · have hStage : (start stream wLength).stage = .data := by
      rw [start_stage, if_neg (take_ne_nil hStream hSome)]
    have hLeft : (start stream wLength).left.length < controlEndpointSize := by
      rw [start_left]
      exact Nat.lt_of_le_of_lt (List.length_take_le' ..) hShort
    rw [run_short hStage hLeft, hSent, start_left, List.nil_append]
    exact if_congr (and_iff_right hSome).symm rfl rfl

end Writing

/-- Whatever ends it, a write sends an initial part of the packets of its transfer; while nothing does, each poll
that finds the endpoint ready sends one more, and from all of them the host reads back what it asked for. -/
theorem write_stream (stream : List Byte) (wLength : Word) (polls : List Poll) :
    let s := StepRun.run Writing.step (Writing.start stream wLength) polls
    let packets := transferOf stream wLength
    s.sent <+: packets ∧
      ((∀ p ∈ polls, p.goesOn ∧ p.out = none) → packets.length ≤ polls.countP (·.inReady) →
        s.stage = .status ∧ s.sent = packets ∧
          (packets ≠ [] → ∀ later, collect controlEndpointSize (s.sent ++ later) =
            some (stream.take wLength.toNat, later))) := by
  intro s packets
  have hRead : packets ≠ [] → ∀ later,
      collect controlEndpointSize (packets ++ later) = some (stream.take wLength.toNat, later) := by
    intro hSome later
    have hPackets : packets = split controlEndpointSize (stream.take wLength.toNat) :=
      if_neg fun hNone => hSome (if_pos hNone)
    rw [hPackets, collect_split (by decide)]
  obtain ⟨hStage, hSent, hPackets⟩ | ⟨hStage, hSent⟩ := Writing.start_cases stream wLength
  · have hPrefix := Writing.run_prefix hStage polls
    rw [hSent, List.nil_append, ← hPackets] at hPrefix
    refine ⟨hPrefix, ?_⟩
    intro hQuiet hEnough
    obtain ⟨hRun, hEnd⟩ := Writing.run_data hStage hQuiet
    rw [hSent, List.nil_append, ← hPackets, List.take_of_length_le hEnough] at hRun
    rw [← hPackets] at hEnd
    exact ⟨hEnd hEnough, hRun, hRun.symm ▸ hRead⟩
  · have hRun : s.sent = packets := (Writing.run_ended (hStage ▸ nofun) polls).trans hSent
    refine ⟨hRun ▸ List.prefix_rfl, ?_⟩
    intro hQuiet _
    refine ⟨?_, hRun, hRun.symm ▸ hRead⟩
    exact (congrArg Writing.stage (Writing.run_status hStage hQuiet)).trans hStage

structure Reading where
  length : Nat
  stored : List Byte
  stage : Stage

namespace Reading

/-- The loop that empties a bank: the bytes it stores and the length that is left. -/
def transferBytes : Nat → List Byte → List Byte × Nat
  | 0, _ => ([], 0)
  | n + 1, [] => ([], n + 1)
  | n + 1, b :: bank =>
    let (bytes, length) := transferBytes n bank
    (b :: bytes, length)

def stageOf (length : Nat) : Stage := if length = 0 then .status else .data

def start (length : Nat) : Reading := ⟨length, [], stageOf length⟩

/-- `Endpoint_ClearOUT` gives the rest of a packet up. -/
def step (s : Reading) (p : Poll) : Reading :=
  match s.stage with
  | .data =>
    match p.busError with
    | some code => { s with stage := .returned code }
    | none =>
      if p.setupReceived then { s with stage := .returned .hostAborted }
      else
        match p.out with
        | none => s
        | some bank =>
          let (bytes, length) := transferBytes s.length bank
          ⟨length, s.stored ++ bytes, stageOf length⟩
  | .status =>
    if p.inReady then { s with stage := .returned .noError }
    else
      match p.busError with
      | some code => { s with stage := .returned code }
      | none => s
  | .returned _ => s

theorem transferBytes_eq (length : Nat) (bank : List Byte) :
    transferBytes length bank = (bank.take length, length - bank.length) := by
  induction length generalizing bank with
  | zero => rw [transferBytes, List.take_zero, Nat.zero_sub]
  | succ n ih =>
    cases bank with
    | nil => rfl
    | cons b bank => rw [transferBytes, ih, List.take_succ_cons, List.length_cons, Nat.succ_sub_succ]

theorem step_ended {s : Reading} (p : Poll) (hStage : s.stage ≠ .data) :
    (s.step p).stored = s.stored ∧ (s.step p).length = s.length ∧ (s.step p).stage ≠ .data := by
  rw [step]
  split
  next hData => exact absurd hData hStage
  next hStatus =>
    split
    · exact ⟨rfl, rfl, nofun⟩
    split
    · exact ⟨rfl, rfl, nofun⟩
    · exact ⟨rfl, rfl, hStage⟩
  next => exact ⟨rfl, rfl, hStage⟩

theorem run_ended {s : Reading} (hStage : s.stage ≠ .data) (polls : List Poll) :
    (StepRun.run step s polls).stored = s.stored ∧ (StepRun.run step s polls).stage ≠ .data := by
  induction polls generalizing s with
  | nil => exact ⟨rfl, hStage⟩
  | cons p rest ih =>
    obtain ⟨hStored, -, hNext⟩ := step_ended p hStage
    rw [StepRun.run_cons, ← hStored]
    exact ih hNext

theorem step_takes {s : Reading} {p : Poll} (hStage : s.stage = .data) (hPoll : p.goesOn) {bank : List Byte}
    (hOut : p.out = some bank) :
    s.step p =
      ⟨s.length - bank.length, s.stored ++ bank.take s.length, stageOf (s.length - bank.length)⟩ := by
  simp only [step, hStage, hPoll.1, hPoll.2, hOut, transferBytes_eq, Bool.false_eq_true, if_false]

theorem step_wait {s : Reading} {p : Poll} (hStage : s.stage = .data) (hPoll : p.goesOn) (hOut : p.out = none) :
    s.step p = s := by
  simp only [step, hStage, hPoll.1, hPoll.2, hOut, Bool.false_eq_true, if_false]

theorem step_interrupted {s : Reading} {p : Poll} (hStage : s.stage = .data) (hPoll : ¬ p.goesOn) :
    ∃ code, code ≠ .noError ∧ s.step p = { s with stage := .returned code } := by
  simp only [step, hStage]
  cases hBus : p.busError with
  | some code =>
    refine ⟨code, ?_, rfl⟩
    rintro rfl
    rw [Poll.busError] at hBus
    split_ifs at hBus <;> cases hBus
  | none =>
    cases hSetup : p.setupReceived with
    | true => exact ⟨.hostAborted, nofun, rfl⟩
    | false => exact absurd ⟨hBus, hSetup⟩ hPoll

theorem run_returned {s : Reading} {code : StreamCode} (hStage : s.stage = .returned code) (polls : List Poll) :
    StepRun.run step s polls = s := by
  induction polls with
  | nil => rfl
  | cons p rest ih =>
    have hStep : s.step p = s := by rw [step, hStage]
    rw [StepRun.run_cons, hStep, ih]

end Reading

/-- The bytes of the OUT packets that the polls find. -/
def received (polls : List Poll) : List Byte := (polls.filterMap Poll.out).flatten

namespace Reading

/-- What a read of `length` bytes may store of `bytes`, and does when nothing ends it. -/
structure Stores (length : Nat) (bytes : List Byte) (goesOn : Prop) (s s' : Reading) : Prop where
  initial : s'.stored <+: s.stored ++ bytes.take length
  whole : goesOn → s'.stored = s.stored ++ bytes.take length
  full : s'.stage = .status ∨ s'.stage = .returned .noError → s'.stored.length = s.stored.length + length

theorem run_data {s : Reading} (hStage : s.stage = .data) (polls : List Poll) :
    Stores s.length (received polls) (∀ p ∈ polls, p.goesOn) s (StepRun.run step s polls) := by
  induction polls generalizing s with
  | nil =>
    refine ⟨List.prefix_append .., fun _ => ?_, fun hOver => ?_⟩
    · rw [received, List.filterMap_nil, List.flatten_nil, List.take_nil, List.append_nil, StepRun.run_nil]
    · rw [StepRun.run_nil, hStage] at hOver
      exact absurd hOver (by simp)
  | cons p rest ih =>
    rw [StepRun.run_cons]
    obtain hPoll | hPoll := Classical.em p.goesOn
    · cases hOut : p.out with
      | none =>
        have hReceived : received (p :: rest) = received rest := by rw [received, List.filterMap_cons, hOut, received]
        obtain ⟨hInitial, hWhole, hFull⟩ := ih hStage
        rw [step_wait hStage hPoll hOut, hReceived]
        exact ⟨hInitial, fun hAll => hWhole (List.forall_mem_cons.mp hAll).2, hFull⟩
      | some bank =>
        have hReceived : s.stored ++ (received (p :: rest)).take s.length =
            (s.stored ++ bank.take s.length) ++ (received rest).take (s.length - bank.length) := by
          rw [received, List.filterMap_cons, hOut, List.flatten_cons, List.take_append, List.append_assoc, received]
        have hLength : (s.stored ++ bank.take s.length).length + (s.length - bank.length) = s.stored.length + s.length := by
          rw [List.length_append, List.length_take]
          omega
        rw [step_takes hStage hPoll hOut]
        obtain hOver | hMore := eq_or_ne (s.length - bank.length) 0
        · obtain ⟨hStored, -⟩ := run_ended (s := ⟨s.length - bank.length, s.stored ++ bank.take s.length,
            stageOf (s.length - bank.length)⟩) (by rw [stageOf, if_pos hOver]; nofun) rest
          rw [hOver, List.take_zero, List.append_nil] at hReceived
          rw [hOver, Nat.add_zero] at hLength
          refine ⟨?_, fun _ => ?_, fun _ => ?_⟩
          · exact (hStored.trans hReceived.symm) ▸ List.prefix_rfl
          · rw [hStored, hReceived]
          · rw [hStored, hLength]
        · obtain ⟨hInitial, hWhole, hFull⟩ := ih (s := ⟨s.length - bank.length, s.stored ++ bank.take s.length,
            stageOf (s.length - bank.length)⟩) (if_neg hMore)
          refine ⟨?_, fun hAll => ?_, fun hOver => ?_⟩
          · rw [hReceived]
            exact hInitial
          · rw [hReceived]
            exact hWhole (List.forall_mem_cons.mp hAll).2
          · exact (hFull hOver).trans hLength
    · obtain ⟨code, hCode, hStep⟩ := step_interrupted hStage hPoll
      rw [hStep, run_returned rfl]
      refine ⟨List.prefix_append .., fun hAll => ?_, fun hOver => ?_⟩
      · exact absurd (List.forall_mem_cons.mp hAll).1 hPoll
      · obtain hStatus | hReturned := hOver
        · cases hStatus
        · exact absurd (Stage.returned.inj hReturned) hCode

end Reading

/-- A read stores the bytes of the packets in their order, never more than it was asked for, and gets them all
unless the bus or another request ends it; so it gets what the host has cut into packets. -/
theorem read_stream (length : Nat) (polls : List Poll) :
    let s := StepRun.run Reading.step (Reading.start length) polls
    s.stored <+: (received polls).take length ∧
      ((∀ p ∈ polls, p.goesOn) → s.stored = (received polls).take length ∧
        ∀ payload, polls.filterMap Poll.out = split controlEndpointSize payload → s.stored = payload.take length) ∧
      (s.stage = .status ∨ s.stage = .returned .noError → s.stored.length = length) := by
  intro s
  have hPayload : s.stored = (received polls).take length → ∀ payload,
      polls.filterMap Poll.out = split controlEndpointSize payload → s.stored = payload.take length := by
    intro hWhole payload hPackets
    rw [hWhole, received, hPackets, split_flatten]
  obtain rfl | hLength := eq_or_ne length 0
  · obtain ⟨hStored, -⟩ := Reading.run_ended (s := Reading.start 0) nofun polls
    have hNone : s.stored = (received polls).take 0 := hStored
    exact ⟨hNone ▸ List.prefix_rfl, fun _ => ⟨hNone, hPayload hNone⟩, fun _ => congrArg List.length hStored⟩
  · obtain ⟨hInitial, hWhole, hFull⟩ := Reading.run_data (s := Reading.start length) (if_neg hLength) polls
    exact ⟨hInitial, fun hAll => ⟨hWhole hAll, hPayload (hWhole hAll)⟩,
      fun hOver => (hFull hOver).trans (Nat.zero_add length)⟩

end WheelDisplay.Usb
