import Mathlib.Data.Fintype.Basic
import Mathlib.Tactic.FinCases
import WheelDisplay.Target

/-! # The KS0108 driver on the AVR ports

`KS0108_CTRL` is port C and `KS0108_DATA` is port D. Reading a port register
returns its output latch; the levels of the lines are in the pin register. A
controller takes a write, and ends a read, when EN falls while it is selected.
`latency k` is the number of status reads that report busy after command `k`.
-/

namespace WheelDisplay.Ks0108

def rs : Byte := 0x04

def rw : Byte := 0x10

def cs1 : Byte := 0x40

def cs2 : Byte := 0x20

def en : Byte := 0x80

/-- The registers of the two ports, and the status reads each controller stays busy for. -/
structure Pins where
  portC : Byte
  ddrC : Byte
  portD : Byte
  ddrD : Byte
  busy : Fin 2 → Nat

namespace Pins

def enabled (p : Pins) : Bool := p.portC[7]

def reads (p : Pins) : Bool := p.portC[4]

def dataMode (p : Pins) : Bool := p.portC[2]

def selects (p : Pins) (c : Fin 2) : Bool := !(if c = 0 then p.portC[6] else p.portC[5])

def statusRead (p : Pins) (c : Fin 2) : Bool := p.enabled && p.reads && !p.dataMode && p.selects c

def status (p : Pins) (c : Fin 2) : Byte := if p.busy c = 0 then 0x00 else 0x80

def pinD (p : Pins) : Byte :=
  if p.ddrD = 0xFF then p.portD
  else if p.statusRead 0 then p.status 0
  else if p.statusRead 1 then p.status 1
  else 0x00

end Pins

inductive DataReg where
  | port
  | pin

/-- The macro `KS0108_DATA`, as it is read. -/
def ks0108Data : DataReg := .port

inductive Access where
  | store (before after : Pins)
  | load (reg : DataReg) (value : Byte) (pins : Pins)

/-- The board seen from the driver; `trace` holds the register accesses, the latest first. -/
structure Board where
  pins : Pins
  latency : Nat → Nat
  commands : Nat
  trace : List Access

namespace Board

def fallingEdge (b : Board) (after : Pins) : Bool := b.pins.enabled && !after.enabled

def busyAfter (b : Board) (after : Pins) : Fin 2 → Nat := fun c =>
  if b.fallingEdge after && b.pins.selects c then
    if b.pins.reads && !b.pins.dataMode then b.pins.busy c - 1 else b.latency b.commands
  else b.pins.busy c

def commandsAfter (b : Board) (after : Pins) : Nat :=
  if b.fallingEdge after && !(b.pins.reads && !b.pins.dataMode) then b.commands + 1 else b.commands

def drive (b : Board) (after : Pins) : Board :=
  let after := { after with busy := b.busyAfter after }
  { b with
    pins := after
    commands := b.commandsAfter after
    trace := .store b.pins after :: b.trace }

def storePortC (b : Board) (v : Byte) : Board := b.drive { b.pins with portC := v }

def storePortD (b : Board) (v : Byte) : Board := b.drive { b.pins with portD := v }

def storeDdrC (b : Board) (v : Byte) : Board := b.drive { b.pins with ddrC := v }

def storeDdrD (b : Board) (v : Byte) : Board := b.drive { b.pins with ddrD := v }

def setCtrl (b : Board) (mask : Byte) : Board := b.storePortC (b.pins.portC ||| mask)

def clearCtrl (b : Board) (mask : Byte) : Board := b.storePortC (b.pins.portC &&& ~~~mask)

def read (b : Board) : DataReg → Byte
  | .port => b.pins.portD
  | .pin => b.pins.pinD

def load (b : Board) (reg : DataReg) : Byte × Board :=
  (b.read reg, { b with trace := .load reg (b.read reg) b.pins :: b.trace })

end Board

def ks0108ControllerDisable (i : Byte) (b : Board) : Board :=
  if i = 0 then b.setCtrl cs1 else if i = 1 then b.setCtrl cs2 else b

def ks0108ControllerEnable (i : Byte) (b : Board) : Board :=
  if i = 0 then b.clearCtrl cs1 else if i = 1 then b.clearCtrl cs2 else b

def strobe (b : Board) : Board := (b.setCtrl en).clearCtrl en

/-- The lines `ks0108_readdata` sets before it looks at `status`. -/
def prepareRead (controller : Byte) (b : Board) : Board :=
  (((ks0108ControllerEnable controller b).storePortD 0x00).storeDdrD 0x00).setCtrl rw

/-- `ks0108_readdata(controller, status)` with `status != 0`. -/
def readStatus (controller : Byte) (b : Board) : Byte × Board :=
  let b := ((prepareRead controller b).clearCtrl rs).setCtrl en
  let (data, b) := b.load ks0108Data
  (data, ks0108ControllerDisable controller (b.clearCtrl en))

/-- `while(ks0108_readdata(controller, 1) & 0x80);` -/
def waitWhileBusy (controller : Byte) : Nat → Board → Option Board
  | 0, _ => none
  | fuel + 1, b =>
    let (data, b) := readStatus controller b
    if data &&& 0x80 ≠ 0 then waitWhileBusy controller fuel b else some b

def ks0108Readdata (fuel : Nat) (controller status : Byte) (b : Board) : Option (Byte × Board) :=
  if status ≠ 0 then some (readStatus controller b)
  else do
    let b := strobe (strobe ((prepareRead controller b).setCtrl rs))
    let b ← waitWhileBusy controller fuel b
    let (data, b) := b.load ks0108Data
    some (data, ks0108ControllerDisable controller b)

def ks0108Instruction (fuel : Nat) (controller instruction data : Byte) (b : Board) : Option Board := do
  let b ← waitWhileBusy controller fuel b
  let b := ((ks0108ControllerEnable controller b).storeDdrD 0xFF).clearCtrl rw
  let b := if data ≠ 0 then b.setCtrl rs else b.clearCtrl rs
  let b := strobe (b.storePortD instruction)
  some (ks0108ControllerDisable controller b)

def reset (latency : Nat → Nat) (busy : Fin 2 → Nat) : Board := ⟨⟨0, 0, 0, 0, busy⟩, latency, 0, []⟩

/-- The part of `ks0108_init` that precedes the first instruction. -/
def powered (latency : Nat → Nat) (busy : Fin 2 → Nat) : Board :=
  let b := reset latency busy
  (b.storeDdrC (b.pins.ddrC ||| (rs ||| rw ||| cs1 ||| cs2 ||| en))).setCtrl (cs1 ||| cs2)

def number (c : Fin 2) : Byte := BitVec.ofNat 8 c.val

/-- The controllers of the two halves of the display. -/
abbrev leftChip : Fin 2 := 0

abbrev rightChip : Fin 2 := 1

structure Call where
  controller : Byte
  instruction : Byte
  data : Byte

def issue (fuel : Nat) : List Call → Board → Option Board
  | [], b => some b
  | call :: rest, b => do
    let b ← ks0108Instruction fuel call.controller call.instruction call.data b
    issue fuel rest b

/-- The rise of EN that starts a write. Only the edges of EN matter to a controller, and only stores to
port C move it. -/
def Access.strobe (c : Fin 2) : Access → Option Nat
  | .store before after =>
    if !before.enabled && after.enabled && !after.reads && after.selects c then some (after.busy c) else none
  | .load _ _ _ => none

/-- The busy counts that the write strobes to a controller met, the latest first. -/
def strobes (c : Fin 2) (trace : List Access) : List Nat := trace.filterMap (Access.strobe c)

theorem strobe_eq_none (c : Fin 2) {before after : Pins}
    (h : after.enabled = false ∨ before.enabled = true) :
    Access.strobe c (.store before after) = none := by
  rw [Access.strobe]
  rcases h with h | h <;> simp [h]

def Access.isPinLoad : Access → Bool
  | .load .pin _ _ => true
  | _ => false

def pinLoads (trace : List Access) : List Access := trace.filter Access.isPinLoad

namespace Board

@[simp] theorem setCtrl_portC (b : Board) (mask : Byte) :
    (b.setCtrl mask).pins.portC = b.pins.portC ||| mask := rfl

@[simp] theorem clearCtrl_portC (b : Board) (mask : Byte) :
    (b.clearCtrl mask).pins.portC = b.pins.portC &&& ~~~mask := rfl

@[simp] theorem storePortD_portC (b : Board) (v : Byte) : (b.storePortD v).pins.portC = b.pins.portC := rfl

@[simp] theorem storeDdrC_portC (b : Board) (v : Byte) : (b.storeDdrC v).pins.portC = b.pins.portC := rfl

@[simp] theorem storeDdrD_portC (b : Board) (v : Byte) : (b.storeDdrD v).pins.portC = b.pins.portC := rfl

theorem drive_busy (b : Board) (after : Pins) : (b.drive after).pins.busy = b.busyAfter after := rfl

theorem drive_commands (b : Board) (after : Pins) : (b.drive after).commands = b.commandsAfter after := rfl

theorem busyAfter_of_not_falling {b : Board} {after : Pins} (h : b.fallingEdge after = false) :
    b.busyAfter after = b.pins.busy := by
  funext c
  simp [busyAfter, h]

theorem commandsAfter_of_not_falling {b : Board} {after : Pins} (h : b.fallingEdge after = false) :
    b.commandsAfter after = b.commands := by
  simp [commandsAfter, h]

/-- Nothing a controller or a reader of the strobes could notice. -/
structure Quiet (b b' : Board) : Prop where
  busy : b'.pins.busy = b.pins.busy
  latency : b'.latency = b.latency
  commands : b'.commands = b.commands
  strobes : ∀ c, strobes c b'.trace = strobes c b.trace
  pinLoads : pinLoads b'.trace = pinLoads b.trace

theorem Quiet.refl (b : Board) : Quiet b b := ⟨rfl, rfl, rfl, fun _ => rfl, rfl⟩

theorem Quiet.trans {b b' b'' : Board} (h : Quiet b b') (h' : Quiet b' b'') : Quiet b b'' where
  busy := h'.busy.trans h.busy
  latency := h'.latency.trans h.latency
  commands := h'.commands.trans h.commands
  strobes := fun c => (h'.strobes c).trans (h.strobes c)
  pinLoads := h'.pinLoads.trans h.pinLoads

theorem quiet_drive {b : Board} {after : Pins} (h : after.enabled = b.pins.enabled) :
    Quiet b (b.drive after) := by
  have hFalls : b.fallingEdge after = false := by
    rw [fallingEdge, h]
    cases b.pins.enabled <;> rfl
  constructor
  · exact busyAfter_of_not_falling hFalls
  · rfl
  · exact commandsAfter_of_not_falling hFalls
  · intro c
    apply List.filterMap_cons_none
    apply strobe_eq_none
    cases hEnabled : b.pins.enabled with
    | false => exact Or.inl (h.trans hEnabled)
    | true => exact Or.inr rfl
  · rfl

theorem quiet_setCtrl (b : Board) {mask : Byte} (h : mask[7] = false) : Quiet b (b.setCtrl mask) :=
  quiet_drive (by simp [Pins.enabled, h])

theorem quiet_clearCtrl (b : Board) {mask : Byte} (h : mask[7] = false) : Quiet b (b.clearCtrl mask) :=
  quiet_drive (by simp [Pins.enabled, h])

theorem quiet_storePortD (b : Board) (v : Byte) : Quiet b (b.storePortD v) := quiet_drive rfl

theorem quiet_storeDdrD (b : Board) (v : Byte) : Quiet b (b.storeDdrD v) := quiet_drive rfl

theorem quiet_storeDdrC (b : Board) (v : Byte) : Quiet b (b.storeDdrC v) := quiet_drive rfl

theorem raise_busy {b : Board} (h : b.pins.enabled = false) :
    (b.setCtrl en).pins.busy = b.pins.busy := by
  apply busyAfter_of_not_falling
  rw [fallingEdge, h]
  rfl

theorem raise_commands {b : Board} (h : b.pins.enabled = false) :
    (b.setCtrl en).commands = b.commands := by
  apply commandsAfter_of_not_falling
  rw [fallingEdge, h]
  rfl

theorem raise_enabled (b : Board) : (b.setCtrl en).pins.enabled = true := by
  simp [Pins.enabled, en]

theorem raise_reads (b : Board) : (b.setCtrl en).pins.reads = b.pins.reads := by
  simp [Pins.reads, en]

theorem raise_selects (b : Board) (c : Fin 2) : (b.setCtrl en).pins.selects c = b.pins.selects c := by
  fin_cases c <;> simp [Pins.selects, en]

theorem strobes_raise (c : Fin 2) {b : Board} (h : b.pins.enabled = false) :
    strobes c (b.setCtrl en).trace =
      if !b.pins.reads && b.pins.selects c then b.pins.busy c :: strobes c b.trace
      else strobes c b.trace := by
  have hBusy := congrFun (raise_busy h) c
  have hTrace : strobes c (b.setCtrl en).trace =
      (Access.strobe c (.store b.pins (b.setCtrl en).pins)).toList ++ strobes c b.trace := by
    rw [strobes, strobes, show (b.setCtrl en).trace = .store b.pins (b.setCtrl en).pins :: b.trace from rfl,
      List.filterMap_cons]
    cases Access.strobe c (.store b.pins (b.setCtrl en).pins) <;> rfl
  rw [hTrace, Access.strobe, h, raise_enabled, raise_reads, raise_selects, hBusy]
  cases b.pins.reads <;> cases b.pins.selects c <;> rfl

theorem strobes_lower (c : Fin 2) (b : Board) :
    strobes c (b.clearCtrl en).trace = strobes c b.trace := by
  apply List.filterMap_cons_none
  apply strobe_eq_none
  exact Or.inl (by simp [Pins.enabled, en])

theorem lower_busy {b : Board} (h : b.pins.enabled = true) (c : Fin 2) :
    (b.clearCtrl en).pins.busy c =
      if b.pins.selects c then
        if b.pins.reads && !b.pins.dataMode then b.pins.busy c - 1 else b.latency b.commands
      else b.pins.busy c := by
  have hFalls : b.fallingEdge { b.pins with portC := b.pins.portC &&& ~~~en } = true := by
    rw [fallingEdge, h]
    simp [Pins.enabled, en]
  rw [clearCtrl, storePortC, drive_busy, busyAfter, hFalls, Bool.true_and]

theorem lower_commands {b : Board} (h : b.pins.enabled = true) :
    (b.clearCtrl en).commands =
      if b.pins.reads && !b.pins.dataMode then b.commands else b.commands + 1 := by
  have hFalls : b.fallingEdge { b.pins with portC := b.pins.portC &&& ~~~en } = true := by
    rw [fallingEdge, h]
    simp [Pins.enabled, en]
  rw [clearCtrl, storePortC, drive_commands, commandsAfter, hFalls, Bool.true_and]
  cases b.pins.reads && !b.pins.dataMode <;> rfl

theorem enable_quiet (i : Byte) (b : Board) : Quiet b (ks0108ControllerEnable i b) := by
  rw [ks0108ControllerEnable]
  split
  · exact quiet_clearCtrl b rfl
  · split
    · exact quiet_clearCtrl b rfl
    · exact Quiet.refl b

theorem disable_quiet (i : Byte) (b : Board) : Quiet b (ks0108ControllerDisable i b) := by
  rw [ks0108ControllerDisable]
  split
  · exact quiet_setCtrl b rfl
  · split
    · exact quiet_setCtrl b rfl
    · exact Quiet.refl b

def chipSelect (i : Byte) : Byte := if i = 0 then cs1 else if i = 1 then cs2 else 0

theorem chipSelect_other {i : Byte} (h0 : i ≠ 0) (h1 : i ≠ 1) : chipSelect i = 0 := by
  rw [chipSelect, if_neg h0, if_neg h1]

theorem enable_portC (i : Byte) (b : Board) :
    (ks0108ControllerEnable i b).pins.portC = b.pins.portC &&& ~~~chipSelect i := by
  rw [ks0108ControllerEnable, chipSelect]
  split
  · rfl
  · split
    · rfl
    · exact (BitVec.and_allOnes (x := b.pins.portC)).symm

theorem disable_portC (i : Byte) (b : Board) :
    (ks0108ControllerDisable i b).pins.portC = b.pins.portC ||| chipSelect i := by
  rw [ks0108ControllerDisable, chipSelect]
  split
  · rfl
  · split
    · rfl
    · exact (BitVec.or_zero (x := b.pins.portC)).symm

end Board

end WheelDisplay.Ks0108
