import Mathlib.Tactic.IntervalCases
import WheelDisplay.Lib.SerialBus
import WheelDisplay.Target

/-! # The two chips on the SPI bus

The MCP23S17 takes an opcode and a register address and goes on from register to
register; a write to GPIO sets the latch OLAT, and a read of GPIO gives the pins.
The MCP3204 takes a start bit and a channel, and gives 12 bits back, most
significant first, after bits that nobody drives. Bytes of which neither makes
sense are passed over until the next selection.
-/

namespace WheelDisplay

namespace Mcp23s17

inductive Phase where
  | opcode
  | address (reads : Bool)
  | data (reads : Bool) (address : Byte)
  | deaf

structure Expander where
  register : Byte → Byte
  level : Byte → Byte
  phase : Phase

def ioDir (bank : Byte) : Byte := bank

def iPol (bank : Byte) : Byte := 0x02 + bank

def gppu (bank : Byte) : Byte := 0x0C + bank

def gpio (bank : Byte) : Byte := 0x12 + bank

def olat (bank : Byte) : Byte := 0x14 + bank

namespace Expander

/-- What a read of GPIO gives: an output pin is as its latch drives it, and IPOL inverts. -/
def port (e : Expander) (bank : Byte) : Byte :=
  (e.level bank &&& e.register (ioDir bank) ||| e.register (olat bank) &&& ~~~(e.register (ioDir bank))) ^^^
    e.register (iPol bank)

def value (e : Expander) (address : Byte) : Byte :=
  if address = gpio 0 then e.port 0 else if address = gpio 1 then e.port 1 else e.register address

/-- The register that a write to an address changes. -/
def target (address : Byte) : Byte :=
  if address = gpio 0 then olat 0 else if address = gpio 1 then olat 1 else address

def store (address b : Byte) (e : Expander) : Expander :=
  { e with register := Function.update e.register (target address) b }

def exchange (b : Byte) (e : Expander) : Byte × Expander :=
  match e.phase with
  | .opcode =>
    (0, { e with phase := if b = 0x40 then .address false else if b = 0x41 then .address true else .deaf })
  | .address reads => (0, { e with phase := .data reads b })
  | .data true address => (e.value address, { e with phase := .data true (address + 1) })
  | .data false address => (0, { e.store address b with phase := .data false (address + 1) })
  | .deaf => (0, e)

def waiting (e : Expander) : Expander := { e with phase := .opcode }

def slave : SerialBus.Slave Byte Expander := ⟨waiting, exchange, waiting⟩

/-- After a reset every pin is an input. -/
def reset (level : Byte → Byte) : Expander where
  register := fun address => if address = ioDir 0 ∨ address = ioDir 1 then 0xFF else 0
  level := level
  phase := .opcode

def storeAll (address : Byte) : List Byte → Expander → Expander
  | [], e => e
  | b :: rest, e => storeAll (address + 1) rest (e.store address b)

theorem storeAll_phase (address : Byte) (bytes : List Byte) (e : Expander) (phase : Phase) :
    (storeAll address bytes { e with phase := phase }).waiting = (storeAll address bytes e).waiting := by
  induction bytes generalizing address e with
  | nil => rfl
  | cons b rest ih => exact ih (address + 1) (e.store address b)

theorem storeAll_phase_eq (address : Byte) (bytes : List Byte) (e : Expander) :
    (storeAll address bytes e).phase = e.phase := by
  induction bytes generalizing address e with
  | nil => rfl
  | cons b rest ih => exact ih (address + 1) (e.store address b)

theorem talk_data {address : Byte} {e : Expander} (hPhase : e.phase = .data false address) (bytes : List Byte) :
    (slave.talk bytes e).2.waiting = (storeAll address bytes e).waiting := by
  induction bytes generalizing address e with
  | nil => rfl
  | cons b rest ih =>
    have hExchange : (slave.exchange b e).2 = { e.store address b with phase := .data false (address + 1) } := by
      change (e.exchange b).2 = _
      rw [exchange, hPhase]
    have hTalk : (slave.talk (b :: rest) e).2 = (slave.talk rest (slave.exchange b e).2).2 := rfl
    rw [hTalk, hExchange, ih rfl, storeAll_phase]
    rfl

/-- A write session stores its bytes from the address on. -/
theorem session_write (address : Byte) (bytes : List Byte) (e : Expander) :
    (slave.session (0x40 :: address :: bytes) e).2 = (storeAll address bytes e).waiting := by
  have hTalk := talk_data (e := { e with phase := .data false address }) rfl bytes
  rw [storeAll_phase] at hTalk
  exact hTalk

theorem session_read (address : Byte) (e : Expander) :
    slave.session [0x41, address, 0x00] e = ([0, 0, e.value address], e.waiting) := rfl

end Expander

end Mcp23s17

namespace Mcp3204

inductive Sampling where
  | start
  | channel
  | low (value : BitVec 12)
  | done

structure Converter where
  input : BitVec 2 → BitVec 12
  undriven : Byte
  sampling : Sampling

namespace Converter

def exchange (b : Byte) (k : Converter) : Byte × Converter :=
  match k.sampling with
  | .start => (k.undriven, { k with sampling := if b = 0b00000110 then .channel else .done })
  | .channel =>
    let value := k.input ((b >>> 6).setWidth 2)
    (k.undriven &&& 0xE0 ||| (value >>> 8).setWidth 8, { k with sampling := .low value })
  | .low value => (value.setWidth 8, { k with sampling := .done })
  | .done => (k.undriven, k)

def waiting (k : Converter) : Converter := { k with sampling := .start }

def slave : SerialBus.Slave Byte Converter := ⟨waiting, exchange, waiting⟩

def reset (input : BitVec 2 → BitVec 12) (undriven : Byte) : Converter := ⟨input, undriven, .start⟩

theorem session_convert (ch : Byte) (k : Converter) :
    slave.session [0b00000110, ch <<< 6, 0xFF] k =
      ([k.undriven, k.undriven &&& 0xE0 ||| (k.input (ch.setWidth 2) >>> 8).setWidth 8,
        (k.input (ch.setWidth 2)).setWidth 8], k.waiting) := by
  have hChannel : ((ch <<< 6) >>> 6 : Byte).setWidth 2 = ch.setWidth 2 := by
    apply BitVec.eq_of_getLsbD_eq
    intro i hi
    interval_cases i <;> simp
  rw [← hChannel]
  rfl

/-- The twelve bits that `ADCGetValue` puts together again. -/
theorem twelve_bits (undriven : Byte) (v : BitVec 12) :
    ((undriven &&& 0xE0 ||| (v >>> 8).setWidth 8).setWidth 16 <<< 8 ||| (v.setWidth 8).setWidth 16) &&& 0xFFF =
      (v.setWidth 16 : Word) := by
  apply BitVec.eq_of_getLsbD_eq
  intro i hi
  interval_cases i <;> simp

end Converter

end Mcp3204

end WheelDisplay
