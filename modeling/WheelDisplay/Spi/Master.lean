import WheelDisplay.Lib.StepRun
import WheelDisplay.Spi.Chips

/-! # The master of the SPI bus

Every statement that stores to DDRB or PORTB drives the select lines; a line is low
when its pin is an output that is low. `exchanged` keeps each byte that was sent
with the chips that were selected then, the latest first. What the master reads
when several chips answer, or none, is left open.
-/

namespace WheelDisplay.Spi

open SerialBus Mcp23s17 Mcp3204

inductive ChipName where
  | expander
  | converter
  deriving DecidableEq

@[reducible] def ChipState : ChipName → Type
  | .expander => Expander
  | .converter => Converter

def chips : (c : ChipName) → Slave Byte (ChipState c)
  | .expander => Expander.slave
  | .converter => Converter.slave

/-- `1 << SPIGPIO_PIN` and `1 << SPIADC_PIN`. -/
def pin : ChipName → Byte
  | .expander => 0x10
  | .converter => 0x20

structure Bench where
  ddrB : Byte
  portB : Byte
  bus : Bus ChipState
  exchanged : List ((ChipName → Bool) × Byte)

def lines (ddrB portB : Byte) (c : ChipName) : Bool := ddrB &&& pin c != 0 && portB &&& pin c == 0

namespace Bench

def storePins (ddrB portB : Byte) (b : Bench) : Bench :=
  { b with ddrB := ddrB, portB := portB, bus := b.bus.drive chips (lines ddrB portB) }

def setPortB (mask : Byte) (b : Bench) : Bench := b.storePins b.ddrB (b.portB ||| mask)

def clearPortB (mask : Byte) (b : Bench) : Bench := b.storePins b.ddrB (b.portB &&& ~~~mask)

def setDdrB (mask : Byte) (b : Bench) : Bench := b.storePins (b.ddrB ||| mask) b.portB

def clearDdrB (mask : Byte) (b : Bench) : Bench := b.storePins (b.ddrB &&& ~~~mask) b.portB

@[simp] theorem setDdrB_portB (mask : Byte) (b : Bench) : (b.setDdrB mask).portB = b.portB := by rw [setDdrB, storePins]

@[simp] theorem setDdrB_exchanged (mask : Byte) (b : Bench) : (b.setDdrB mask).exchanged = b.exchanged := by
  rw [setDdrB, storePins]

end Bench

open Bench

def spiGpio : Byte := 1

def spiAdc : Byte := 2

def spiUnselectAllSlaves (b : Bench) : Bench := (b.setPortB (pin .expander)).setPortB (pin .converter)

def spiSelectSlave (slave : Byte) (b : Bench) : Bench :=
  let b := spiUnselectAllSlaves b
  if slave = spiGpio then b.clearPortB (pin .expander)
  else if slave = spiAdc then b.clearPortB (pin .converter)
  else b

def spiMasterInit (b : Bench) : Bench :=
  let b := (b.setDdrB 0x07).clearDdrB 0x08
  spiUnselectAllSlaves ((b.setDdrB (pin .expander)).setDdrB (pin .converter))

section Driver

variable (wiring : (ChipName → Option Byte) → Byte)

def spiMasterTransmit (cData : Byte) (b : Bench) : Byte × Bench :=
  let (answer, bus) := b.bus.exchange chips wiring cData
  (answer, { b with bus := bus, exchanged := (b.bus.selected, cData) :: b.exchanged })

def gpioWrite (bank data : Byte) (b : Bench) : Bench :=
  let b := spiSelectSlave spiGpio b
  let b := (spiMasterTransmit wiring 0x40 b).2
  let b := (spiMasterTransmit wiring (0x12 + (bank &&& 0x01)) b).2
  let b := (spiMasterTransmit wiring data b).2
  spiUnselectAllSlaves b

def gpioRead (bank : Byte) (b : Bench) : Byte × Bench :=
  let b := spiSelectSlave spiGpio b
  let b := (spiMasterTransmit wiring 0x41 b).2
  let b := (spiMasterTransmit wiring (0x12 + (bank &&& 0x01)) b).2
  let (input, b) := spiMasterTransmit wiring 0x00 b
  (input, spiUnselectAllSlaves b)

def gpioSetDir (banka bankb : Byte) (b : Bench) : Bench :=
  let b := spiSelectSlave spiGpio b
  let b := (spiMasterTransmit wiring 0x40 b).2
  let b := (spiMasterTransmit wiring 0x00 b).2
  let b := (spiMasterTransmit wiring banka b).2
  let b := (spiMasterTransmit wiring bankb b).2
  let b := (spiMasterTransmit wiring 0xFF b).2
  let b := (spiMasterTransmit wiring 0xFF b).2
  let b := spiUnselectAllSlaves b
  let b := spiSelectSlave spiGpio b
  let b := (spiMasterTransmit wiring 0x40 b).2
  let b := (spiMasterTransmit wiring 0x0C b).2
  let b := (spiMasterTransmit wiring banka b).2
  let b := (spiMasterTransmit wiring bankb b).2
  spiUnselectAllSlaves b

def gpioInit (b : Bench) : Bench := gpioWrite wiring 0 0xFF (gpioSetDir wiring 0x0F 0x00 b)

def adcGetValue (ch : Byte) (b : Bench) : Word × Bench :=
  let b := spiSelectSlave spiAdc b
  let b := (spiMasterTransmit wiring 0b00000110 b).2
  let (high, b) := spiMasterTransmit wiring (ch <<< 6) b
  let output : Word := high.setWidth 16 <<< 8
  let (low, b) := spiMasterTransmit wiring 0xFF b
  let output := output ||| low.setWidth 16
  ((output &&& 0xFFF), spiUnselectAllSlaves b)

def transmitAll : List Byte → Bench → List Byte × Bench
  | [], b => ([], b)
  | out :: rest, b =>
    let (answer, b) := spiMasterTransmit wiring out b
    let (answers, b) := transmitAll rest b
    (answer :: answers, b)

def converse (slave : Byte) (outs : List Byte) (b : Bench) : List Byte × Bench :=
  let (answers, b) := transmitAll wiring outs (spiSelectSlave slave b)
  (answers, spiUnselectAllSlaves b)

end Driver

def code : ChipName → Byte
  | .expander => spiGpio
  | .converter => spiAdc

/-- Between two calls: both select pins are outputs and high. -/
structure Resting (b : Bench) : Prop where
  ddrB : b.ddrB &&& 0x30 = 0x30
  portB : b.portB &&& 0x30 = 0x30
  selected : b.bus.selected = nobody

theorem pin_facts : ∀ p : Byte, p &&& 0x30 = 0x30 → ∀ c c' : ChipName,
    p ||| pin c = p ∧ p &&& pin c ≠ 0 ∧ p &&& ~~~(pin c) ||| pin .expander ||| pin .converter = p ∧
      (p &&& ~~~(pin c) &&& pin c' = 0 ↔ c' = c) := by
  have hAll : ∀ p : Byte, p &&& 0x30 = 0x30 →
      (p ||| 0x10 = p ∧ p ||| 0x20 = p) ∧ (p &&& 0x10 ≠ 0 ∧ p &&& 0x20 ≠ 0) ∧
        (p &&& ~~~0x10 ||| 0x10 ||| 0x20 = p ∧ p &&& ~~~0x20 ||| 0x10 ||| 0x20 = p) ∧
          (p &&& ~~~0x10 &&& 0x10 = 0 ∧ p &&& ~~~0x10 &&& 0x20 ≠ 0) ∧
            (p &&& ~~~0x20 &&& 0x20 = 0 ∧ p &&& ~~~0x20 &&& 0x10 ≠ 0) := by decide +kernel
  intro p h c c'
  obtain ⟨hSet, hHigh, hBack, hFirst, hSecond⟩ := hAll p h
  cases c with
  | expander =>
    refine ⟨hSet.1, hHigh.1, hBack.1, ?_⟩
    cases c' with
    | expander => exact iff_of_true hFirst.1 rfl
    | converter => exact iff_of_false hFirst.2 ChipName.noConfusion
  | converter =>
    refine ⟨hSet.2, hHigh.2, hBack.2, ?_⟩
    cases c' with
    | expander => exact iff_of_false hSecond.2 ChipName.noConfusion
    | converter => exact iff_of_true hSecond.1 rfl

theorem lines_nobody (d : Byte) {p : Byte} (hP : p &&& 0x30 = 0x30) : lines d p = nobody := by
  funext c
  have hHigh : p &&& pin c ≠ 0 := (pin_facts p hP c c).2.1
  rw [lines, beq_false_of_ne hHigh, Bool.and_false]
  rfl

theorem lines_only {d p : Byte} (hD : d &&& 0x30 = 0x30) (hP : p &&& 0x30 = 0x30) (c : ChipName) :
    lines d (p &&& ~~~(pin c)) = only c := by
  funext c'
  have hOutput : d &&& pin c' ≠ 0 := (pin_facts d hD c' c').2.1
  have hLow := (pin_facts p hP c c').2.2.2
  rw [lines, only, bne_iff_ne.mpr hOutput, Bool.true_and, Bool.eq_iff_iff, beq_iff_eq, decide_eq_true_iff]
  exact hLow

namespace Resting

variable {b : Bench} (h : Resting b)
include h

theorem setPortB (c : ChipName) : b.setPortB (pin c) = b := by
  have hPort : b.portB ||| pin c = b.portB := (pin_facts b.portB h.portB c c).1
  have hBus : b.bus.drive chips (lines b.ddrB b.portB) = b.bus :=
    Bus.drive_same chips (h.selected.trans (lines_nobody b.ddrB h.portB).symm)
  rw [Bench.setPortB, storePins, hPort, hBus]

theorem unselect : spiUnselectAllSlaves b = b := by
  rw [spiUnselectAllSlaves, h.setPortB, h.setPortB]

theorem select (c : ChipName) :
    spiSelectSlave (code c) b =
      { b with portB := b.portB &&& ~~~(pin c), bus := b.bus.drive chips (only c) } := by
  have hClear : spiSelectSlave (code c) b = b.clearPortB (pin c) := by
    simp only [spiSelectSlave, h.unselect]
    cases c <;> rfl
  rw [hClear, clearPortB, storePins, lines_only h.ddrB h.portB]

end Resting

theorem transmitAll_eq (wiring : (ChipName → Option Byte) → Byte) (outs : List Byte) (b : Bench) {c : ChipName}
    (h : b.bus.selected = only c) :
    transmitAll wiring outs b =
      ((b.bus.talk chips wiring outs).1,
        { b with
          bus := (b.bus.talk chips wiring outs).2
          exchanged := (outs.map fun out => (only c, out)).reverse ++ b.exchanged }) := by
  induction outs generalizing b with
  | nil => rfl
  | cons out rest ih =>
    have hRest := ih (spiMasterTransmit wiring out b).2 h
    rw [transmitAll]
    dsimp only
    rw [hRest, List.map_cons, List.reverse_cons, List.append_assoc, List.singleton_append, ← h]
    rfl

/-- One store raises the line of the chip that was selected; the other finds its line high. -/
theorem unselect_only {b : Bench} {p : Byte} {c : ChipName} (hD : b.ddrB &&& 0x30 = 0x30) (hP : p &&& 0x30 = 0x30)
    (hPort : b.portB = p &&& ~~~(pin c)) (h : b.bus.selected = only c) :
    spiUnselectAllSlaves b = { b with portB := p, bus := b.bus.drive chips nobody } := by
  obtain ⟨-, -, hBack, -⟩ := pin_facts p hP c c
  have hRaised : lines b.ddrB p = nobody := lines_nobody b.ddrB hP
  have hLow : lines b.ddrB (p &&& ~~~(pin c)) = only c := lines_only hD hP c
  rw [← hPort] at hBack hLow
  have hFirst : b.portB ||| pin .expander = p ∨ b.portB ||| pin .expander = b.portB := by
    have hAll : ∀ p : Byte, p &&& 0x30 = 0x30 →
        p &&& ~~~0x10 ||| 0x10 = p ∧ p &&& ~~~0x20 ||| 0x10 = p &&& ~~~0x20 := by decide +kernel
    rw [hPort]
    cases c with
    | expander => exact Or.inl (hAll p hP).1
    | converter => exact Or.inr (hAll p hP).2
  rw [spiUnselectAllSlaves, setPortB, setPortB, storePins, storePins]
  dsimp only
  rw [hBack, hRaised]
  obtain hRaises | hStays := hFirst
  · rw [hRaises, hRaised, Bus.drive_same chips (Bus.drive_selected chips nobody b.bus)]
  · rw [hStays, hLow, Bus.drive_same chips h]

theorem converse_eq {wiring : (ChipName → Option Byte) → Byte} (hWiring : Faithful wiring) {b : Bench}
    (h : Resting b) (c : ChipName) (outs : List Byte) :
    converse wiring (code c) outs b =
      (((chips c).session outs (b.bus.state c)).1,
        { b with
          bus := { b.bus with state := Function.update b.bus.state c ((chips c).session outs (b.bus.state c)).2 }
          exchanged := (outs.map fun out => (only c, out)).reverse ++ b.exchanged }) := by
  have hTalked : ((b.bus.drive chips (only c)).talk chips wiring outs).2.selected = only c := by
    rw [Bus.talk_only chips hWiring rfl]
    rfl
  have hSession := Bus.session_only chips hWiring h.selected c outs
  rw [Prod.mk.injEq] at hSession
  have hUnselect := unselect_only
    (b := { b with
      portB := b.portB &&& ~~~(pin c)
      bus := ((b.bus.drive chips (only c)).talk chips wiring outs).2
      exchanged := (outs.map fun out => (only c, out)).reverse ++ b.exchanged })
    h.ddrB h.portB rfl hTalked
  rw [converse, h.select, transmitAll_eq wiring outs _ rfl]
  dsimp only at hUnselect ⊢
  rw [hUnselect, hSession.1, hSession.2]

end WheelDisplay.Spi
