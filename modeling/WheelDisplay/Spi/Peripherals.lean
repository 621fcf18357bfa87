import WheelDisplay.Spi.Master

/-! # What the calls of the two drivers mean to the chips

A call changes the registers of the expander, or tells what a chip measures. A run
mixes the calls in any order with changes of the pins and of the sampled voltages,
which happen between calls, and with the output that `main` adds to DDRB.
-/

namespace WheelDisplay.Spi

open SerialBus Mcp23s17 Mcp3204

inductive Call where
  | write (bank data : Byte)
  | read (bank : Byte)
  | setDir (banka bankb : Byte)
  | convert (ch : Byte)

def Call.perform (wiring : (ChipName → Option Byte) → Byte) : Call → Bench → Option Word × Bench
  | .write bank data, b => (none, gpioWrite wiring bank data b)
  | .read bank, b =>
    let (input, b) := gpioRead wiring bank b
    (some (input.setWidth 16), b)
  | .setDir banka bankb, b => (none, gpioSetDir wiring banka bankb b)
  | .convert ch, b =>
    let (output, b) := adcGetValue wiring ch b
    (some output, b)

structure Peripherals where
  expander : Expander
  converter : Converter

def bankOf (bank : Byte) : Byte := bank &&& 0x01

def configured (banka bankb : Byte) (e : Expander) : Expander :=
  { e with register := fun address =>
      if address = ioDir 0 ∨ address = gppu 0 then banka
      else if address = ioDir 1 ∨ address = gppu 1 then bankb
      else if address = iPol 0 ∨ address = iPol 1 then 0xFF
      else e.register address }

def Call.meaning : Call → Peripherals → Option Word × Peripherals
  | .write bank data, p =>
    (none, { p with expander :=
      { p.expander with register := Function.update p.expander.register (olat (bankOf bank)) data } })
  | .read bank, p => (some ((p.expander.port (bankOf bank)).setWidth 16), p)
  | .setDir banka bankb, p => (none, { p with expander := configured banka bankb p.expander })
  | .convert ch, p => (some ((p.converter.input (ch.setWidth 2)).setWidth 16), p)

inductive Event where
  | call (call : Call)
  | levels (level : Byte → Byte)
  | inputs (input : BitVec 2 → BitVec 12) (undriven : Byte)
  | timerOutput

namespace Peripherals

def step (p : Peripherals) : Event → Peripherals
  | .call call => (call.meaning p).2
  | .levels level => { p with expander := { p.expander with level := level } }
  | .inputs input undriven => { p with converter := { p.converter with input := input, undriven := undriven } }
  | .timerOutput => p

def answer (p : Peripherals) : Event → Option Word
  | .call call => (call.meaning p).1
  | _ => none

end Peripherals

namespace Bench

def peripherals (b : Bench) : Peripherals := ⟨b.bus.state .expander, b.bus.state .converter⟩

def place (p : Peripherals) (b : Bench) : Bench :=
  { b with bus := { b.bus with state := fun
      | .expander => p.expander
      | .converter => p.converter } }

def step (wiring : (ChipName → Option Byte) → Byte) (b : Bench) : Event → Bench
  | .call call => (call.perform wiring b).2
  | .timerOutput => b.setDdrB 0x80
  | e => b.place (b.peripherals.step e)

def answer (wiring : (ChipName → Option Byte) → Byte) (b : Bench) : Event → Option Word
  | .call call => (call.perform wiring b).1
  | _ => none

end Bench

/-- Between two calls both chips wait for a new session. -/
structure Idle (b : Bench) : Prop where
  resting : Resting b
  expander : b.peripherals.expander.phase = .opcode
  converter : b.peripherals.converter.sampling = .start

theorem waiting_eq {e : Expander} (h : e.phase = .opcode) : e.waiting = e := by
  rw [Expander.waiting, ← h]

theorem target_gpio (bank : Byte) : Expander.target (0x12 + (bank &&& 0x01)) = olat (bankOf bank) := by
  have hAll : ∀ bank : Byte, Expander.target (0x12 + (bank &&& 0x01)) = olat (bankOf bank) := by decide +kernel
  exact hAll bank

theorem value_gpio (e : Expander) (bank : Byte) : e.value (0x12 + (bank &&& 0x01)) = e.port (bankOf bank) := by
  have hAll : ∀ bank : Byte, bank &&& 0x01 = 0 ∨ bank &&& 0x01 = 1 := by decide +kernel
  rw [bankOf]
  obtain hBank | hBank := hAll bank
  · rw [hBank]
    rfl
  · rw [hBank]
    rfl

theorem storeAll_configured (banka bankb : Byte) (e : Expander) :
    Expander.storeAll 0x0C [banka, bankb] (Expander.storeAll 0x00 [banka, bankb, 0xFF, 0xFF] e) =
      configured banka bankb e := by
  have hStores : Expander.storeAll 0x0C [banka, bankb] (Expander.storeAll 0x00 [banka, bankb, 0xFF, 0xFF] e) =
      { e with register := Function.update (Function.update (Function.update (Function.update (Function.update
        (Function.update e.register 0x00 banka) 0x01 bankb) 0x02 0xFF) 0x03 0xFF) 0x0C banka) 0x0D bankb } := rfl
  rw [hStores, configured]
  refine congrArg (fun register => { e with register := register }) ?_
  funext address
  have hDir : ioDir 0 = 0x00 ∧ ioDir 1 = 0x01 := by decide
  have hPol : iPol 0 = 0x02 ∧ iPol 1 = 0x03 := by decide
  have hPull : gppu 0 = 0x0C ∧ gppu 1 = 0x0D := by decide
  simp only [Function.update_apply, hDir, hPol, hPull]
  split_ifs <;> simp_all

/-- What a call leaves: the chips as `p`, waiting again, the ports as they were, and bytes for `c` alone. -/
structure Served (c : ChipName) (p : Peripherals) (b b' : Bench) : Prop where
  peripherals : b'.peripherals = p
  idle : Idle b'
  ddrB : b'.ddrB = b.ddrB
  portB : b'.portB = b.portB
  exchanged : ∃ outs : List Byte, b'.exchanged = (outs.map fun out => (only c, out)) ++ b.exchanged

theorem Served.trans {c : ChipName} {p p' : Peripherals} {b b' b'' : Bench} (h : Served c p b b')
    (h' : Served c p' b' b'') : Served c p' b b'' where
  peripherals := h'.peripherals
  idle := h'.idle
  ddrB := h'.ddrB.trans h.ddrB
  portB := h'.portB.trans h.portB
  exchanged := by
    obtain ⟨outs, hOuts⟩ := h.exchanged
    obtain ⟨outs', hOuts'⟩ := h'.exchanged
    exact ⟨outs' ++ outs, by rw [hOuts', hOuts, List.map_append, List.append_assoc]⟩

section Calls

variable {wiring : (ChipName → Option Byte) → Byte} (hWiring : Faithful wiring) {b : Bench} (h : Idle b)
include hWiring h

theorem converse_expander (outs : List Byte) :
    let talked := Expander.slave.session outs b.peripherals.expander
    (converse wiring spiGpio outs b).1 = talked.1 ∧
      Served .expander { b.peripherals with expander := talked.2 } b (converse wiring spiGpio outs b).2 := by
  have hConverse : converse wiring spiGpio outs b = _ := converse_eq hWiring h.resting .expander outs
  rw [hConverse]
  refine ⟨rfl, rfl, ⟨⟨h.resting.ddrB, h.resting.portB, h.resting.selected⟩, rfl, h.converter⟩, rfl, rfl, ?_⟩
  exact ⟨outs.reverse, by rw [List.map_reverse]⟩

theorem converse_converter (outs : List Byte) :
    let talked := Converter.slave.session outs b.peripherals.converter
    (converse wiring spiAdc outs b).1 = talked.1 ∧
      Served .converter { b.peripherals with converter := talked.2 } b (converse wiring spiAdc outs b).2 := by
  have hConverse : converse wiring spiAdc outs b = _ := converse_eq hWiring h.resting .converter outs
  rw [hConverse]
  refine ⟨rfl, rfl, ⟨⟨h.resting.ddrB, h.resting.portB, h.resting.selected⟩, h.expander, rfl⟩, rfl, rfl, ?_⟩
  exact ⟨outs.reverse, by rw [List.map_reverse]⟩

/-- A write session from an address on. -/
theorem converse_store (address : Byte) (bytes : List Byte) :
    Served .expander { b.peripherals with expander := Expander.storeAll address bytes b.peripherals.expander } b
      (converse wiring spiGpio (0x40 :: address :: bytes) b).2 := by
  have hServed := (converse_expander hWiring h (0x40 :: address :: bytes)).2
  have hPhase : (Expander.storeAll address bytes b.peripherals.expander).phase = .opcode := by
    rw [Expander.storeAll_phase_eq, h.expander]
  rw [Expander.session_write, waiting_eq hPhase] at hServed
  exact hServed

theorem gpioWrite_served (bank data : Byte) :
    Served .expander (Call.meaning (.write bank data) b.peripherals).2 b (gpioWrite wiring bank data b) := by
  have hServed := converse_store hWiring h (0x12 + (bank &&& 0x01)) [data]
  rw [Expander.storeAll, Expander.storeAll, Expander.store, target_gpio] at hServed
  exact hServed

theorem gpioSetDir_served (banka bankb : Byte) :
    Served .expander (Call.meaning (.setDir banka bankb) b.peripherals).2 b (gpioSetDir wiring banka bankb b) := by
  have hDirections := converse_store hWiring h 0x00 [banka, bankb, 0xFF, 0xFF]
  have hPullUps := converse_store hWiring hDirections.idle 0x0C [banka, bankb]
  rw [hDirections.peripherals, storeAll_configured] at hPullUps
  exact hDirections.trans hPullUps

theorem gpioRead_served (bank : Byte) :
    (gpioRead wiring bank b).1 = b.peripherals.expander.port (bankOf bank) ∧
      Served .expander b.peripherals b (gpioRead wiring bank b).2 := by
  obtain ⟨hAnswers, hServed⟩ := converse_expander hWiring h [0x41, 0x12 + (bank &&& 0x01), 0x00]
  rw [Expander.session_read, waiting_eq h.expander] at hServed
  rw [Expander.session_read, value_gpio] at hAnswers
  have hInput : (converse wiring spiGpio [0x41, 0x12 + (bank &&& 0x01), 0x00] b).1 =
      [_, _, (gpioRead wiring bank b).1] := rfl
  rw [hInput] at hAnswers
  injection hAnswers with _ hAnswers
  injection hAnswers with _ hAnswers
  injection hAnswers with hAnswer _
  exact ⟨hAnswer, hServed⟩

theorem adcGetValue_served (ch : Byte) :
    (adcGetValue wiring ch b).1 = (b.peripherals.converter.input (ch.setWidth 2)).setWidth 16 ∧
      Served .converter b.peripherals b (adcGetValue wiring ch b).2 := by
  have hWaiting : b.peripherals.converter.waiting = b.peripherals.converter := by
    rw [Converter.waiting, ← h.converter]
  obtain ⟨hAnswers, hServed⟩ := converse_converter hWiring h [0b00000110, ch <<< 6, 0xFF]
  rw [Converter.session_convert, hWaiting] at hServed
  rw [Converter.session_convert] at hAnswers
  refine ⟨?_, hServed⟩
  have hOutput : (adcGetValue wiring ch b).1 =
      ((((converse wiring spiAdc [0b00000110, ch <<< 6, 0xFF] b).1.getD 1 0).setWidth 16 <<< 8 |||
        ((converse wiring spiAdc [0b00000110, ch <<< 6, 0xFF] b).1.getD 2 0).setWidth 16) &&& 0xFFF : Word) := rfl
  rw [hOutput, hAnswers]
  exact Converter.twelve_bits ..

def callee : Call → ChipName
  | .convert _ => .converter
  | _ => .expander

theorem perform_served (call : Call) :
    (call.perform wiring b).1 = (call.meaning b.peripherals).1 ∧
      Served (callee call) (call.meaning b.peripherals).2 b (call.perform wiring b).2 := by
  cases call with
  | write bank data => exact ⟨rfl, gpioWrite_served hWiring h bank data⟩
  | read bank =>
    obtain ⟨hInput, hServed⟩ := gpioRead_served hWiring h bank
    exact ⟨congrArg (fun input : Byte => some (input.setWidth 16)) hInput, hServed⟩
  | setDir banka bankb => exact ⟨rfl, gpioSetDir_served hWiring h banka bankb⟩
  | convert ch =>
    obtain ⟨hOutput, hServed⟩ := adcGetValue_served hWiring h ch
    exact ⟨congrArg some hOutput, hServed⟩

end Calls

/-- Every byte went to exactly one chip. -/
def Exclusive (exchanged : List ((ChipName → Bool) × Byte)) : Prop := ∀ x ∈ exchanged, ∃ c, x.1 = only c

/-- The bench does what the chips alone would, and nothing but the select lines moved PORTB. -/
structure Realizes (portB : Byte) (b : Bench) (p : Peripherals) : Prop where
  peripherals : b.peripherals = p
  idle : Idle b
  portB : b.portB = portB
  exclusive : Exclusive b.exchanged

theorem Served.exclusive {c : ChipName} {p : Peripherals} {b b' : Bench} (h : Served c p b b')
    (hBefore : Exclusive b.exchanged) : Exclusive b'.exchanged := by
  obtain ⟨outs, hOuts⟩ := h.exchanged
  rw [hOuts]
  rintro x hMem
  obtain hNew | hOld := List.mem_append.mp hMem
  · obtain ⟨out, -, rfl⟩ := List.mem_map.mp hNew
    exact ⟨c, rfl⟩
  · exact hBefore x hOld

theorem setDdrB_idle {b : Bench} (h : Idle b) : Idle (b.setDdrB 0x80) ∧ (b.setDdrB 0x80).bus = b.bus := by
  have hAll : ∀ d : Byte, d &&& 0x30 = 0x30 → (d ||| 0x80) &&& 0x30 = 0x30 := by decide +kernel
  have hBus : (b.setDdrB 0x80).bus = b.bus :=
    Bus.drive_same chips (h.resting.selected.trans (lines_nobody _ h.resting.portB).symm)
  have hPeripherals : (b.setDdrB 0x80).peripherals = b.peripherals := by
    rw [Bench.peripherals, hBus, ← Bench.peripherals]
  refine ⟨⟨⟨hAll b.ddrB h.resting.ddrB, h.resting.portB, ?_⟩, ?_, ?_⟩, hBus⟩
  · rw [hBus]
    exact h.resting.selected
  · rw [hPeripherals]
    exact h.expander
  · rw [hPeripherals]
    exact h.converter

theorem step_realizes {wiring : (ChipName → Option Byte) → Byte} (hWiring : Faithful wiring) {portB : Byte}
    (b : Bench) (p : Peripherals) (e : Event) (h : Realizes portB b p) :
    b.answer wiring e = p.answer e ∧ Realizes portB (b.step wiring e) (p.step e) := by
  obtain ⟨rfl, hIdle, hPort, hExclusive⟩ := h
  cases e with
  | call call =>
    obtain ⟨hAnswer, hServed⟩ := perform_served hWiring hIdle call
    exact ⟨hAnswer, hServed.peripherals, hServed.idle, hServed.portB.trans hPort, hServed.exclusive hExclusive⟩
  | levels level =>
    obtain ⟨hResting, hOpcode, hStart⟩ := hIdle
    exact ⟨rfl, rfl, ⟨⟨hResting.ddrB, hResting.portB, hResting.selected⟩, hOpcode, hStart⟩, hPort, hExclusive⟩
  | inputs input undriven =>
    obtain ⟨hResting, hOpcode, hStart⟩ := hIdle
    exact ⟨rfl, rfl, ⟨⟨hResting.ddrB, hResting.portB, hResting.selected⟩, hOpcode, hStart⟩, hPort, hExclusive⟩
  | timerOutput =>
    obtain ⟨hAfter, hBus⟩ := setDdrB_idle hIdle
    have hPeripherals : (b.setDdrB 0x80).peripherals = b.peripherals := by
      rw [Bench.peripherals, hBus, ← Bench.peripherals]
    exact ⟨rfl, hPeripherals, hAfter, hPort, hExclusive⟩

/-- Before `SPI_MasterInit`: every pin is an input, and the chips come out of their reset. -/
def powered (level : Byte → Byte) (input : BitVec 2 → BitVec 12) (undriven : Byte) : Bench where
  ddrB := 0
  portB := 0
  bus := ⟨nobody, fun
    | .expander => Expander.reset level
    | .converter => Converter.reset input undriven⟩
  exchanged := []

theorem storePins_still {s : ∀ c, ChipState c} (hStill : ∀ c, (chips c).select (s c) = s c ∧ (chips c).release (s c) = s c)
    (d p : Byte) {b : Bench} (h : b.bus.state = s) : (b.storePins d p).bus.state = s :=
  (Bus.drive_still chips (h.symm ▸ hStill) _).trans h

/-- `SPI_MasterInit` selects both chips for a moment, but sends nothing. -/
theorem spiMasterInit_realizes (level : Byte → Byte) (input : BitVec 2 → BitVec 12) (undriven : Byte) :
    Realizes 0x30 (spiMasterInit (powered level input undriven))
      ⟨Expander.reset level, Converter.reset input undriven⟩ := by
  have hPort : (spiMasterInit (powered level input undriven)).portB = 0x30 := by
    change 0 ||| pin .expander ||| pin .converter = (0x30 : Byte)
    decide
  have hDir : (spiMasterInit (powered level input undriven)).ddrB = 0x37 := by
    change (0 ||| 0x07) &&& ~~~0x08 ||| pin .expander ||| pin .converter = (0x37 : Byte)
    decide
  have hSelected : (spiMasterInit (powered level input undriven)).bus.selected = nobody := by
    have hLines : (spiMasterInit (powered level input undriven)).bus.selected =
      lines (spiMasterInit (powered level input undriven)).ddrB
        (spiMasterInit (powered level input undriven)).portB := rfl
    rw [hLines, hPort, lines_nobody _ (by decide)]
  have hPeripherals : (spiMasterInit (powered level input undriven)).peripherals =
      ⟨Expander.reset level, Converter.reset input undriven⟩ := by
    have hStill : ∀ c, (chips c).select ((powered level input undriven).bus.state c) =
          (powered level input undriven).bus.state c ∧
        (chips c).release ((powered level input undriven).bus.state c) =
          (powered level input undriven).bus.state c := by
      intro c
      cases c <;> exact ⟨rfl, rfl⟩
    have hState : (spiMasterInit (powered level input undriven)).bus.state = (powered level input undriven).bus.state := by
      iterate 6 apply storePins_still hStill
      rfl
    rw [Bench.peripherals, hState]
    rfl
  refine ⟨hPeripherals, ⟨⟨?_, ?_, hSelected⟩, ?_, ?_⟩, hPort, fun x hMem => absurd hMem List.not_mem_nil⟩
  · rw [hDir]
    decide
  · rw [hPort]
    decide
  · rw [hPeripherals]
    rfl
  · rw [hPeripherals]
    rfl

/-- Of two chips that answer, the master reads the AND. -/
def wiredAnd (heard : ChipName → Option Byte) : Byte :=
  (heard .expander).getD 0xFF &&& (heard .converter).getD 0xFF

theorem wiredAnd_faithful : Faithful wiredAnd := by
  rintro c word
  cases c with
  | expander => exact BitVec.and_allOnes
  | converter => exact BitVec.allOnes_and

/-- After `SPI_MasterInit` the drivers give every answer that the chips' own registers and inputs give,
whatever the calls and their order; no byte ever goes to two chips or to none. -/
theorem calls_realized {wiring : (ChipName → Option Byte) → Byte} (hWiring : Faithful wiring)
    (level : Byte → Byte) (input : BitVec 2 → BitVec 12) (undriven : Byte) (events : List Event) :
    let b := spiMasterInit (powered level input undriven)
    let p : Peripherals := ⟨Expander.reset level, Converter.reset input undriven⟩
    StepRun.emitted (Bench.step wiring) (Bench.answer wiring) b events =
        StepRun.emitted Peripherals.step Peripherals.answer p events ∧
      Realizes 0x30 (StepRun.run (Bench.step wiring) b events) (StepRun.run Peripherals.step p events) :=
  StepRun.run_simulates (Realizes 0x30) (step_realizes hWiring) (spiMasterInit_realizes level input undriven) events

/-- The expander is set up and the lights are written, then port A and the first channel are read. -/
def session : List Event :=
  [.call (.setDir 0x0f 0x00), .call (.write 1 0x2A), .levels fun _ => 0x05, .call (.read 0), .timerOutput,
    .call (.convert 0)]

theorem session_realized :
    StepRun.emitted (Bench.step wiredAnd) (Bench.answer wiredAnd)
        (spiMasterInit (powered (fun _ => 0) (fun _ => 0x123) 0)) session = [0xFA, 0x123] :=
  (calls_realized wiredAnd_faithful (fun _ => 0) (fun _ => 0x123) 0 session).1.trans (by decide +kernel)

end WheelDisplay.Spi
