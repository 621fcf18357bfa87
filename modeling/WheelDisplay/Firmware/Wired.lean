import WheelDisplay.Firmware.ButtonEdge
import WheelDisplay.Mcp3204.NoiseFloor
import WheelDisplay.Spi.Peripherals

/-! # The firmware on its board

`Firmware` is told the buttons and the samples, and keeps what it sends to the port
expander. Here it gets them from the chips on the SPI bus, through the drivers, and
the bytes for the expander go over the bus too. The conversions of `ADCinit` leave
the chips as they are, so `floor` is any noise floor; C does not fix which of the
two channels a turn converts first.
-/

namespace WheelDisplay.Firmware

open Spi Mcp23s17 SerialBus Usb

structure Wired where
  firmware : Firmware
  bench : Bench

/-- What the world does to the chips. -/
structure Outside where
  level : Byte → Byte
  input : BitVec 2 → BitVec 12

inductive Happening where
  | firmware (e : Event)
  | outside (world : Outside) (undriven : Byte)

/-- The buttons that a read of port A gives, where `GPIOWrite(0, 1)` drives the upper half: an
output that is low reads as a pressed button. -/
def Outside.buttons (world : Outside) : Byte := 0xF0 ||| ~~~(world.level 0) &&& 0x0F

def Outside.sample (world : Outside) (floor : Fin 2 → Word) (ch : Fin 2) : Nlms.Sample :=
  (world.input (BitVec.ofNat 2 ch.val)).setWidth 16 - floor ch

def Surroundings.observe (buttons : Byte) (voice noise : Nlms.Sample) (found : Surroundings) : Surroundings :=
  { found with buttons := buttons, host := { found.host with buttons := buttons }, voice := voice, noise := noise }

namespace Wired

section Steps

variable (wiring : (ChipName → Option Byte) → Byte) (floor : Fin 2 → Word) (voiceFirst : Bool)

/-- The two calls of `CALLBACK_HID_Device_CreateHIDReport`. -/
def readButtons (b : Bench) : Byte × Bench := gpioRead wiring 0 (gpioWrite wiring 0 1 b)

def convert (ch : Fin 2) (b : Bench) : Nlms.Sample × Bench :=
  let (value, b) := adcGetValue wiring (BitVec.ofNat 8 ch.val) b
  (value - floor ch, b)

def convertBoth (b : Bench) : (Nlms.Sample × Nlms.Sample) × Bench :=
  if voiceFirst then
    let (voice, b) := convert wiring floor Mcp3204.channel0 b
    let (noise, b) := convert wiring floor Mcp3204.channel1 b
    ((voice, noise), b)
  else
    let (noise, b) := convert wiring floor Mcp3204.channel1 b
    let (voice, b) := convert wiring floor Mcp3204.channel0 b
    ((voice, noise), b)

/-- `ShiftLedsUpdate`, which the update block calls. -/
def shiftLedsUpdate (f : Firmware) (b : Bench) : Bench :=
  gpioWrite wiring 1 ((f.device.data typeShiftleds &&& 0x7F).setWidth 8) b

def bodyBench (f : Firmware) (b : Bench) : Bench :=
  if (catchButtons f).device.updatePending = 0 then b else shiftLedsUpdate wiring (catchButtons f) b

def runTask (found : Surroundings) (w : Wired) : Wired :=
  match w.firmware.next with
  | .body =>
    let ((voice, noise), b) := convertBoth wiring floor voiceFirst (bodyBench wiring w.firmware w.bench)
    ⟨w.firmware.step (.task (found.observe 0 voice noise)), b⟩
  | _ =>
    let (buttons, b) :=
      if (sampled w.firmware (.task found)).isSome then readButtons wiring w.bench else (0, w.bench)
    ⟨w.firmware.step (.task (found.observe buttons 0 0)), b⟩

def step (w : Wired) : Happening → Wired
  | .firmware (.task found) => w.runTask wiring floor voiceFirst found
  | .firmware e => { w with firmware := w.firmware.step e }
  | .outside world undriven =>
    { w with bench := (w.bench.step wiring (.levels world.level)).step wiring (.inputs world.input undriven) }

def start (beyond : Nat → Lcd.LCDtext) (world : Outside) (undriven : Byte) : Wired where
  firmware := entry beyond
  bench := (gpioInit wiring (spiMasterInit (powered world.level world.input undriven))).setDdrB 0x80

end Steps

end Wired

/-- `polled` tells whether the buttons have been read before. -/
structure Facing where
  firmware : Firmware
  world : Outside
  polled : Bool

namespace Facing

def polls (s : Facing) : Happening → Bool
  | .firmware (.task found) => (sampled s.firmware (.task found)).isSome
  | _ => false

def observed (floor : Fin 2 → Word) (found : Surroundings) (s : Facing) : Surroundings :=
  match s.firmware.next with
  | .body => found.observe 0 (s.world.sample floor Mcp3204.channel0) (s.world.sample floor Mcp3204.channel1)
  | _ => found.observe (if (sampled s.firmware (.task found)).isSome then s.world.buttons else 0) 0 0

/-- The event that the firmware takes for a happening. -/
def event (floor : Fin 2 → Word) (s : Facing) : Happening → Option Event
  | .firmware (.task found) => some (.task (s.observed floor found))
  | .firmware e => some e
  | .outside _ _ => none

def step (floor : Fin 2 → Word) (s : Facing) (happening : Happening) : Facing where
  firmware := (s.event floor happening).toList.foldl Firmware.step s.firmware
  world :=
    match happening with
    | .outside world _ => world
    | _ => s.world
  polled := s.polled || s.polls happening

end Facing

/-- Port A reads four inputs and drives four pins, and port B drives the shift lights. -/
def boardRegisters (polled : Bool) (leds : Byte) : Byte → Byte := fun address =>
  if address = ioDir 0 ∨ address = gppu 0 then 0x0F
  else if address = ioDir 1 ∨ address = gppu 1 then 0x00
  else if address = iPol 0 ∨ address = iPol 1 then 0xFF
  else if address = olat 0 then (if polled then 0x01 else 0xFF)
  else if address = olat 1 then leds
  else 0

structure OnBoard (s : Facing) (b : Bench) : Prop where
  idle : Idle b
  portB : b.portB = 0x30
  exclusive : Exclusive b.exchanged
  level : b.peripherals.expander.level = s.world.level
  input : b.peripherals.converter.input = s.world.input
  register : b.peripherals.expander.register = boardRegisters s.polled s.firmware.gpiob

theorem boardRegisters_leds (polled : Bool) (leds data : Byte) :
    Function.update (boardRegisters polled leds) (olat 1) data = boardRegisters polled data := by
  funext address
  have hOther : olat 1 ≠ ioDir 0 ∧ olat 1 ≠ gppu 0 ∧ olat 1 ≠ ioDir 1 ∧ olat 1 ≠ gppu 1 ∧ olat 1 ≠ iPol 0 ∧
      olat 1 ≠ iPol 1 ∧ olat 1 ≠ olat 0 := by decide
  rw [Function.update_apply, boardRegisters, boardRegisters]
  grind

theorem boardRegisters_poll (polled : Bool) (leds : Byte) :
    Function.update (boardRegisters polled leds) (olat 0) 0x01 = boardRegisters true leds := by
  funext address
  have hOther : olat 0 ≠ ioDir 0 ∧ olat 0 ≠ gppu 0 ∧ olat 0 ≠ ioDir 1 ∧ olat 0 ≠ gppu 1 ∧ olat 0 ≠ iPol 0 ∧
      olat 0 ≠ iPol 1 := by decide
  rw [Function.update_apply, boardRegisters, boardRegisters]
  grind

/-- The registers after `GPIOInit`. -/
theorem boardRegisters_boot (level : Byte → Byte) :
    Function.update (configured 0x0F 0x00 (Expander.reset level)).register (olat 0) 0xFF = boardRegisters false 0 := by
  funext address
  have hOther : olat 0 ≠ ioDir 0 ∧ olat 0 ≠ gppu 0 ∧ olat 0 ≠ ioDir 1 ∧ olat 0 ≠ gppu 1 ∧ olat 0 ≠ iPol 0 ∧
      olat 0 ≠ iPol 1 := by decide
  simp only [Function.update_apply, boardRegisters, configured, Expander.reset]
  grind

theorem buttons_eq {e : Expander} {world : Outside} {leds : Byte} (hLevel : e.level = world.level)
    (hRegister : e.register = boardRegisters true leds) : e.port 0 = world.buttons := by
  have hAll : ∀ level : Byte, (level &&& 0x0F ||| 0x01 &&& ~~~0x0F) ^^^ 0xFF = 0xF0 ||| ~~~level &&& 0x0F := by
    decide +kernel
  have hDir : boardRegisters true leds (ioDir 0) = 0x0F := rfl
  have hLatch : boardRegisters true leds (olat 0) = 0x01 := rfl
  have hPol : boardRegisters true leds (iPol 0) = 0xFF := rfl
  rw [Expander.port, hLevel, hRegister, hDir, hLatch, hPol]
  exact hAll (world.level 0)

/-- A call after which the registers of the expander are those of the board. -/
theorem OnBoard.served {s s' : Facing} {b b' : Bench} {c : ChipName} {p : Peripherals} (h : OnBoard s b)
    (hServed : Served c p b b') (hWorld : s'.world = s.world)
    (hLevel : p.expander.level = b.peripherals.expander.level)
    (hInput : p.converter.input = b.peripherals.converter.input)
    (hRegister : p.expander.register = boardRegisters s'.polled s'.firmware.gpiob) : OnBoard s' b' where
  idle := hServed.idle
  portB := hServed.portB.trans h.portB
  exclusive := hServed.exclusive h.exclusive
  level := by rw [hServed.peripherals, hLevel, h.level, hWorld]
  input := by rw [hServed.peripherals, hInput, h.input, hWorld]
  register := by rw [hServed.peripherals, hRegister]

section Board

variable {wiring : (ChipName → Option Byte) → Byte} (hWiring : SerialBus.Faithful wiring) {s : Facing} {b : Bench}
  (h : OnBoard s b)
include hWiring h

theorem readButtons_onBoard :
    (Wired.readButtons wiring b).1 = s.world.buttons ∧ OnBoard { s with polled := true } (Wired.readButtons wiring b).2 := by
  have hWrite := gpioWrite_served hWiring h.idle 0 1
  have hBoard : OnBoard { s with polled := true } (gpioWrite wiring 0 1 b) := by
    refine h.served hWrite rfl rfl rfl ?_
    change Function.update b.peripherals.expander.register (olat 0) 0x01 = _
    rw [h.register, boardRegisters_poll]
  obtain ⟨hInput, hRead⟩ := gpioRead_served hWiring hBoard.idle 0
  refine ⟨hInput.trans (buttons_eq hBoard.level hBoard.register), ?_⟩
  exact hBoard.served hRead rfl rfl rfl hBoard.register

theorem shiftLedsUpdate_onBoard (f : Firmware) :
    OnBoard { s with firmware := { s.firmware with gpiob := (f.device.data typeShiftleds &&& 0x7F).setWidth 8 } }
      (Wired.shiftLedsUpdate wiring f b) := by
  refine h.served (gpioWrite_served hWiring h.idle 1 _) rfl rfl rfl ?_
  change Function.update b.peripherals.expander.register (olat 1) _ = _
  rw [h.register, boardRegisters_leds]

theorem convert_onBoard (floor : Fin 2 → Word) (ch : Fin 2) :
    (Wired.convert wiring floor ch b).1 = s.world.sample floor ch ∧ OnBoard s (Wired.convert wiring floor ch b).2 := by
  obtain ⟨hOutput, hConvert⟩ := adcGetValue_served hWiring h.idle (BitVec.ofNat 8 ch.val)
  have hChannel : (BitVec.ofNat 8 ch.val).setWidth 2 = BitVec.ofNat 2 ch.val := by bv_omega
  rw [h.input, hChannel] at hOutput
  exact ⟨congrArg (fun value : Word => value - floor ch) hOutput, h.served hConvert rfl rfl rfl h.register⟩

theorem convertBoth_onBoard (floor : Fin 2 → Word) (voiceFirst : Bool) :
    (Wired.convertBoth wiring floor voiceFirst b).1 =
        (s.world.sample floor Mcp3204.channel0, s.world.sample floor Mcp3204.channel1) ∧
      OnBoard s (Wired.convertBoth wiring floor voiceFirst b).2 := by
  cases voiceFirst with
  | true =>
    obtain ⟨hVoice, hFirst⟩ := convert_onBoard hWiring h floor Mcp3204.channel0
    obtain ⟨hNoise, hSecond⟩ := convert_onBoard hWiring hFirst floor Mcp3204.channel1
    exact ⟨Prod.ext hVoice hNoise, hSecond⟩
  | false =>
    obtain ⟨hNoise, hFirst⟩ := convert_onBoard hWiring h floor Mcp3204.channel1
    obtain ⟨hVoice, hSecond⟩ := convert_onBoard hWiring hFirst floor Mcp3204.channel0
    exact ⟨Prod.ext hVoice hNoise, hSecond⟩

end Board

theorem start_onBoard {wiring : (ChipName → Option Byte) → Byte} (hWiring : SerialBus.Faithful wiring)
    (beyond : Nat → Lcd.LCDtext) (world : Outside) (undriven : Byte) :
    OnBoard ⟨entry beyond, world, false⟩ (Wired.start wiring beyond world undriven).bench := by
  have hInit := spiMasterInit_realizes world.level world.input undriven
  have hDir := gpioSetDir_served hWiring hInit.idle 0x0F 0x00
  have hWrite := gpioWrite_served hWiring hDir.idle 0 0xFF
  rw [hDir.peripherals, hInit.peripherals] at hWrite
  have hBench : (Wired.start wiring beyond world undriven).bench =
      (gpioWrite wiring 0 0xFF (gpioSetDir wiring 0x0F 0x00
        (spiMasterInit (powered world.level world.input undriven)))).setDdrB 0x80 := rfl
  rw [hBench]
  generalize gpioWrite wiring 0 0xFF (gpioSetDir wiring 0x0F 0x00
    (spiMasterInit (powered world.level world.input undriven))) = b at hWrite
  obtain ⟨hIdle, hBus⟩ := setDdrB_idle hWrite.idle
  have hPeripherals : (b.setDdrB 0x80).peripherals = b.peripherals := by
    rw [Bench.peripherals, hBus, ← Bench.peripherals]
  refine ⟨hIdle, ?_, ?_, ?_, ?_, ?_⟩
  · rw [Bench.setDdrB_portB]
    exact (hWrite.portB.trans hDir.portB).trans hInit.portB
  · rw [Bench.setDdrB_exchanged]
    exact hWrite.exclusive (hDir.exclusive hInit.exclusive)
  · rw [hPeripherals, hWrite.peripherals]
    rfl
  · rw [hPeripherals, hWrite.peripherals]
    rfl
  · rw [hPeripherals, hWrite.peripherals]
    exact boardRegisters_boot world.level

theorem bodyBench_onBoard {wiring : (ChipName → Option Byte) → Byte} (hWiring : SerialBus.Faithful wiring) {s : Facing}
    {b : Bench} (h : OnBoard s b) (voice noise : Nlms.Sample) :
    OnBoard { s with firmware := body voice noise s.firmware } (Wired.bodyBench wiring s.firmware b) := by
  have hGpiob : (body voice noise s.firmware).gpiob = (update (catchButtons s.firmware)).gpiob := rfl
  have hKept : (catchButtons s.firmware).gpiob = s.firmware.gpiob := by
    rw [catchButtons]
    split <;> rfl
  rw [Wired.bodyBench]
  split
  next hNone =>
    refine ⟨h.idle, h.portB, h.exclusive, h.level, h.input, ?_⟩
    rw [h.register, hGpiob, update, if_pos hNone, hKept]
  next hPending =>
    have hUpdate := shiftLedsUpdate_onBoard hWiring h (catchButtons s.firmware)
    refine ⟨hUpdate.idle, hUpdate.portB, hUpdate.exclusive, hUpdate.level, hUpdate.input, ?_⟩
    rw [hUpdate.register, hGpiob, update, if_neg hPending]

theorem OnBoard.congr {s s' : Facing} {b : Bench} (h : OnBoard s b) (hWorld : s'.world = s.world)
    (hPolled : s'.polled = s.polled) (hLeds : s'.firmware.gpiob = s.firmware.gpiob) : OnBoard s' b where
  idle := h.idle
  portB := h.portB
  exclusive := h.exclusive
  level := by rw [h.level, hWorld]
  input := by rw [h.input, hWorld]
  register := by rw [h.register, hPolled, hLeds]

theorem outside_onBoard (wiring : (ChipName → Option Byte) → Byte) {s : Facing} {b : Bench} (h : OnBoard s b)
    (world : Outside) (undriven : Byte) :
    OnBoard { s with world := world } ((b.step wiring (.levels world.level)).step wiring (.inputs world.input undriven)) := by
  obtain ⟨⟨hResting, hOpcode, hStart⟩, hPort, hExclusive, -, -, hRegister⟩ := h
  exact ⟨⟨⟨hResting.ddrB, hResting.portB, hResting.selected⟩, hOpcode, hStart⟩, hPort, hExclusive, rfl, rfl, hRegister⟩

/-- The wired firmware is the one that faces the world, and its bench is the board. -/
def Matches (w : Wired) (s : Facing) : Prop := w.firmware = s.firmware ∧ OnBoard s w.bench

section Steps

variable {wiring : (ChipName → Option Byte) → Byte} (hWiring : SerialBus.Faithful wiring) (floor : Fin 2 → Word)
  (voiceFirst : Bool) {f : Firmware} {world : Outside} {polled : Bool} {b : Bench} (h : OnBoard ⟨f, world, polled⟩ b)
include hWiring h

theorem turn_matches (found : Surroundings) (hNext : f.next = .body) :
    Matches (Wired.step wiring floor voiceFirst ⟨f, b⟩ (.firmware (.task found)))
      (Facing.step floor ⟨f, world, polled⟩ (.firmware (.task found))) := by
  have hWired : Wired.step wiring floor voiceFirst ⟨f, b⟩ (.firmware (.task found)) =
      let converted := Wired.convertBoth wiring floor voiceFirst (Wired.bodyBench wiring f b)
      ⟨f.step (.task (found.observe 0 converted.1.1 converted.1.2)), converted.2⟩ := by
    simp only [Wired.step, Wired.runTask, hNext]
  have hObserved : Facing.observed floor found ⟨f, world, polled⟩ =
      found.observe 0 (world.sample floor Mcp3204.channel0) (world.sample floor Mcp3204.channel1) := by
    simp only [Facing.observed, hNext]
  have hPolls : Facing.polls ⟨f, world, polled⟩ (.firmware (.task found)) = false := by
    simp only [Facing.polls, sampled, hNext, Option.isSome_none]
  have hTurn : ∀ voice noise, (f.step (.task (found.observe 0 voice noise))).gpiob = (body voice noise f).gpiob := by
    intro voice noise
    rw [Firmware.step, Firmware.runTask, hNext]
    rfl
  obtain ⟨hSamples, hConverted⟩ := convertBoth_onBoard hWiring (bodyBench_onBoard hWiring h
    (world.sample floor Mcp3204.channel0) (world.sample floor Mcp3204.channel1)) floor voiceFirst
  rw [hWired]
  dsimp only
  rw [hSamples]
  refine ⟨?_, hConverted.congr rfl ?_ ?_⟩
  · change _ = f.step (.task (Facing.observed floor found ⟨f, world, polled⟩))
    rw [hObserved]
  · change (polled || Facing.polls ⟨f, world, polled⟩ (.firmware (.task found))) = polled
    rw [hPolls, Bool.or_false]
  · change (f.step (.task (Facing.observed floor found ⟨f, world, polled⟩))).gpiob = _
    rw [hObserved, hTurn]

theorem usbTasks_match (found : Surroundings) (hNext : f.next ≠ .body) :
    Matches (Wired.step wiring floor voiceFirst ⟨f, b⟩ (.firmware (.task found)))
      (Facing.step floor ⟨f, world, polled⟩ (.firmware (.task found))) := by
  have hGpiob : ∀ found, (f.step (.task found)).gpiob = f.gpiob := by
    intro found
    rw [Firmware.step, Firmware.runTask]
    split
    · rfl
    · rfl
    next hBody => exact absurd hBody hNext
  have hWired : Wired.step wiring floor voiceFirst ⟨f, b⟩ (.firmware (.task found)) =
      let polled := if (sampled f (.task found)).isSome then Wired.readButtons wiring b else (0, b)
      ⟨f.step (.task (found.observe polled.1 0 0)), polled.2⟩ := by
    simp only [Wired.step, Wired.runTask]
  have hObserved : Facing.observed floor found ⟨f, world, polled⟩ =
      found.observe (if (sampled f (.task found)).isSome then world.buttons else 0) 0 0 := by
    simp only [Facing.observed]
  have hStep : (Facing.step floor ⟨f, world, polled⟩ (.firmware (.task found))).firmware =
      f.step (.task (Facing.observed floor found ⟨f, world, polled⟩)) := rfl
  have hPolled : (Facing.step floor ⟨f, world, polled⟩ (.firmware (.task found))).polled =
      (polled || (sampled f (.task found)).isSome) := rfl
  rw [hObserved] at hStep
  rw [hWired]
  dsimp only
  cases hSampled : (sampled f (.task found)).isSome with
  | true =>
    rw [hSampled, if_pos rfl] at hStep
    rw [hSampled, Bool.or_true] at hPolled
    obtain ⟨hButtons, hBoard⟩ := readButtons_onBoard hWiring h
    refine ⟨?_, hBoard.congr rfl hPolled ?_⟩
    · rw [hStep]
      exact congrArg (fun buttons => f.step (.task (found.observe buttons 0 0))) hButtons
    · rw [hStep, hGpiob]
  | false =>
    rw [hSampled] at hStep
    rw [hSampled, Bool.or_false] at hPolled
    refine ⟨hStep.symm, h.congr rfl hPolled ?_⟩
    rw [hStep, hGpiob]

end Steps

theorem step_matches {wiring : (ChipName → Option Byte) → Byte} (hWiring : SerialBus.Faithful wiring) (floor : Fin 2 → Word)
    (voiceFirst : Bool) (w : Wired) (s : Facing) (happening : Happening) (h : Matches w s) :
    Matches (w.step wiring floor voiceFirst happening) (s.step floor happening) := by
  obtain ⟨f, b⟩ := w
  obtain ⟨f', world, polled⟩ := s
  obtain ⟨rfl, hBoard⟩ := h
  cases happening with
  | outside world' undriven =>
    have hPolled : (polled || false) = polled := Bool.or_false polled
    exact ⟨rfl, (outside_onBoard wiring hBoard world' undriven).congr rfl hPolled rfl⟩
  | firmware e =>
    cases e with
    | task found =>
      obtain hNext | hNext := eq_or_ne f.next .body
      · exact turn_matches hWiring floor voiceFirst hBoard found hNext
      · exact usbTasks_match hWiring floor voiceFirst hBoard found hNext
    | _ => exact ⟨rfl, hBoard.congr rfl (Bool.or_false polled) rfl⟩

theorem run_matches {wiring : (ChipName → Option Byte) → Byte} (hWiring : SerialBus.Faithful wiring) (floor : Fin 2 → Word)
    (voiceFirst : Bool) (beyond : Nat → Lcd.LCDtext) (world : Outside) (undriven : Byte) (happenings : List Happening) :
    Matches (StepRun.run (Wired.step wiring floor voiceFirst) (Wired.start wiring beyond world undriven) happenings)
      (StepRun.run (Facing.step floor) ⟨entry beyond, world, false⟩ happenings) :=
  StepRun.run_related Matches (step_matches hWiring floor voiceFirst) ⟨rfl, start_onBoard hWiring beyond world undriven⟩
    happenings

theorem facing_run (floor : Fin 2 → Word) (beyond : Nat → Lcd.LCDtext) (world : Outside) (happenings : List Happening) :
    (StepRun.run (Facing.step floor) ⟨entry beyond, world, false⟩ happenings).firmware =
      run beyond (StepRun.emitted (Facing.step floor) (Facing.event floor) ⟨entry beyond, world, false⟩ happenings) :=
  StepRun.project_run (Facing.event floor) Firmware.step Facing.firmware (fun _ _ => rfl) _ happenings

/-- On its board the firmware runs as it does when it is told the inverted levels of the four buttons and
the sampled voltages above the noise floor, and port B always shows the shift lights of the last update. -/
theorem wired_run {wiring : (ChipName → Option Byte) → Byte} (hWiring : SerialBus.Faithful wiring) (floor : Fin 2 → Word)
    (voiceFirst : Bool) (beyond : Nat → Lcd.LCDtext) (world : Outside) (undriven : Byte) (happenings : List Happening) :
    let s : Facing := ⟨entry beyond, world, false⟩
    let w := StepRun.run (Wired.step wiring floor voiceFirst) (Wired.start wiring beyond world undriven) happenings
    w.firmware = run beyond (StepRun.emitted (Facing.step floor) (Facing.event floor) s happenings) ∧
      OnBoard (StepRun.run (Facing.step floor) s happenings) w.bench := by
  intro s w
  have hMatches := run_matches hWiring floor voiceFirst beyond world undriven happenings
  exact ⟨hMatches.1.trans (facing_run floor beyond world happenings), hMatches.2⟩

/-- The third of the four buttons is held. -/
def thirdPressed : Outside := ⟨fun _ => 0x0B, fun _ => 0⟩

theorem wired_run_held :
    let s : Facing := ⟨entry fun _ => Lcd.blank, thirdPressed, false⟩
    let w := StepRun.run (Wired.step wiredAnd (fun _ => 0) true)
      (Wired.start wiredAnd (fun _ => Lcd.blank) thirdPressed 0) (held.map .firmware)
    w.firmware = run (fun _ => Lcd.blank) (StepRun.emitted (Facing.step fun _ => 0) (Facing.event fun _ => 0) s
        (held.map .firmware)) ∧
      OnBoard (StepRun.run (Facing.step fun _ => 0) s (held.map .firmware)) w.bench :=
  wired_run wiredAnd_faithful (fun _ => 0) true (fun _ => Lcd.blank) thirdPressed 0 (held.map .firmware)

end WheelDisplay.Firmware
