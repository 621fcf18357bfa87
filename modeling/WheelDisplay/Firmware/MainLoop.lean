import WheelDisplay.Lcd.Draw
import WheelDisplay.Lib.StepRun
import WheelDisplay.Nlms.Filter
import WheelDisplay.Usb.Standard

/-! # The main loop of wheel-display.c

A turn of the loop is three tasks: `HID_Device_USBTask`, `USB_USBTask` and the
rest of the body. The interrupts of the USB controller, and the SETUP packets it
receives, come between any two tasks. `Audio_Device_USBTask` does nothing.
-/

namespace WheelDisplay

open Lcd Usb

inductive Task where
  | hid
  | usb
  | body
  deriving DecidableEq

structure Firmware where
  device : Device
  lcdtypes : Nat → Byte
  labels : Labels
  drawn : List Ks0108.Call
  gpiob : Byte
  ocr1c : Word
  filter : Nlms.Filter
  audioSample : Nlms.Sample
  next : Task

namespace Firmware

open DisplayType

def typeShiftleds : Nat := 0x08

def typeBacklight : Nat := 0x09

def typeGear : Byte := 0x1F

def lcdtypesLength : Nat := 7

def entry (beyond : Nat → LCDtext) : Firmware where
  device := { Usb.initial with data := Function.update Usb.initial.data typeBacklight 512 }
  lcdtypes := fun i =>
    [typeGear, rpm.code, speed.code, pos.code, lap.code, laptime.code, delta.code].getD i 0
  labels := lcdInit (zeroed beyond)
  drawn := ks0108Clear
  gpiob := 0
  ocr1c := 512
  filter := Nlms.initial
  audioSample := 0
  next := .hid

def assign (i j : Nat) (left right : DisplayType) (types : Nat → Byte) : Nat → Byte :=
  Function.update (Function.update types i left.code) j right.code

def rotateTop (types : Nat → Byte) : Nat → Byte :=
  if types 2 = speed.code then assign 1 2 pos rpm types
  else if types 2 = rpm.code then assign 1 2 speed pos types
  else assign 1 2 rpm speed types

def rotateSecond (types : Nat → Byte) : Nat → Byte :=
  if types 3 = fuelNeed.code then assign 3 4 fuel fuelNeed types
  else if types 3 = fuel.code then assign 3 4 lap fuel types
  else if types 3 = lap.code then assign 3 4 lapsRem lap types
  else assign 3 4 fuelNeed lapsRem types

def redrawAll (l : Labels) : Labels := ⟨fun k => if k < 14 then (l k).setRedraw else l k⟩

/-- The block under `if(buttonChange)`. -/
def catchButtons (f : Firmware) : Firmware :=
  if f.device.buttonChange = 0 then f
  else
    let types := if f.device.buttonChange.getLsbD 0 then rotateTop f.lcdtypes else f.lcdtypes
    let types := if f.device.buttonChange.getLsbD 1 then rotateSecond types else types
    { f with
      lcdtypes := types
      labels := redrawAll f.labels
      device := { f.device with updatePending := 1 } }

def processType (types : Nat → Byte) (data : Nat → Word) (l : Labels) (i : Nat) : Labels :=
  lcdProcessMessage (2 * i) (types i) (data (types i).toNat) l

def processMessages (types : Nat → Byte) (data : Nat → Word) (l : Labels) : Labels :=
  (List.range lcdtypesLength).foldl (processType types data) l

/-- The block under `if(updatePending)`. -/
def update (f : Firmware) : Firmware :=
  if f.device.updatePending = 0 then f
  else
    let (calls, l) := lcdUpdate (processMessages f.lcdtypes f.device.data f.labels)
    { f with
      labels := l
      drawn := f.drawn ++ calls
      gpiob := (f.device.data typeShiftleds &&& 0x7F).setWidth 8
      ocr1c := f.device.data typeBacklight
      device := { f.device with updatePending := 0 } }

def filterSample (voice noise : Nlms.Sample) (f : Firmware) : Firmware :=
  let (filter, sample) := Nlms.nlms f.filter voice noise
  { f with filter := filter, audioSample := sample }

def body (voice noise : Nlms.Sample) (f : Firmware) : Firmware := (f.catchButtons.update).filterSample voice noise

theorem assign_right (i j : Nat) (left right : DisplayType) (types : Nat → Byte) :
    assign i j left right types j = right.code := Function.update_self ..

theorem assign_left {i j : Nat} (h : i ≠ j) (left right : DisplayType) (types : Nat → Byte) :
    assign i j left right types i = left.code := by
  rw [assign, Function.update_of_ne h, Function.update_self]

theorem assign_other {i j k : Nat} (hLeft : k ≠ i) (hRight : k ≠ j) (left right : DisplayType) (types : Nat → Byte) :
    assign i j left right types k = types k := by
  rw [assign, Function.update_of_ne hRight, Function.update_of_ne hLeft]

theorem catchButtons_device (f : Firmware) :
    ∃ pending, (catchButtons f).device = { f.device with updatePending := pending } := by
  rw [catchButtons]
  split
  · exact ⟨f.device.updatePending, rfl⟩
  · exact ⟨1, rfl⟩

theorem update_device (f : Firmware) :
    ∃ pending, (update f).device = { f.device with updatePending := pending } := by
  rw [update]
  split
  · exact ⟨f.device.updatePending, rfl⟩
  · exact ⟨0, rfl⟩

theorem update_lcdtypes (f : Firmware) : (update f).lcdtypes = f.lcdtypes := by
  rw [update]
  split <;> rfl

theorem body_eq (voice noise : Nlms.Sample) (f : Firmware) :
    ∃ filter sample, body voice noise f =
      { update (catchButtons f) with filter := filter, audioSample := sample } := ⟨_, _, rfl⟩

/-- Of what the other two tasks use, a turn changes `updatePending` alone. -/
theorem body_device (voice noise : Nlms.Sample) (f : Firmware) :
    ∃ pending, (body voice noise f).device = { f.device with updatePending := pending } := by
  obtain ⟨filter, sample, hBody⟩ := body_eq voice noise f
  obtain ⟨_, hCatch⟩ := catchButtons_device f
  obtain ⟨pending, hUpdate⟩ := update_device (catchButtons f)
  refine ⟨pending, ?_⟩
  rw [hBody, hUpdate, hCatch]

/-- The suspend interrupt; the controller of the AT90USB162 takes it for a disconnection. -/
def suspend (d : Device) : Device :=
  { d with deviceState := .unattached, audio := Audio.eventUSBDeviceDisconnect d.audio }

/-- The division by a sampling frequency of zero is undefined; the timer is then taken to stay. -/
def wakeUp (d : Device) : Device :=
  { d with
    deviceState :=
      if d.configurationNumber ≠ 0 then .configured
      else if d.deviceAddress &&& 0x80 ≠ 0 then .configured
      else .powered
    audio := (Audio.eventUSBDeviceConnect d.audio).getD d.audio }

def reset (d : Device) : Device :=
  { d with
    deviceState := .default
    configurationNumber := 0
    endpoints := d.endpoints.configureEndpoint 0 }

/-- What the tasks find when they look: the frame number, the RWAL flag of the report endpoint and the
buttons for the HID task, the host for the USB task, the two sampled inputs for the filter. -/
structure Surroundings where
  frameNumber : Word
  ready : Bool
  buttons : Byte
  host : Environment
  voice : Nlms.Sample
  noise : Nlms.Sample

def idle : Surroundings where
  frameNumber := 0
  ready := false
  buttons := 0
  host := patient
  voice := 0
  noise := 0

inductive Event where
  | setup (r : Request)
  | suspend
  | wakeUp
  | reset
  | startOfFrame
  | task (found : Surroundings)

/-- The step is a turn of the rest of the body. -/
def isTurn (f : Firmware) : Event → Bool
  | .task _ => f.next == .body
  | _ => false

def runTask (found : Surroundings) (f : Firmware) : Firmware :=
  match f.next with
  | .hid => { f with device := Hid.usbTask found.frameNumber found.ready found.buttons f.device, next := .usb }
  | .usb => { f with device := usbTask found.host f.device, next := .body }
  | .body => { body found.voice found.noise f with next := .hid }

def step (f : Firmware) : Event → Firmware
  | .setup r => { f with device := receive r f.device }
  | .suspend => { f with device := suspend f.device }
  | .wakeUp => { f with device := wakeUp f.device }
  | .reset => { f with device := reset f.device }
  | .startOfFrame => { f with device := Hid.millisecondElapsed f.device }
  | .task found => f.runTask found

def run (beyond : Nat → LCDtext) (events : List Event) : Firmware := StepRun.run step (entry beyond) events

end Firmware

end WheelDisplay
