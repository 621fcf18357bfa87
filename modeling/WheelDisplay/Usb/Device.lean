import WheelDisplay.Audio.Endpoint
import WheelDisplay.Usb.Endpoint

/-! # The device: USB state and the globals that USB handlers reach

`data` is the memory from `data[0]` on, of which the array has 32 cells.
-/

namespace WheelDisplay.Usb

open Audio

structure HidState where
  usingReportProtocol : Bool
  prevFrameNum : Word
  idleCount : Word
  idleMSRemaining : Word

structure Device where
  request : Request
  endpoints : Endpoints
  deviceState : DeviceState
  deviceAddress : Byte
  configurationNumber : Byte
  currentlySelfPowered : Bool
  remoteWakeupEnabled : Bool
  hid : HidState
  prevReport : Report
  interfaceEnabled : Bool
  audio : AudioState
  gpioa : Byte
  prevButtonMask : Word
  buttonChange : Word
  data : Nat → Word
  updatePending : Byte

def dataLength : Nat := 32

def sizeofData : Nat := 2 * dataLength

def hidInterfaceNumber : Word := 2

def streamingInterfaceNumber : Word := 1

def reportINEndpointNumber : Byte := 1

def dataOUTEndpointNumber : Byte := 0

def deviceToHost : Byte := 0x80

def hostToDevice : Byte := 0x00

def typeStandard : Byte := 0x00

def typeClass : Byte := 0x20

def recDevice : Byte := 0

def recInterface : Byte := 1

def recEndpoint : Byte := 2

def requestTypeRecipient : Byte := 0x1F

def endpointEpnumMask : Byte := 0x0F

def initial : Device where
  request := ⟨0, 0, 0, 0, 0⟩
  endpoints := ⟨0, none, fun _ => false, fun _ => false, []⟩
  deviceState := .unattached
  deviceAddress := 0
  configurationNumber := 0
  currentlySelfPowered := false
  remoteWakeupEnabled := false
  hid := ⟨false, 0, 0, 0⟩
  prevReport := ⟨0, 0⟩
  interfaceEnabled := false
  audio := Audio.initial
  gpioa := 0
  prevButtonMask := 0
  buttonChange := 0
  data := fun _ => 0
  updatePending := 1

def Device.control (f : Endpoints → Endpoints) (d : Device) : Device :=
  { d with endpoints := f d.endpoints }

/-- `CALLBACK_HID_Device_CreateHIDReport`, with the level of the inputs that `GPIORead(0)` returns.
It never forces a report. -/
def callbackHIDDeviceCreateHIDReport (buttons : Byte) (d : Device) : Report × Device :=
  let report : Report := ⟨buttons.setWidth 16, 0⟩
  (report, { d with
    gpioa := 1
    buttonChange := (d.prevButtonMask ^^^ report.button) &&& report.button
    prevButtonMask := report.button })

end WheelDisplay.Usb
