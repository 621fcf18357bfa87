import WheelDisplay.Usb.Device

/-! # The HID class driver -/

namespace WheelDisplay.Usb

open Audio

def hidReqGetReport : Byte := 0x01

def hidReqGetIdle : Byte := 0x02

def hidReqGetProtocol : Byte := 0x03

def hidReqSetReport : Byte := 0x09

def hidReqSetIdle : Byte := 0x0A

def hidReqSetProtocol : Byte := 0x0B

namespace Hid

def getReport (env : Environment) (d : Device) : Device :=
  let (report, d) := callbackHIDDeviceCreateHIDReport env.buttons d
  let d := { d with prevReport := report }
  d.control fun e =>
    ((e.selectEndpoint 0).clearSETUP.writeControlStream env .report report.bytes d.request.wLength).clearOUT

/-- `CALLBACK_HID_Device_ProcessHIDReport` is empty. -/
def setReport (env : Environment) (d : Device) : Device :=
  d.control fun e => (e.clearSETUP.readControlStream env d.request.wLength).clearIN

def getProtocol (env : Environment) (d : Device) : Device :=
  d.control fun e =>
    let e := (e.clearSETUP.waitINReady env).note (.write8 (if d.hid.usingReportProtocol then 1 else 0))
    e.clearIN.clearStatusStage env d.request

def setProtocol (env : Environment) (d : Device) : Device :=
  let d := d.control fun e => e.clearSETUP.clearStatusStage env d.request
  { d with hid := { d.hid with usingReportProtocol := d.request.wValue &&& 0xFF != 0 } }

def setIdle (env : Environment) (d : Device) : Device :=
  let d := d.control fun e => e.clearSETUP.clearStatusStage env d.request
  { d with hid := { d.hid with idleCount := (d.request.wValue &&& 0xFF00) >>> 6 } }

def getIdle (env : Environment) (d : Device) : Device :=
  d.control fun e =>
    let e := (e.clearSETUP.waitINReady env).note (.write8 ((d.hid.idleCount >>> 2).setWidth 8))
    e.clearIN.clearStatusStage env d.request

def fromInterface : Byte := deviceToHost ||| typeClass ||| recInterface

def toInterface : Byte := hostToDevice ||| typeClass ||| recInterface

def processControlRequest (env : Environment) (d : Device) : Device :=
  let r := d.request
  if !d.endpoints.isSETUPReceived then d
  else if r.wIndex ≠ hidInterfaceNumber then d
  else if r.bRequest = hidReqGetReport then
    if r.bmRequestType = fromInterface then getReport env d else d
  else if r.bRequest = hidReqSetReport then
    if r.bmRequestType = toInterface then setReport env d else d
  else if r.bRequest = hidReqGetProtocol then
    if r.bmRequestType = fromInterface then getProtocol env d else d
  else if r.bRequest = hidReqSetProtocol then
    if r.bmRequestType = toInterface then setProtocol env d else d
  else if r.bRequest = hidReqSetIdle then
    if r.bmRequestType = toInterface then setIdle env d else d
  else if r.bRequest = hidReqGetIdle then
    if r.bmRequestType = fromInterface then getIdle env d else d
  else d

def configureEndpoints (d : Device) : Device :=
  let d := { d with hid := ⟨true, 0, 500, 0⟩ }
  d.control (·.configureEndpoint reportINEndpointNumber)

def millisecondElapsed (d : Device) : Device :=
  { d with hid := { d.hid with
    idleMSRemaining := if d.hid.idleMSRemaining = 0 then 0 else d.hid.idleMSRemaining - 1 } }

def idlePeriodElapsed (s : HidState) : Bool := s.idleCount != 0 && s.idleMSRemaining == 0

/-- `HID_Device_USBTask` in frame `frameNumber`, with `ready` the RWAL flag of the report endpoint. -/
def usbTask (frameNumber : Word) (ready : Bool) (buttons : Byte) (d : Device) : Device :=
  if d.deviceState ≠ .configured then d
  else if d.hid.prevFrameNum = frameNumber then d
  else
    let d := d.control (·.selectEndpoint reportINEndpointNumber)
    if !ready then d
    else
      let elapsed := idlePeriodElapsed d.hid
      let (report, d) := callbackHIDDeviceCreateHIDReport buttons d
      let statesChanged := report.button != d.prevReport.button || report.fix != d.prevReport.fix
      let d := { d with prevReport := report }
      let d :=
        if statesChanged || elapsed then
          let d := { d with hid := { d.hid with idleMSRemaining := d.hid.idleCount } }
          d.control fun e => ((e.selectEndpoint reportINEndpointNumber).note (.writeReport report)).clearIN
        else d
      { d with hid := { d.hid with prevFrameNum := frameNumber } }

end Hid

end WheelDisplay.Usb
