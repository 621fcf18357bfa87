import WheelDisplay.Usb.AudioClass
import WheelDisplay.Usb.HidClass

/-! # Standard requests and the dispatch of a control request -/

namespace WheelDisplay.Usb

open Audio

def reqGetStatus : Byte := 0

def reqClearFeature : Byte := 1

def reqSetFeature : Byte := 3

def reqSetAddress : Byte := 5

def reqGetDescriptor : Byte := 6

def reqGetConfiguration : Byte := 8

def reqSetConfiguration : Byte := 9

def featureSelEndpointHalt : Byte := 0x00

def featureSelDeviceRemoteWakeup : Byte := 0x01

def fixedNumConfigurations : Byte := 1

def useInternalSerial : Word := 0xDC

/-- `CALLBACK_USB_GetDescriptor`, `none` for `NO_DESCRIPTOR`. -/
def callbackUSBGetDescriptor (wValue : Word) : Option Descriptor :=
  match ((wValue >>> 8).setWidth 8 : Byte).toNat, (wValue.setWidth 8 : Byte).toNat with
  | 0x01, _ => some .device
  | 0x02, _ => some .configuration
  | 0x03, 0x00 => some .languageString
  | 0x03, 0x01 => some .manufacturerString
  | 0x03, 0x02 => some .productString
  | 0x21, _ => some .hid
  | 0x22, _ => some .report
  | _, _ => none

namespace Standard

def setAddress (env : Environment) (d : Device) : Device :=
  let address : Byte := (d.request.wValue &&& 0x7F).setWidth 8
  let d := d.control fun e => (e.clearSETUP.clearStatusStage env d.request).waitINReady env
  { d with
    deviceAddress := address ||| 0x80
    deviceState := if address ≠ 0 then .addressed else .default }

def eventUSBDeviceConfigurationChanged (d : Device) : Device :=
  AudioClass.configureEndpoints (Hid.configureEndpoints d)

def setConfiguration (env : Environment) (d : Device) : Device :=
  let r := d.request
  if fixedNumConfigurations < (r.wValue.setWidth 8 : Byte) then d
  else
    let d := d.control (·.clearSETUP)
    let d := { d with configurationNumber := r.wValue.setWidth 8 }
    let d := d.control (·.clearStatusStage env r)
    let d := { d with deviceState :=
      if d.configurationNumber ≠ 0 then .configured
      else if d.deviceAddress &&& 0x80 ≠ 0 then .configured
      else .powered }
    eventUSBDeviceConfigurationChanged d

def getConfiguration (env : Environment) (d : Device) : Device :=
  d.control fun e =>
    (e.clearSETUP.note (.write8 d.configurationNumber)).clearIN.clearStatusStage env d.request

def sendDescriptor (env : Environment) (descriptor : Descriptor) (d : Device) : Device :=
  d.control fun e =>
    let e := e.clearSETUP
    (e.writeControlStream env (.descriptor descriptor) (env.descriptors descriptor) d.request.wLength).clearOUT

def getDescriptor (env : Environment) (d : Device) : Device :=
  if d.request.wValue = 0x0300 ||| useInternalSerial then sendDescriptor env .serial d
  else
    match callbackUSBGetDescriptor d.request.wValue with
    | none => d
    | some descriptor => sendDescriptor env descriptor d

def getStatus (env : Environment) (d : Device) : Device :=
  let r := d.request
  let answer (status : Byte) (d : Device) : Device :=
    d.control fun e =>
      (e.clearSETUP.note (.write16 (status.setWidth 16))).clearIN.clearStatusStage env r
  if r.bmRequestType = deviceToHost ||| typeStandard ||| recDevice then
    answer ((if d.currentlySelfPowered then 1 else 0) ||| (if d.remoteWakeupEnabled then 2 else 0)) d
  else if r.bmRequestType = deviceToHost ||| typeStandard ||| recEndpoint then
    let d := d.control (·.selectEndpoint (r.wIndex.setWidth 8 &&& endpointEpnumMask))
    let status : Byte := if d.endpoints.isStalled then 1 else 0
    answer status (d.control (·.selectEndpoint 0))
  else d

def haltEndpoint (r : Request) (number : Byte) (e : Endpoints) : Endpoints :=
  let e := e.selectEndpoint number
  if e.isEnabled then
    if r.bRequest = reqSetFeature then e.stallTransaction
    else (e.clearStall.note .reset).note .resetDataToggle
  else e

def clearSetFeature (env : Environment) (d : Device) : Device :=
  let r := d.request
  let finish (d : Device) : Device :=
    d.control fun e => (e.selectEndpoint 0).clearSETUP.clearStatusStage env r
  if r.bmRequestType &&& requestTypeRecipient = recDevice then
    if (r.wValue.setWidth 8 : Byte) = featureSelDeviceRemoteWakeup then
      finish { d with remoteWakeupEnabled := r.bRequest == reqSetFeature }
    else d
  else if r.bmRequestType &&& requestTypeRecipient = recEndpoint then
    if (r.wValue.setWidth 8 : Byte) = featureSelEndpointHalt then
      let endpointIndex : Byte := r.wIndex.setWidth 8 &&& endpointEpnumMask
      if endpointIndex = 0 then d else finish (d.control (haltEndpoint r endpointIndex))
    else finish d
  else d

/-- The switch of `USB_Device_ProcessControlRequest`. -/
def processControlRequest (env : Environment) (d : Device) : Device :=
  let r := d.request
  let standard (direction recipient : Byte) : Bool :=
    r.bmRequestType == direction ||| typeStandard ||| recipient
  if r.bRequest = reqGetStatus then
    if standard deviceToHost recDevice || standard deviceToHost recEndpoint then getStatus env d else d
  else if r.bRequest = reqClearFeature ∨ r.bRequest = reqSetFeature then
    if standard hostToDevice recDevice || standard hostToDevice recEndpoint then clearSetFeature env d else d
  else if r.bRequest = reqSetAddress then
    if standard hostToDevice recDevice then setAddress env d else d
  else if r.bRequest = reqGetDescriptor then
    if standard deviceToHost recDevice || standard deviceToHost recInterface then getDescriptor env d else d
  else if r.bRequest = reqGetConfiguration then
    if standard deviceToHost recDevice then getConfiguration env d else d
  else if r.bRequest = reqSetConfiguration then
    if standard hostToDevice recDevice then setConfiguration env d else d
  else d

end Standard

/-- The test of `EVENT_USB_Device_ControlRequest`. -/
def accepts (r : Request) : Prop := r.bmRequestType = 64 ∧ r.bRequest.toNat < sizeofData

instance (r : Request) : Decidable (accepts r) := inferInstanceAs (Decidable (_ ∧ _))

/-- The branch of `EVENT_USB_Device_ControlRequest` for an accepted request. -/
def vendorRequest (env : Environment) (d : Device) : Device :=
  let i := d.request.bRequest.toNat
  let d :=
    if d.data i ≠ d.request.wValue then
      { d with data := Function.update d.data i d.request.wValue, updatePending := 1 }
    else d
  d.control (·.clearStatusStage env d.request)

def eventUSBDeviceControlRequest (env : Environment) (d : Device) : Device :=
  if accepts d.request then vendorRequest env d
  else AudioClass.processControlRequest env (Hid.processControlRequest env d)

def processControlRequest (env : Environment) (d : Device) : Device :=
  let d := eventUSBDeviceControlRequest env d
  let d := if d.endpoints.isSETUPReceived then Standard.processControlRequest env d else d
  if d.endpoints.isSETUPReceived then d.control (·.stallTransaction.clearSETUP) else d

/-- `USB_USBTask`. The header is read from the endpoint into `USB_ControlRequest` first. -/
def usbTask (env : Environment) (d : Device) : Device :=
  if d.deviceState = .unattached then d
  else
    let prevEndpoint := d.endpoints.selected
    let d := d.control (·.selectEndpoint 0)
    let d :=
      match d.endpoints.setup with
      | none => d
      | some r => processControlRequest env { d with request := r }
    d.control (·.selectEndpoint prevEndpoint)

/-- A SETUP packet reaches the control endpoint; the controller ends a stall of it. -/
def receive (r : Request) (d : Device) : Device :=
  d.control fun e => { e with setup := some r, stalled := fun n => if n = 0 then false else e.stalled n }

end WheelDisplay.Usb
