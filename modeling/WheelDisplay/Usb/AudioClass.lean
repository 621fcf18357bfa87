import WheelDisplay.Usb.Device

/-! # The audio class driver -/

namespace WheelDisplay.Usb

open Audio

def reqSetInterface : Byte := 11

def audioReqSetMinimum : Byte := 0x02

def audioReqSetMaximum : Byte := 0x03

def audioReqSetResolution : Byte := 0x04

def audioReqGetMinimum : Byte := 0x82

def audioReqGetMaximum : Byte := 0x83

def audioReqGetResolution : Byte := 0x84

def audioReqGetStatus : Byte := 0xFF

namespace AudioClass

def endpointAddress (r : Request) : Byte := r.wIndex.setWidth 8

def endpointControl (r : Request) : Byte := (r.wValue >>> 8).setWidth 8

def misdirected (r : Request) : Bool :=
  if r.bmRequestType &&& requestTypeRecipient = recInterface then
    r.wIndex &&& 0xFF != streamingInterfaceNumber
  else if r.bmRequestType &&& requestTypeRecipient = recEndpoint then
    endpointAddress r != endpointDirIn ||| dataINEndpointNumber &&
      endpointAddress r != dataOUTEndpointNumber
  else false

def setInterface (env : Environment) (d : Device) : Device :=
  let d := d.control fun e => e.clearSETUP.clearStatusStage env d.request
  { d with interfaceEnabled := d.request.wValue &&& 0xFF != 0 }

def getStatus (env : Environment) (d : Device) : Device :=
  d.control fun e => e.clearSETUP.clearStatusStage env d.request

/-- The endpoint callback as the driver calls it. The frequency is stored before the division, which
is undefined for zero; the reload value is then taken to stay. -/
def endpointProperty (r : Request) (length : Option Word) (buffer : Nat → Byte) (s : AudioState) :
    AudioState × Answer :=
  (callbackAudioDeviceGetSetEndpointProperty r.bRequest (endpointAddress r) (endpointControl r) length
    buffer s).getD ({ s with currentAudioSampleFrequency := 0 }, ⟨true, length, buffer⟩)

def interfaceProperty (r : Request) (length : Option Word) (buffer : Nat → Byte) : Answer :=
  callbackAudioDeviceGetSetInterfaceProperty r.bRequest ((r.wIndex >>> 8).setWidth 8) r.wValue length
    buffer

/-- The bytes of the buffer that the callback counts. -/
def streamOf (answer : Answer) : List Byte := (List.range (answer.dataLength.getD 0).toNat).map answer.data

def setEndpointProperty (env : Environment) (d : Device) : Device :=
  let r := d.request
  let (s, probe) := endpointProperty r none env.stack d.audio
  if probe.ok then
    let d := { d with audio := s }
    let d := d.control fun e => (e.clearSETUP.readControlStream env r.wLength).clearIN
    let value := fun i => (env.stored r.wLength).getD i (env.stack i)
    { d with audio := (endpointProperty r (some r.wLength) value d.audio).1 }
  else { d with audio := s }

def setInterfaceProperty (env : Environment) (d : Device) : Device :=
  let r := d.request
  if (interfaceProperty r none env.stack).ok then
    d.control fun e => (e.clearSETUP.readControlStream env r.wLength).clearIN
  else d

def getEndpointProperty (env : Environment) (d : Device) : Device :=
  let r := d.request
  let (s, answer) := endpointProperty r (some r.wLength) env.stack d.audio
  let d := { d with audio := s }
  if answer.ok then
    d.control fun e => (e.clearSETUP.writeControlStream env .property (streamOf answer) r.wLength).clearOUT
  else d

def getInterfaceProperty (env : Environment) (d : Device) : Device :=
  let r := d.request
  let answer := interfaceProperty r (some r.wLength) env.stack
  if answer.ok then
    d.control fun e => (e.clearSETUP.writeControlStream env .property (streamOf answer) r.wLength).clearOUT
  else d

def isSetProperty (bRequest : Byte) : Bool :=
  bRequest == audioReqSetCurrent || bRequest == audioReqSetMinimum || bRequest == audioReqSetMaximum ||
    bRequest == audioReqSetResolution

def isGetProperty (bRequest : Byte) : Bool :=
  bRequest == audioReqGetCurrent || bRequest == audioReqGetMinimum || bRequest == audioReqGetMaximum ||
    bRequest == audioReqGetResolution

def processControlRequest (env : Environment) (d : Device) : Device :=
  let r := d.request
  if !d.endpoints.isSETUPReceived then d
  else if misdirected r then d
  else if r.bRequest = reqSetInterface then
    if r.bmRequestType = hostToDevice ||| typeStandard ||| recInterface then setInterface env d else d
  else if r.bRequest = audioReqGetStatus then
    if r.bmRequestType = hostToDevice ||| typeClass ||| recInterface ∨
        r.bmRequestType = hostToDevice ||| typeClass ||| recEndpoint then getStatus env d
    else d
  else if isSetProperty r.bRequest then
    if r.bmRequestType = hostToDevice ||| typeClass ||| recEndpoint then setEndpointProperty env d
    else if r.bmRequestType = hostToDevice ||| typeClass ||| recInterface then setInterfaceProperty env d
    else d
  else if isGetProperty r.bRequest then
    if r.bmRequestType = deviceToHost ||| typeClass ||| recEndpoint then getEndpointProperty env d
    else if r.bmRequestType = deviceToHost ||| typeClass ||| recInterface then getInterfaceProperty env d
    else d
  else d

/-- The loop over the endpoint numbers reaches the data IN endpoint only: the OUT number is 0. -/
def configureEndpoints (d : Device) : Device :=
  let d := { d with interfaceEnabled := false }
  d.control (·.configureEndpoint dataINEndpointNumber)

end AudioClass

end WheelDisplay.Usb
