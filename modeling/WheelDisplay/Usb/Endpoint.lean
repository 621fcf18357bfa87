import WheelDisplay.Usb.ControlStream

/-! # The endpoint registers of the USB controller

RXSTPI belongs to the control endpoint; `setup` holds the packet that set it and
that has not been cleared. Every other access of the firmware to an endpoint is
kept in `log` with the endpoint that was selected, the latest first.
-/

namespace WheelDisplay.Usb

structure Request where
  bmRequestType : Byte
  bRequest : Byte
  wValue : Word
  wIndex : Word
  wLength : Word

inductive Descriptor where
  | device
  | configuration
  | languageString
  | manufacturerString
  | productString
  | hid
  | report
  | serial

structure Report where
  button : Word
  fix : Byte

/-- The memory of a report, the low byte of the buttons first. -/
def Report.bytes (report : Report) : List Byte :=
  [report.button.setWidth 8, (report.button >>> 8).setWidth 8, report.fix]

theorem Report.bytes_length (report : Report) : report.bytes.length = 3 := rfl

/-- What a control write sends. -/
inductive Buffer where
  | report
  | property
  | descriptor (descriptor : Descriptor)

inductive Op where
  | clearSETUP
  | clearIN
  | clearOUT
  | awaitIN
  | awaitOUT
  | write8 (value : Byte)
  | write16 (value : Word)
  | writeStream (buffer : Buffer) (packets : List (List Byte))
  | writeReport (report : Report)
  | readStream (stored : List Byte)
  | stall
  | clearStall
  | reset
  | resetDataToggle
  | configure

structure Endpoints where
  selected : Byte
  setup : Option Request
  enabled : Byte → Bool
  stalled : Byte → Bool
  log : List (Byte × Op)

/-- What goes on around the firmware while it serves one packet. The host may
leave a wait by detaching or suspending the bus, or by sending the next packet;
`polls` is what the loops of a data stage find, `descriptors` the tables in flash and
the serial number, `stack` an uninitialised local buffer and `buttons` the level of
the button inputs. -/
structure Environment where
  detached : Bool
  nextSetup : Option Request
  polls : List Poll
  descriptors : Descriptor → List Byte
  stack : Nat → Byte
  buttons : Byte

/-- The packets that `Endpoint_Write_Control_Stream_LE` sends of a stream. -/
def Environment.sent (env : Environment) (stream : List Byte) (wLength : Word) : List (List Byte) :=
  (StepRun.run Writing.step (Writing.start stream wLength) env.polls).sent

/-- The bytes that `Endpoint_Read_Control_Stream_LE` stores. -/
def Environment.stored (env : Environment) (length : Word) : List Byte :=
  (StepRun.run Reading.step (Reading.start length.toNat) env.polls).stored

/-- A host that neither leaves nor sends anything more. -/
def patient : Environment := ⟨false, none, [], fun _ => [], fun _ => 0, 0⟩

namespace Endpoints

def note (op : Op) (e : Endpoints) : Endpoints := { e with log := (e.selected, op) :: e.log }

def selectEndpoint (number : Byte) (e : Endpoints) : Endpoints := { e with selected := number }

def isSETUPReceived (e : Endpoints) : Bool := e.selected == 0 && e.setup.isSome

def clearSETUP (e : Endpoints) : Endpoints :=
  { e.note .clearSETUP with setup := if e.selected = 0 then none else e.setup }

def clearIN (e : Endpoints) : Endpoints := e.note .clearIN

def clearOUT (e : Endpoints) : Endpoints := e.note .clearOUT

def stallTransaction (e : Endpoints) : Endpoints :=
  { e.note .stall with stalled := fun n => if n = e.selected then true else e.stalled n }

def clearStall (e : Endpoints) : Endpoints :=
  { e.note .clearStall with stalled := fun n => if n = e.selected then false else e.stalled n }

def isStalled (e : Endpoints) : Bool := e.stalled e.selected

def isEnabled (e : Endpoints) : Bool := e.enabled e.selected

/-- A wait on the control endpoint; the next SETUP packet may arrive meanwhile. -/
def wait (env : Environment) (op : Op) (e : Endpoints) : Endpoints :=
  { e.note op with setup := env.nextSetup.or e.setup }

def waitINReady (env : Environment) (e : Endpoints) : Endpoints := e.wait env .awaitIN

def clearStatusStage (env : Environment) (r : Request) (e : Endpoints) : Endpoints :=
  if r.bmRequestType &&& 0x80 ≠ 0 then
    let e := e.wait env .awaitOUT
    if env.detached then e else e.clearOUT
  else
    let e := e.wait env .awaitIN
    if env.detached then e else e.clearIN

/-- `Endpoint_Write_Control_Stream_LE` and its kin. -/
def writeControlStream (env : Environment) (buffer : Buffer) (stream : List Byte) (wLength : Word) (e : Endpoints) :
    Endpoints :=
  (e.wait env .awaitIN).note (.writeStream buffer (env.sent stream wLength))

def readControlStream (env : Environment) (length : Word) (e : Endpoints) : Endpoints :=
  (e.wait env .awaitOUT).note (.readStream (env.stored length))

def configureEndpoint (number : Byte) (e : Endpoints) : Endpoints :=
  let e := (e.selectEndpoint number).note .configure
  { e with enabled := fun n => if n = number then true else e.enabled n }

end Endpoints

end WheelDisplay.Usb
