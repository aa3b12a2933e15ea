import SendspinConformance.Protocol.TimeExchange

set_option autoImplicit false

namespace Conformance.Validator

open Python

inductive Verdict where
  | pass
  | fail
  | warn
  | skipped
  | notApplicable
  | toolError
deriving DecidableEq, Repr

inductive Evidence where
  | machine
  | human
deriving DecidableEq, Repr

-- One check's verdict on one connection; frames holds the ids of the frames it rests on.
structure Finding where
  id : String
  verdict : Verdict
  specRef : String
  message : String
  evidence : Evidence := .machine
  frames : List Nat := []
deriving DecidableEq, Repr

inductive FrameDirection where
  | inbound
  | outbound
deriving DecidableEq, Repr

def FrameDirection.value : FrameDirection → String
  | .inbound => "in"
  | .outbound => "out"

inductive FramePhase where
  | cleartext
  | transport
deriving DecidableEq, Repr

def FramePhase.value : FramePhase → String
  | .cleartext => "cleartext"
  | .transport => "transport"

structure RecordedFrame where
  id : Nat
  connection : Nat
  clientId : Option String
  direction : FrameDirection
  phase : FramePhase
  monotonicUs : Int
  size : Nat
  message : Option Fields := none
  binaryType : Option Nat := none
  error : Option String := none

namespace RecordedFrame

def inbound (frame : RecordedFrame) : Bool := frame.direction == .inbound

def type (frame : RecordedFrame) : Option String := frame.message.bind fun message => (getKey message "type").asStr

def payload (frame : RecordedFrame) : Option Fields :=
  frame.message.bind fun message => (getKey message "payload").asObj

-- frame.payload or {}
def fields (frame : RecordedFrame) : Fields := frame.payload.getD []

-- frame.type == message_type
def typed (frame : RecordedFrame) (messageType : String) : Bool := frame.type == some messageType

-- frame.type in types
def typeIn (frame : RecordedFrame) (types : List String) : Bool :=
  match frame.type with
  | some messageType => types.contains messageType
  | none => false

-- frame.phase == "transport"
def transported (frame : RecordedFrame) : Bool := frame.phase == .transport

end RecordedFrame

structure RecordedNoncompliance where
  connection : Option Nat
  clientId : Option String
  reason : String
  monotonicUs : Int
  afterFrame : Option Nat
deriving DecidableEq, Repr

inductive EventKind where
  | keyed
  | credentialMismatch
  | closed
  | pairingFailed
deriving DecidableEq, Repr

structure RecordedEvent where
  connection : Nat
  clientId : String
  kind : EventKind
  afterFrame : Option Nat
  pskCategory : Option String := none
  detail : Option String := none
deriving DecidableEq, Repr

-- Everything recorded on one connection, in recording order.
structure ConnectionRecord where
  number : Nat
  frames : List RecordedFrame
  noncompliance : List RecordedNoncompliance := []
  events : List RecordedEvent := []

namespace ConnectionRecord

def inbound (record : ConnectionRecord) (messageType : String) (phase : FramePhase := .transport) :
    List RecordedFrame :=
  record.frames.filter fun frame => frame.inbound && frame.phase == phase && frame.typed messageType

def outbound (record : ConnectionRecord) (messageType : String) (phase : FramePhase := .transport) :
    List RecordedFrame :=
  record.frames.filter fun frame => !frame.inbound && frame.phase == phase && frame.typed messageType

-- ConnectionRecord.of(number, frames, noncompliance, events)
def ofSession (number : Nat) (frames : List RecordedFrame) (noncompliance : List RecordedNoncompliance)
    (events : List RecordedEvent := []) : ConnectionRecord where
  number := number
  frames := frames.filter fun frame => frame.connection == number
  noncompliance := noncompliance.filter fun observation => observation.connection == some number
  events := events.filter fun event => event.connection == number

-- The strict server flagged a violation, which ends the connection.
def rejected (record : ConnectionRecord) : Bool := !record.noncompliance.isEmpty

def closed (record : ConnectionRecord) : Bool := record.events.any fun event => event.kind == .closed

end ConnectionRecord

-- _finding(check_id, verdict, message, *frames), citing a module's SPEC_REFS.
def cite (refs : List (String × String)) (checkId : String) (verdict : Verdict) (message : String)
    (frames : List RecordedFrame) : Finding :=
  { id := checkId, verdict, specRef := (refs.lookup checkId).getD "", message
    frames := frames.map RecordedFrame.id }

end Conformance.Validator
