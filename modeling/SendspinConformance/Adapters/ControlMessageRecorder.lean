import Mathlib.Logic.Function.Basic
import SendspinConformance.Base.Insertion
import SendspinConformance.Protocol.TimeExchange

set_option autoImplicit false

namespace Conformance.Adapters

open Python Protocol Base

def recordedSentTypes : List String := ["server/activate", "group/update", "stream/start", "server/time"]

-- The recorded exchange: messages as they crossed the transport, and `other-sent` marks.
inductive ExchangeEntry where
  | clientTime (message : Fields)
  | serverTime (message : Fields)
  | otherSent

def ExchangeEntry.isOtherSent : ExchangeEntry → Bool
  | .otherSent => true
  | _ => false

inductive SendStatus where
  | inFlight
  | returned
  | raised
deriving DecidableEq

-- A send_str call: what it holds from its begin until the transport's own send_str ends.
structure SendCall where
  socket : Nat
  message : Fields
  beganAt : Nat
  status : SendStatus

structure ControlMessageRecorder where
  firstBySocket : Nat → Option Fields := fun _ => none
  groupUpdatesBySocket : Nat → Option (List Fields) := fun _ => none
  availabilityBySocket : Nat → Option (List Fields) := fun _ => none
  timeExchangeBySocket : Nat → Option (List ExchangeEntry) := fun _ => none
  sends : List SendCall := []

inductive TransportEvent where
  | sendBegins (socket : Nat) (data : String)
  | sendReturns (send : Nat)
  | sendRaises (send : Nat)
  | receivesText (socket : Nat) (data : String)
  | receivesBinary (socket : Nat)

def typeIs (message : Fields) (name : String) : Bool := (getKey message "type").eqStr name

def quoted (name : String) : String := "\"" ++ name ++ "\""

-- json.loads answers none where it raises ValueError.
variable (loads : String → Option Json)

-- The body as send_str reads it; none where reading it raises before anything is sent.
def sentMessage (data : String) : Option Fields :=
  if recordedSentTypes.any fun name => contains (quoted name) data then (loads data).bind Json.asObj else some []

def exchangeOf (recorder : ControlMessageRecorder) (socket : Nat) : List ExchangeEntry :=
  (recorder.timeExchangeBySocket socket).getD []

def startEntry (message : Fields) (phase : String) : Fields :=
  [("type", .str "stream/start"),
    ("roles", .arr ((sorted (((fieldsOf (getKey message "payload")).filter fun role => role.2.isObj).map
      Prod.fst)).map .str)),
    ("phase", .str phase)]

def appendAvailability (recorder : ControlMessageRecorder) (socket : Nat) (entry : Fields) : ControlMessageRecorder :=
  let trace := (recorder.availabilityBySocket socket).getD []
  { recorder with availabilityBySocket := Function.update recorder.availabilityBySocket socket (trace ++ [entry]) }

def setExchange (recorder : ControlMessageRecorder) (socket : Nat) (exchange : List ExchangeEntry) :
    ControlMessageRecorder :=
  { recorder with timeExchangeBySocket := Function.update recorder.timeExchangeBySocket socket exchange }

def sendBegins (recorder : ControlMessageRecorder) (socket : Nat) (data : String) : ControlMessageRecorder :=
  match sentMessage loads data with
  | none => recorder
  | some message =>
      let call : SendCall := ⟨socket, message, (exchangeOf recorder socket).length, .inFlight⟩
      let begun :=
        if typeIs message "stream/start" then appendAvailability recorder socket (startEntry message "sending")
        else recorder
      { begun with sends := begun.sends ++ [call] }

-- Whether an other-sent already stands at either side of a place.
def otherSentBeside (exchange : List ExchangeEntry) (place : Nat) : Bool :=
  ((exchange.drop (place - 1)).take 2).any ExchangeEntry.isOtherSent

def recordOtherSent (recorder : ControlMessageRecorder) (socket beganAt : Nat) : ControlMessageRecorder :=
  let exchange := exchangeOf recorder socket
  if beganAt = 0 || otherSentBeside exchange beganAt then recorder
  else setExchange recorder socket (insertAt beganAt .otherSent exchange)

def recordOpening (recorder : ControlMessageRecorder) (socket : Nat) (message : Fields) : ControlMessageRecorder :=
  if typeIs message "server/activate" then
    { recorder with
      firstBySocket := Function.update recorder.firstBySocket socket
        ((recorder.firstBySocket socket).orElse fun _ => some message) }
  else if typeIs message "group/update" && (recorder.firstBySocket socket).isSome then
    { recorder with
      groupUpdatesBySocket := Function.update recorder.groupUpdatesBySocket socket
        (some ((recorder.groupUpdatesBySocket socket).getD [] ++ [message])) }
  else recorder

-- What send_str records once the transport's own send_str has returned.
def sendReturned (recorder : ControlMessageRecorder) (call : SendCall) : ControlMessageRecorder :=
  if typeIs call.message "stream/start" then
    recordOtherSent (appendAvailability recorder call.socket (startEntry call.message "sent")) call.socket call.beganAt
  else
    let opened := recordOpening recorder call.socket call.message
    if typeIs call.message "server/time" then
      setExchange opened call.socket (exchangeOf opened call.socket ++ [.serverTime call.message])
    else recordOtherSent opened call.socket call.beganAt

def observeText (recorder : ControlMessageRecorder) (socket : Nat) (data : String) : ControlMessageRecorder :=
  let observed := setExchange recorder socket (exchangeOf recorder socket)
  match loads data with
  | some (.obj message) =>
      if typeIs message "client/state" then
        appendAvailability observed socket
          [("type", .str "client/state"), ("available", getKey (fieldsOf (getKey message "payload")) "available")]
      else if typeIs message "client/time" then
        setExchange observed socket (exchangeOf observed socket ++ [.clientTime message])
      else observed
  | _ => observed

def setStatus (sends : List SendCall) (send : Nat) (status : SendStatus) : List SendCall :=
  sends.modify send fun call => { call with status := status }

-- A send ends once; an end of no send in flight is none of the transport's.
def onEvent (recorder : ControlMessageRecorder) : TransportEvent → ControlMessageRecorder
  | .sendBegins socket data => sendBegins loads recorder socket data
  | .sendReturns send =>
      match recorder.sends[send]? with
      | some call =>
          if call.status = .inFlight then
            { sendReturned recorder call with sends := setStatus recorder.sends send .returned }
          else recorder
      | none => recorder
  | .sendRaises send =>
      match recorder.sends[send]? with
      | some call =>
          if call.status = .inFlight then { recorder with sends := setStatus recorder.sends send .raised } else recorder
      | none => recorder
  | .receivesText socket data => observeText loads recorder socket data
  | .receivesBinary _ => recorder

def observed (events : List TransportEvent) : ControlMessageRecorder := events.foldl (onEvent loads) {}

-- time_exchange(connection), for the socket of the connection.
def timeExchange (recorder : ControlMessageRecorder) (socket : Nat) : Option (List ExchangeEntry) :=
  recorder.timeExchangeBySocket socket

end Conformance.Adapters
