import SendspinConformance.Protocol.Gate

set_option autoImplicit false

namespace Conformance.Protocol

open Python

def timeFields : List String := ["client_transmitted", "server_received", "server_transmitted"]

-- `value.get` where the value is a dict, and nothing of any other value.
def fieldsOf : Json → Fields
  | .obj fields => fields
  | _ => []

-- The number of a value _is_integer accepted.
def intValue (value : Json) : Int := value.asInt.getD 0

def timeUnrecorded : String :=
  harnessGap ++ "the server adapter did not record the client/time messages it " ++
    "received and the server/time messages it sent, so the exchange cannot be judged"

def timeForeign (entry : Json) : String :=
  harnessGap ++ "the server adapter recorded something other than a " ++
    "client/time, server/time or other-sent in the exchange: " ++ dumps entry

def timeUnreadable (received : Nat) (sent : Json) : String :=
  "Client's client/time " ++ toString received ++ " carried client_transmitted " ++ dumps sent ++
    ", where RC1 requires an integer"

def timeDefective (answered : Nat) (defects : List String) : String :=
  "Server's server/time " ++ toString answered ++ " " ++ joinWith "; " defects

def timeUnasked (answered : Nat) (echoed : Int) : String :=
  "Server's server/time " ++ toString answered ++ " carried client_transmitted " ++ toString echoed ++
    ", which is not the value of any client/time it had received and not yet " ++
    "answered; RC1 defines the field as the timestamp received in the client/time"

def timeBackwards (answered : Nat) (serverReceived serverTransmitted : Int) : String :=
  "Server's server/time " ++ toString answered ++ " carried server_received " ++ toString serverReceived ++
    " later than its server_transmitted " ++ toString serverTransmitted ++
    "; both are readings of the server's " ++ "monotonic clock, and it receives the client/time before it responds"

def timeUnanswered (position received : Nat) (wentOn : String) : String :=
  "Server sent no server/time for client/time " ++ toString position ++ " of " ++ toString received ++
    ", yet " ++ wentOn ++ "; RC1 says the server responds to a client/time with a " ++
    "server/time, without marking that as a MUST or a SHOULD"

def serverTimeDefect (payload : Fields) (name : String) : Option String :=
  if !hasKey payload name then some ("omitted " ++ name ++ ", which RC1 requires")
  else if !(getKey payload name).isInt then
    some ("declared " ++ name ++ " " ++ dumps (getKey payload name) ++ ", where RC1 requires an integer")
  else none

def serverTimeDefects : Json → List String
  | .obj payload => timeFields.filterMap (serverTimeDefect payload)
  | _ => ["carried no payload object, so none of the fields RC1 requires"]

structure TimeState where
  -- Position and client_transmitted of each client/time not yet answered.
  unanswered : List (Nat × Int)
  received : Nat
  answered : Nat
  latestAnswered : Nat
  -- The positions the server began sending something else after receiving.
  passedOver : List Nat
deriving Repr

def timeStart : TimeState := ⟨[], 0, 0, 0, []⟩

def otherSentTurn (state : TimeState) : TimeState :=
  { state with passedOver := state.passedOver ++ state.unanswered.map Prod.fst }

def clientTimeTurn (state : TimeState) (payload : Json) : Except String TimeState :=
  let received := state.received + 1
  let sent := getKey (fieldsOf payload) "client_transmitted"
  if sent.isInt then
    .ok { state with received := received, unanswered := state.unanswered ++ [(received, intValue sent)] }
  else .error (timeUnreadable received sent)

def serverTimeTurn (state : TimeState) (payload : Json) : Except String TimeState :=
  let answered := state.answered + 1
  let defects := serverTimeDefects payload
  if defects ≠ [] then .error (timeDefective answered defects)
  else
    let echoed := intValue (getKey (fieldsOf payload) "client_transmitted")
    let serverReceived := intValue (getKey (fieldsOf payload) "server_received")
    let serverTransmitted := intValue (getKey (fieldsOf payload) "server_transmitted")
    match state.unanswered.find? fun item => item.2 == echoed with
    | none => .error (timeUnasked answered echoed)
    | some item =>
        if serverReceived > serverTransmitted then .error (timeBackwards answered serverReceived serverTransmitted)
        else
          .ok { state with
            answered := answered
            unanswered := state.unanswered.erase item
            latestAnswered := max state.latestAnswered item.1 }

-- One turn of the loop; an error is the reason an early return gives.
def timeTurn (state : TimeState) (entry : Json) : Except String TimeState :=
  let kind := getKey (fieldsOf entry) "type"
  let payload := getKey (fieldsOf entry) "payload"
  if kind.eqStr "other-sent" then .ok (otherSentTurn state)
  else if kind.eqStr "client/time" then clientTimeTurn state payload
  else if kind.eqStr "server/time" then serverTimeTurn state payload
  else .error (timeForeign entry)

-- Why a client/time left unanswered counts against the server, if it does.
def wentOn (state : TimeState) (position : Nat) : Option String :=
  if position < state.latestAnswered then some "answered one it received later"
  else if state.passedOver.contains position && position < state.received then
    some "sent another message after receiving it"
  else none

def timeVerdict (state : TimeState) : Option String :=
  state.unanswered.findSome? fun item => (wentOn state item.1).map (timeUnanswered item.1 state.received)

def timeExchangeViolation (serverSummary : Fields) : Option String :=
  match getKey serverSummary "time_exchange" with
  | .arr exchange =>
      match exchange.foldlM timeTurn timeStart with
      | .error reason => some reason
      | .ok state => timeVerdict state
  | _ => some timeUnrecorded

end Conformance.Protocol
