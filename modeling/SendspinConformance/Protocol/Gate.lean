import SendspinConformance.Python.Text

set_option autoImplicit false

namespace Conformance.Protocol

open Python

variable [UnicodeData]

def harnessGap : String := "Harness gap, not a protocol result: "

def gateRule : String :=
  "RC1 forbids stream/start unless the latest client/state the server received reports available: true"

inductive GateKind where
  | clientState
  | sending
  | sent
deriving DecidableEq, Repr

-- A client/state with the `available` it carried, or the phase of a stream/start
-- with the roles it named.
abbrev GateEntry := GateKind × Json

def gateEntry : Json → Option GateEntry
  | .obj entry =>
      if (getKey entry "type").eqStr "client/state" then some (.clientState, getKey entry "available")
      else if (getKey entry "type").eqStr "stream/start" then
        if (getKey entry "phase").eqStr "sending" then some (.sending, getKey entry "roles")
        else if (getKey entry "phase").eqStr "sent" then some (.sent, getKey entry "roles")
        else none
      else none
  | _ => none

def gateEntries : Json → Option (List GateEntry)
  | .arr trace => trace.mapM gateEntry
  | _ => none

def gateNamed (roles : Json) : String :=
  match roles with
  | .arr (role :: rest) => " (" ++ joinWith ", " ((role :: rest).map pyStr) ++ ")"
  | _ => ""

def gateBeforeAnyState (roles : Json) : String :=
  "Server sent" ++ " stream/start" ++ gateNamed roles ++ " before it had received any client/state; " ++ gateRule

def gateWhileUnavailable (roles : Json) : String :=
  "Server sent" ++ " stream/start" ++ gateNamed roles ++ " while the latest client/state it had " ++
    "received reported available: false; " ++ gateRule

def gateWithoutBoolean (roles : Json) : String :=
  "Client sent" ++ " client/state without a boolean `available`, which RC1 requires on " ++
    "every client/state; the server then sent stream/start" ++ gateNamed roles ++ ", and " ++ gateRule

-- The latest client/state is none where the source holds _NO_CLIENT_STATE.
def gateViolationReason (latest : Option Json) (roles : Json) : String :=
  match latest with
  | none => gateBeforeAnyState roles
  | some (.bool false) => gateWhileUnavailable roles
  | some _ => gateWithoutBoolean roles

def gateUnrecorded : String :=
  harnessGap ++ "the server adapter did not record the client/state messages it " ++
    "received and the stream/start messages it sent, so the available gate on " ++
    "stream/start cannot be judged"

def gateNoStart : String :=
  harnessGap ++ "the server adapter recorded no stream/start reaching the wire " ++
    "in a case that opened a stream, so the available gate on stream/start " ++ "cannot be judged"

def latestIsTrue (latest : Option Json) : Bool := latest.any Json.isTrue

structure GateState where
  latest : Option Json
  heldAtSending : Option Json
  availableInFlight : Option Bool
  streamStarts : Nat

def gateStart : GateState := ⟨none, some .null, none, 0⟩

-- One turn of the loop; an error is the reason an early return gives.
def gateStep (state : GateState) : GateEntry → Except String GateState
  | (.clientState, value) =>
      .ok { state with
        latest := some value
        availableInFlight := state.availableInFlight.map (· || value.isTrue) }
  | (.sending, _) =>
      .ok { state with
        heldAtSending := state.latest
        availableInFlight := some (latestIsTrue state.latest) }
  | (.sent, roles) =>
      match state.availableInFlight with
      | none => .error gateUnrecorded
      | some false => .error (gateViolationReason state.heldAtSending roles)
      | some true => .ok { state with availableInFlight := none, streamStarts := state.streamStarts + 1 }

def gateVerdict (entries : List GateEntry) : Option String :=
  match entries.foldlM gateStep gateStart with
  | .error reason => some reason
  | .ok state => if state.streamStarts = 0 then some gateNoStart else none

def streamStartGateViolation (serverSummary : Fields) : Option String :=
  match gateEntries (getKey serverSummary "availability_trace") with
  | none => some gateUnrecorded
  | some entries => gateVerdict entries

end Conformance.Protocol
