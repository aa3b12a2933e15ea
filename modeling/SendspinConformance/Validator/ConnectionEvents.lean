import Mathlib.Logic.Function.Basic
import SendspinConformance.Validator.Link

set_option autoImplicit false

namespace Conformance.Validator

open Python

-- A connection of aiosendspin's; `socket` tells its object from every other.
structure ServerConnection where
  socket : Nat
  connectionNumber : Option Nat
  pskCategory : Option String
deriving DecidableEq, Repr

inductive SendspinEvent where
  | clientConnected (clientId : String)
  | clientCredentialMismatch (clientId : String)
  | clientDisconnected (clientId : String)

-- A validator's session: each client's connection as server.get_client shows it, and beside
-- it what _ConnectionEvents keeps and what the recorder holds.
structure Watched where
  connected : String → Option ServerConnection := fun _ => none
  -- _ConnectionEvents._attached
  attached : String → Option Nat := fun _ => none
  recorder : Recorder := {}
  -- The numbers of the connections attached so far.
  numbered : List Nat := []

namespace Watched

-- _ConnectionEvents.on_event
def onEvent (state : Watched) : SendspinEvent → Watched
  | .clientConnected clientId =>
      match state.connected clientId with
      | some ⟨_, some number, some category⟩ =>
          { state with
            attached := Function.update state.attached clientId (some number)
            recorder := observeEvent state.recorder number clientId .keyed (some category) none }
      | _ => state
  | .clientCredentialMismatch clientId =>
      match state.attached clientId with
      | some number =>
          { state with recorder := observeEvent state.recorder number clientId .credentialMismatch none none }
      | none => state
  | .clientDisconnected clientId =>
      match state.attached clientId with
      | some number =>
          { state with
            attached := Function.update state.attached clientId none
            recorder := observeEvent state.recorder number clientId .closed none none }
      | none => state

-- attach_connection: a connection the client had before is replaced without an event.
def attachConnection (state : Watched) (clientId : String) (connection : ServerConnection) : Watched :=
  onEvent
    { state with
      connected := Function.update state.connected clientId (some connection)
      numbered := connection.connectionNumber.toList ++ state.numbered }
    (.clientConnected clientId)

-- A connection's disconnect() detaches it only if it is still the client's.
def disconnect (state : Watched) (clientId : String) (socket : Nat) : Watched :=
  match state.connected clientId with
  | some connection =>
      if connection.socket = socket then
        onEvent { state with connected := Function.update state.connected clientId none } (.clientDisconnected clientId)
      else state
  | none => state

-- A re-handshake over the client's encrypted connection, which Link.note_keying then records.
def rekey (state : Watched) (clientId : String) (number : Nat) (category : String) : Watched :=
  match state.connected clientId with
  | some ⟨socket, some own, some _⟩ =>
      if own = number then
        { state with
          connected := Function.update state.connected clientId (some ⟨socket, some own, some category⟩)
          recorder := observeEvent state.recorder number clientId .keyed (some category) none }
      else state
  | _ => state

end Watched

-- What happens in a session, one thing at a time.
inductive Occasion where
  | attached (clientId : String) (connection : ServerConnection)
  | mismatched (clientId : String)
  | disconnected (clientId : String) (socket : Nat)
  | rekeyed (clientId : String) (number : Nat) (category : String)
  | secret (text : String)
  | frame (frame : ObservedFrame)
  | noncompliance (observation : ObservedNoncompliance)
  | pairingFailed (connection : Nat) (clientId : String) (detail : Option String)

def Watched.after (loads : List UInt8 → Loaded) (state : Watched) : Occasion → Watched
  | .attached clientId connection => state.attachConnection clientId connection
  | .mismatched clientId => state.onEvent (.clientCredentialMismatch clientId)
  | .disconnected clientId socket => state.disconnect clientId socket
  | .rekeyed clientId number category => state.rekey clientId number category
  | .secret text => { state with recorder := called loads state.recorder (.secret text) }
  | .frame frame => { state with recorder := called loads state.recorder (.frame frame) }
  | .noncompliance observation => { state with recorder := called loads state.recorder (.noncompliance observation) }
  | .pairingFailed connection clientId detail =>
      { state with recorder := called loads state.recorder (.event connection clientId .pairingFailed none detail) }

def Watched.run (loads : List UInt8 → Loaded) (occasions : List Occasion) : Watched :=
  occasions.foldl (Watched.after loads) {}

-- aiosendspin attaches a connection once, under a number of its own.
def Fresh (state : Watched) : Occasion → Prop
  | .attached _ connection => ∀ number, connection.connectionNumber = some number → number ∉ state.numbered
  | _ => True

def Keyed (state : Watched) (number : Nat) : Prop :=
  ∃ event ∈ state.recorder.events, event.connection = number ∧ event.kind = .keyed

-- The connection with this number is the one attached to some client.
def Connected (state : Watched) (number : Nat) : Prop :=
  ∃ clientId connection, state.connected clientId = some connection ∧ connection.connectionNumber = some number

-- A connection is attached in place of one that was recorded keyed.
def Replaces (state : Watched) : Occasion → Prop
  | .attached clientId _ => ∃ earlier number, state.connected clientId = some earlier ∧
      earlier.connectionNumber = some number ∧ Keyed state number
  | _ => False

-- Each occasion is one aiosendspin can bring, and none replaces a keyed connection.
def Orderly (loads : List UInt8 → Loaded) : Watched → List Occasion → Prop
  | _, [] => True
  | state, occasion :: rest => Fresh state occasion ∧ ¬Replaces state occasion ∧ Orderly loads (state.after loads occasion) rest

def marked (number : Nat) (event : RecordedEvent) : Bool :=
  event.connection == number && (event.kind == .keyed || event.kind == .closed)

-- The keyed and closed events recorded of a connection, in order.
def marks (state : Watched) (number : Nat) : List EventKind :=
  (state.recorder.events.filter (marked number)).map RecordedEvent.kind

-- A connection that is attached was only keyed; any other was never keyed, or was keyed and
-- then closed once, at its end.
def EndsRecorded (state : Watched) : Prop :=
  ∀ number, (Connected state number → ∃ times, marks state number = List.replicate times .keyed) ∧
    (¬Connected state number → marks state number = [] ∨
      ∃ times, marks state number = List.replicate (times + 1) .keyed ++ [.closed])

end Conformance.Validator
