import Mathlib.Logic.Function.Basic
import SendspinConformance.Base.Programs
import SendspinConformance.Validator.Prompts

set_option autoImplicit false

namespace Conformance.Validator

open Python Protocol Base

inductive Reply where
  | answered
  | skip
  | retry
  | notSure
deriving DecidableEq, Repr

-- value is set only when the user answered.
structure Answer (α : Type) where
  reply : Reply
  value : Option α := none

-- answer.reply is Reply.ANSWERED and answer.value
def Answer.isYes (answer : Answer Bool) : Bool := answer.reply == .answered && answer.value == some true

inductive PairAbortReason where
  | attemptTimeout
  | concurrentAttempt
  | methodNotSupported
  | pairingCodeMismatch
  | userCancelled
deriving DecidableEq, Repr

-- What an error of ATTEMPT_ERRORS is, as far as the steps look.
inductive ErrorClass where
  | skipped
  | remotePairingAbort (reason : PairAbortReason)
  | other
deriving DecidableEq, Repr

structure AttemptError where
  cls : ErrorClass
  error : PyError

structure ServerPairingRecord where
  pskId : String
  psk : List UInt8
  clientId : String
deriving DecidableEq

-- The pairing store's _records: whatever it holds is filed under its own client_id.
structure PairingStore where
  records : String → Option ServerPairingRecord
  filed : ∀ clientId record, records clientId = some record → record.clientId = clientId

namespace PairingStore

def empty : PairingStore where
  records _ := none
  filed := by
    intro clientId record isHeld
    cases isHeld

-- self._records[record.client_id] = record
def put (store : PairingStore) (record : ServerPairingRecord) : PairingStore where
  records := Function.update store.records record.clientId (some record)
  filed := by
    intro clientId held isHeld
    by_cases same : clientId = record.clientId
    · rw [same, Function.update_self, Option.some.injEq] at isHeld
      rw [← isHeld, same]
    · rw [Function.update_of_ne same] at isHeld
      exact store.filed clientId held isHeld

-- self._records.pop(client_id, None)
def pop (store : PairingStore) (clientId : String) : PairingStore where
  records := Function.update store.records clientId none
  filed := by
    intro other held isHeld
    by_cases same : other = clientId
    · rw [same, Function.update_self] at isHeld
      cases isHeld
    · rw [Function.update_of_ne same] at isHeld
      exact store.filed other held isHeld

end PairingStore

-- The connection aiosendspin has attached to a client.
structure Attached where
  connectionNumber : Nat
  pskCategory : Option String

-- aiosendspin's client: its connection, and how many player roles it has.
structure ServerClient where
  connection : Option Attached
  players : Nat

-- What befalls a run: what happens while it waits, and what each wait ends with.
inductive Happening where
  | called (call : Call)
  | client (client : Option ServerClient)
  -- aiosendspin changes the pairing store beside the step, or a save of its own has written the file.
  | paired (record : ServerPairingRecord)
  | unpaired (clientId : String)
  | written
  -- The step's own save, which waited for the store's lock, takes the records as they now are.
  | locked
  | text (answer : Answer String)
  | choice (answer : Answer Nat)
  | yesNo (answer : Answer Bool)
  | returned
  | failed (error : AttemptError)
  | raised (error : PyError)
  | woken
  | timedOut
  -- aiosendspin calls the attempt's code provider.
  | codeWanted
  -- The step's own task goes on while the attempt runs.
  | beside
  -- A number drawn at random.
  | drawn (number : Nat)

structure World where
  recorder : Recorder := {}
  -- What server.get_client returns for the client under test.
  client : Option ServerClient := none
  pairings : PairingStore := .empty
  -- The records in the store's file, and those that the step's own save is to write.
  saved : PairingStore := .empty
  payload : PairingStore := .empty
  admitUnpaired : Bool := true
  -- How many server/unpair messages went out to the client.
  unpairsSent : Nat := 0
  -- CodePairing._static_code
  staticCode : Option String := none
  script : List Happening

-- Link, with the languages its server names and what the recorder's json.loads makes of a text.
structure Link where
  clientId : String
  url : Option String
  languages : List String
  loads : List UInt8 → Loaded

abbrev Action (α : Type) := Program World PyError α

-- Each turn reads at least one happening, so these are turns enough.
def forever {ρ α : Type} (turn : Program (ρ × World) PyError (Option α)) : Program (ρ × World) PyError α :=
  ExceptT.mk fun before => (Program.repeated turn (before.2.script.length + 1)).from before

def foreverHere {α : Type} (turn : Action (Option α)) : Action α :=
  ExceptT.mk fun before => (Program.repeated turn (before.script.length + 1)).from before

namespace Link

variable (link : Link)

-- What may happen at any wait and ends none.
def absorb (world : World) : Happening → Option World
  | .called call => some { world with recorder := called link.loads world.recorder call }
  | .client client => some { world with client }
  | .paired record => some { world with pairings := world.pairings.put record }
  | .unpaired clientId => some { world with pairings := world.pairings.pop clientId }
  | .written => some { world with saved := world.pairings }
  | .locked => some { world with payload := world.pairings }
  | _ => none

def awaitFrom {α : Type} (ends : Happening → Option α) : List Happening → World → Option (Py α × World)
  | [], _ => none
  | happening :: rest, world =>
      match absorb link world happening, happening with
      | some next, _ => awaitFrom ends rest next
      | none, .raised error => some (.error error, { world with script := rest })
      | none, _ => (ends happening).map fun value => (.ok value, { world with script := rest })

-- Waits for a happening that `ends` reads, or for an exception.
def await {α : Type} (ends : Happening → Option α) : Action α :=
  ExceptT.mk fun world => awaitFrom link ends world.script world

def askText : Action (Answer String) :=
  link.await fun happening => match happening with
    | .text answer => some answer
    | _ => none

def askChoice : Action (Answer Nat) :=
  link.await fun happening => match happening with
    | .choice answer => some answer
    | _ => none

def confirm : Action (Answer Bool) :=
  link.await fun happening => match happening with
    | .yesNo answer => some answer
    | _ => none

-- A call of aiosendspin's that returns nothing, or raises.
def serve : Action Unit :=
  link.await fun happening => match happening with
    | .returned => some ()
    | _ => none

-- A call that raises one of ATTEMPT_ERRORS, or returns.
def serveAttempt : Action (Option AttemptError) :=
  link.await fun happening => match happening with
    | .returned => some none
    | .failed error => some (some error)
    | _ => none

-- A number below `bound`.
def draw (bound : Nat) : Action Nat :=
  link.await fun happening => match happening with
    | .drawn number => if number < bound then some number else none
    | _ => none

-- Whether the wait was woken before it ran out of time.
def wake : Action Bool :=
  link.await fun happening => match happening with
    | .woken => some true
    | .timedOut => some false
    | _ => none

-- recorder.wait_until(condition) under asyncio.timeout
def waitUntil (condition : World → Bool) : Action Bool :=
  foreverHere do
    if condition (← Program.current) then return some true
    else if ← link.wake then return none
    else return some false

-- The client's most recently keyed connection, open or not.
def current (world : World) : Option Nat :=
  ((world.recorder.events.filter fun event => event.clientId == link.clientId && event.kind == .keyed).map
    RecordedEvent.connection).getLast?

def record (world : World) (number : Nat) : ConnectionRecord :=
  ConnectionRecord.ofSession number world.recorder.frames world.recorder.noncompliance world.recorder.events

def isOpen (world : World) : Option Nat → Bool
  | none => false
  | some number =>
      let seen := record world number
      seen.events.any (fun event => event.kind == .keyed) && !seen.closed && (seen.inbound "client/goodbye").isEmpty

-- The client's attached connection, if it has this number.
def connection (world : World) (number : Nat) : Option Attached :=
  (world.client.bind ServerClient.connection).filter fun attached => attached.connectionNumber == number

def opens (watermark : Nat) (frame : RecordedFrame) : Bool :=
  watermark < frame.connection && frame.typed "client/init" &&
    (getKey frame.fields "client_id").eqStr link.clientId

-- sorted({..}): the client's connections numbered above `watermark`, by their client/init.
def connectionsSince (world : World) (watermark : Nat) : List Nat :=
  ((world.recorder.frames.filter (link.opens watermark)).map RecordedFrame.connection).dedup.insertionSort (· ≤ ·)

-- The id of the last frame recorded on a connection, or 0.
def lastFrame (world : World) (number : Nat) : Nat := (((record world number).frames.getLast?).map RecordedFrame.id).getD 0

def noteKeying (number : Nat) : Action Unit := Program.change fun world =>
  match (connection world number).bind Attached.pskCategory with
  | some category =>
      { world with recorder := observeEvent world.recorder number link.clientId .keyed (some category) none }
  | none => world

-- Link.until(number, condition, timeout_s)
def untilHolds (number : Nat) (condition : ConnectionRecord → Bool) : Action Bool :=
  link.waitUntil fun world => condition (record world number)

def keyed (world : World) (number : Nat) : Bool :=
  world.recorder.events.any fun event => event.connection == number && event.kind == .keyed

-- A new connection was keyed, or the first new one is known to have failed.
def settled (watermark : Nat) (world : World) : Bool :=
  match link.connectionsSince world watermark with
  | [] => false
  | first :: others => (first :: others).any (keyed world) || (record world first).rejected || !others.isEmpty

-- max((f.connection for f in frames), default=0)
def watermark (world : World) : Nat := (world.recorder.frames.map RecordedFrame.connection).foldl max 0

def close : Action Unit := do
  let number := link.current (← Program.current)
  if link.url.isNone && (number.bind (connection (← Program.current))).isSome then link.serve
  match number with
  | none => pure ()
  | some last =>
      if isOpen (← Program.current) (some last) then
        let _ ← link.untilHolds last ConnectionRecord.closed

-- The first new connection, a keyed one where there is one.
def newest (world : World) (watermark : Nat) : Option Nat :=
  let new := link.connectionsSince world watermark
  ((new.filter (keyed world)).head?).or new.head?

-- Link._next(watermark, timeout_s): dialing and waiting share one timeout.
def next (watermark : Nat) : Action (Option Nat) := do
  let dials := link.url.isSome && (link.connectionsSince (← Program.current) watermark).isEmpty
  let dialed ← if dials then link.await fun happening => match happening with
      | .returned => some true
      | .timedOut => some false
      | _ => none
    else pure true
  if dialed then
    let _ ← link.waitUntil (link.settled watermark)
  return link.newest (← Program.current) watermark

def reconnect : Action (Option Nat) := do
  link.close
  link.next (watermark (← Program.current))

def openConnection : Action (Option Nat) := do
  let number := link.current (← Program.current)
  if isOpen (← Program.current) number then return number
  else link.reconnect

def awaitReconnect (previous : Nat) : Action (Option Nat) := do
  if ← link.untilHolds previous ConnectionRecord.closed then link.next previous
  else return none

-- is_open(number) and holds(record(number))
def suits (holds : ConnectionRecord → Bool) (world : World) : Option Nat → Bool
  | none => false
  | some number => isOpen world (some number) && holds (record world number)

-- The attempts of connect_matching that remain; every one but the first asks before it reconnects.
def matching (holds : ConnectionRecord → Bool) : Nat → Bool → Option Nat → Action (Option Nat)
  | 0, _, number => do
      if suits holds (← Program.current) number then return number
      else return none
  | tries + 1, asks, number => do
      if suits holds (← Program.current) number then return number
      else
        let again ← if asks then (fun answer : Answer Bool => answer.reply == .retry || answer.isYes) <$> link.confirm
          else pure true
        if !again then return none
        else
          match ← link.reconnect with
          | none => return none
          | some connected => matching holds tries true (some connected)

-- _MATCH_ATTEMPTS
def matchAttempts : Nat := 5

def connectMatching (holds : ConnectionRecord → Bool) : Action (Option Nat) := do
  link.matching holds matchAttempts false (link.current (← Program.current))

-- store.record_by_client_id(client_id)
def stored (world : World) : Option ServerPairingRecord := world.pairings.records link.clientId

-- store._save(): the file is replaced as a whole, or not at all where the write fails. The thread of one that is
-- cancelled goes on writing; what it then leaves in the file is not modelled.
def save : Action Unit := do
  Program.change fun world => { world with payload := world.pairings }
  link.serve
  Program.change fun world => { world with saved := world.payload }

-- store.store_record(record): the records change first, then the file is written.
def storeRecord (record : ServerPairingRecord) : Action Unit := do
  Program.change fun world => { world with pairings := world.pairings.put record }
  link.save

-- store.remove_record(client_id), which writes nothing where there is no record.
def removeRecord : Action Unit := do
  if (link.stored (← Program.current)).isSome then
    Program.change fun world => { world with pairings := world.pairings.pop link.clientId }
    link.save

def notConnected : PyError := valueError ("client " ++ link.clientId ++ " is not connected")

-- server.unpair(client_id)
def unpair : Action Unit := do
  match (← Program.current).client.bind ServerClient.connection with
  | none => throw link.notConnected
  | some _ =>
      link.removeRecord
      -- connection.refresh_trusted_unpaired()
      link.serve
      Program.change fun world => { world with unpairsSent := world.unpairsSent + 1 }

end Link

end Conformance.Validator
