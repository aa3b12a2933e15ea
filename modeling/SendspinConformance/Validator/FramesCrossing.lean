import SendspinConformance.Validator.Checks
import SendspinConformance.Validator.LengthsKept
import SendspinConformance.Validator.RecordsNumbered

set_option autoImplicit false

namespace Conformance.Validator.Crossing

open Python CodePairing

-- One connection between the server's writes, the client and the recorder. Each direction keeps
-- its order. A server frame is recorded when its write completes, whether the client has it or not,
-- and a client frame when the server receives it.
structure Wire where
  log : List Call := []
  undelivered : List ObservedFrame := []
  unwritten : List ObservedFrame := []
  heard : List ObservedFrame := []
  written : List ObservedFrame := []
  arriving : List ObservedFrame := []
  received : List ObservedFrame := []

inductive Move where
  | send (frame : ObservedFrame)
  | deliver
  | complete
  | speak (frame : ObservedFrame)
  | receive
  | other (call : Call)

def moved (wire : Wire) : Move → Wire
  | .send frame =>
      { wire with undelivered := wire.undelivered ++ [frame], unwritten := wire.unwritten ++ [frame] }
  | .deliver =>
      match wire.undelivered with
      | [] => wire
      | frame :: rest => { wire with undelivered := rest, heard := wire.heard ++ [frame] }
  | .complete =>
      match wire.unwritten with
      | [] => wire
      | frame :: rest =>
          { wire with unwritten := rest, written := wire.written ++ [frame], log := wire.log ++ [.frame frame] }
  | .speak frame => { wire with arriving := wire.arriving ++ [frame] }
  | .receive =>
      match wire.arriving with
      | [] => wire
      | frame :: rest =>
          { wire with arriving := rest, received := wire.received ++ [frame], log := wire.log ++ [.frame frame] }
  | .other call => { wire with log := wire.log ++ [call] }

def wireAfter (moves : List Move) : Wire := moves.foldl moved {}

variable (loads : List UInt8 → Loaded)

def saidType (frame : ObservedFrame) : Option String :=
  (rawMessage loads frame).bind fun message => (getKey message "type").asStr

def saidFields (frame : ObservedFrame) : Fields := payloadFields ((rawMessage loads frame).getD [])

-- A frame the client may send before its activation.
def Opening (frame : ObservedFrame) : Prop :=
  saidType loads frame = some "client/hello" ∨ saidType loads frame = some "client/goodbye"

def Activation (frame : ObservedFrame) : Prop := saidType loads frame = some "server/activate"

def States (frame : ObservedFrame) : Prop := saidType loads frame = some "client/state"

-- A payload whose active_roles name a role of the family.
def ActiveIn (fields : Fields) (family : String) : Prop :=
  ∃ items role, getKey fields "active_roles" = .arr items ∧ .str role ∈ items ∧ beforeSeparator '@' role = family

-- The server/activate names a role of the family active.
def Activates (family : String) (frame : ObservedFrame) : Prop :=
  Activation loads frame ∧ ActiveIn (saidFields loads frame) family

-- The state carries the object of the family's role.
def Carries (family : String) (frame : ObservedFrame) : Prop :=
  family ∈ stateObjectRoles ∧ hasKey (saidFields loads frame) family = true

-- What the client may say of the frames it has received: nothing but client/hello or
-- client/goodbye until one was a server/activate, and in its first client/state only objects
-- of roles that such a frame named.
structure Honest (heard said : List ObservedFrame) (frame : ObservedFrame) : Prop where
  waits : Opening loads frame ∨ ∃ activation ∈ heard, Activation loads activation
  active : States loads frame → (∀ earlier ∈ said, ¬ States loads earlier) → ∀ family, Carries loads family frame →
    ∃ activation ∈ heard, Activates loads family activation

def OnWire (number : Nat) (direction : FrameDirection) (frame : ObservedFrame) : Prop :=
  frame.connection = number ∧ frame.direction = direction ∧ frame.phase = .transport ∧ frame.error = none

-- A move of the connection's parties; the recorder is also called for other connections, for the
-- handshake's cleartext frames and for secrets, violations and events.
def Allowed (number : Nat) (wire : Wire) : Move → Prop
  | .send frame => OnWire number .outbound frame
  | .speak frame => OnWire number .inbound frame ∧ Honest loads wire.heard (wire.received ++ wire.arriving) frame
  | .other call => ∀ frame, call = .frame frame → frame.connection ≠ number ∨ frame.phase = .cleartext
  | _ => True

-- No registered secret occurs in the type of the frame or in the roles it names active.
def Plain (secrets : List Secret) (frame : ObservedFrame) : Prop :=
  (∀ type, saidType loads frame = some type → Free secrets type) ∧
    ∀ role ∈ names (getKey (saidFields loads frame) "active_roles"), Free secrets role

-- The frame arrives after the writes it rests on: of the first server/activate the client has,
-- and of one that names each role of its first client/state that one it has names.
structure Follows (wire : Wire) (frame : ObservedFrame) : Prop where
  activation : ¬ Opening loads frame → (∃ heard ∈ wire.heard, Activation loads heard) →
    ∃ written ∈ wire.written, Activation loads written
  active : States loads frame → (∀ earlier ∈ wire.received, ¬ States loads earlier) → ∀ family,
    Carries loads family frame → (∃ heard ∈ wire.heard, Activates loads family heard) →
    ∃ written ∈ wire.written, Activates loads family written

-- The move meets no frame a registered secret would rewrite and no reply that overtakes the
-- write it answers.
def Settled (wire : Wire) : Move → Prop
  | .complete => ∀ frame ∈ wire.unwritten.head?, Plain loads (calls loads wire.log).secrets frame
  | .receive => ∀ frame ∈ wire.arriving.head?, Plain loads (calls loads wire.log).secrets frame ∧ Follows loads wire frame
  | _ => True

-- Every move of a run meets a condition on the state it is made in.
def Throughout (meets : Wire → Move → Prop) (moves : List Move) : Prop :=
  ∀ before move after, moves = before ++ move :: after → meets (wireAfter before) move

def NeverFails (check : Check) (connection : ConnectionRecord) : Prop :=
  ∀ findings, check connection = .ok findings → ∀ finding ∈ findings, finding.verdict ≠ .fail

theorem wire_after_snoc (moves : List Move) (move : Move) :
    wireAfter (moves ++ [move]) = moved (wireAfter moves) move := by
  rw [wireAfter, wireAfter, List.foldl_append]
  rfl

theorem throughout_snoc (meets : Wire → Move → Prop) (moves : List Move) (move : Move)
    (all : Throughout meets (moves ++ [move])) : Throughout meets moves ∧ meets (wireAfter moves) move := by
  constructor
  · intro before other after split
    exact all before other (after ++ [move]) (by rw [split, List.append_assoc]; rfl)
  · exact all moves move [] rfl

-- The transport frames the recorder holds of a connection.
def transportOn (number : Nat) (log : List Call) : List RecordedFrame :=
  (framesOn (calls loads log) number).filter RecordedFrame.transported

theorem transport_on_snoc (number : Nat) (log : List Call) (call : Call) :
    transportOn loads number (log ++ [call]) = transportOn loads number log ++
      ((addedFrame loads (calls loads log) call).toList.filter fun frame =>
        frame.transported && frame.connection == number) := by
  simp only [transportOn, calls_snoc, framesOn, ConnectionRecord.ofSession, called_frames_added, List.filter_append,
    List.filter_filter]

theorem transport_ordered (number : Nat) (log : List Call) :
    (transportOn loads number log).Pairwise fun first second => first.id < second.id :=
  ((records_numbered loads log).ordered number).2.sublist List.filter_sublist

theorem inbound_transport (number : Nat) (log : List Call) (type : String) :
    (recordOf (calls loads log) number).inbound type =
      (transportOn loads number log).filter fun frame => frame.inbound && frame.typed type := by
  rw [transportOn, List.filter_filter, ConnectionRecord.inbound]
  apply List.filter_congr
  intro frame _
  rw [RecordedFrame.transported]
  cases frame.inbound <;> cases frame.phase == .transport <;> simp

theorem outbound_transport (number : Nat) (log : List Call) (type : String) :
    (recordOf (calls loads log) number).outbound type =
      (transportOn loads number log).filter fun frame => !frame.inbound && frame.typed type := by
  rw [transportOn, List.filter_filter, ConnectionRecord.outbound]
  apply List.filter_congr
  intro frame _
  rw [RecordedFrame.transported]
  cases frame.inbound <;> cases frame.phase == .transport <;> simp

end Conformance.Validator.Crossing
