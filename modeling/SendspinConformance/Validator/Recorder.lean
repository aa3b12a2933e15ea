import SendspinConformance.Base.Replace
import SendspinConformance.Python.Text
import SendspinConformance.Validator.Records

set_option autoImplicit false

namespace Conformance.Validator

open Python Base

def redacted : String := "<redacted>"

-- Pairing secrets the spec carries on the wire, by field name.
def secretFields : List String := ["long_term_psk", "wrapped_psk", "wrapped_nonce_B"]

structure ObservedFrame where
  connection : Nat
  clientId : Option String
  direction : FrameDirection
  phase : FramePhase
  data : List UInt8
  monotonicUs : Int
  error : Option String := none

structure ObservedNoncompliance where
  connection : Option Nat
  clientId : Option String
  reason : String
  monotonicUs : Int

-- A text add_secret registered, which is never empty.
abbrev Secret := { text : String // text ≠ "" }

-- The secrets are a set in the source; their order here is the order it is iterated in.
structure Recorder where
  frames : List RecordedFrame := []
  noncompliance : List RecordedNoncompliance := []
  events : List RecordedEvent := []
  toolErrors : List String := []
  secrets : List Secret := []

-- What json.loads(data.decode("utf-8")) makes of the data: a value, an error the recorder
-- catches (UnicodeDecodeError or JSONDecodeError, by its text), or one it does not.
inductive Loaded where
  | value (json : Json)
  | notJson (text : String)
  | raised (error : PyError)

def addSecret (recorder : Recorder) (secret : String) : Recorder :=
  if registered : secret ≠ "" then { recorder with secrets := recorder.secrets.insert ⟨secret, registered⟩ }
  else recorder

-- sorted(self._secrets, key=len, reverse=True)
def longestFirst (secrets : List Secret) : List Secret :=
  secrets.insertionSort fun first second => second.1.length ≤ first.1.length

-- text.replace(secret, REDACTED)
def replaceSecret (text : String) (secret : Secret) : String :=
  String.ofList (replaceAll secret.1.toList redacted.toList text.toList)

def redactText (secrets : List Secret) (text : String) : String := (longestFirst secrets).foldl replaceSecret text

def isSecretField (key : String) : Bool :=
  secretFields.contains key || hasPrefix "pake_msg_" key || hasSuffix "_kc" key

-- A redacted secret field keeps its length.
def redactField : Json → Json
  | .str text => .str ("<redacted:" ++ toString text.length ++ ">")
  | _ => .str redacted

mutual
def redact (secrets : List Secret) : Json → Json
  | .obj fields => .obj (redactFields secrets fields)
  | .arr items => .arr (redactItems secrets items)
  | .str text => .str (redactText secrets text)
  | value => value
def redactItems (secrets : List Secret) : List Json → List Json
  | [] => []
  | item :: rest => redact secrets item :: redactItems secrets rest
def redactFields (secrets : List Secret) : Fields → Fields
  | [] => []
  | (key, item) :: rest =>
      (key, if isSecretField key then redactField item else redact secrets item) :: redactFields secrets rest
end

-- What of a frame's data is a JSON text: a cleartext frame, or a transport frame of type 0.
def jsonText (frame : ObservedFrame) : Option (List UInt8) :=
  match frame.phase, frame.data with
  | .cleartext, text => some text
  | .transport, 0 :: text => some text
  | .transport, _ => none

def common (recorder : Recorder) (frame : ObservedFrame) : RecordedFrame :=
  { id := recorder.frames.length + 1
    connection := frame.connection
    clientId := frame.clientId
    direction := frame.direction
    phase := frame.phase
    monotonicUs := frame.monotonicUs
    size := frame.data.length }

def notObject : String := "not a JSON object"

variable (loads : List UInt8 → Loaded)

def decode (recorder : Recorder) (frame : ObservedFrame) : Py RecordedFrame :=
  match frame.error, jsonText frame with
  | some error, _ => .ok { common recorder frame with error := some (redactText recorder.secrets error) }
  | none, none => .ok { common recorder frame with binaryType := frame.data.head?.map UInt8.toNat }
  | none, some text =>
      match loads text with
      | .raised error => .error error
      | .notJson reason => .ok { common recorder frame with error := some ("not a JSON message: " ++ reason) }
      | .value (.obj message) =>
          .ok { common recorder frame with message := some (redactFields recorder.secrets message) }
      | .value _ => .ok { common recorder frame with error := some notObject }

def unrecordedError (recorder : Recorder) (frame : ObservedFrame) (raised : PyError) : String :=
  "could not record frame " ++ toString (recorder.frames.length + 1) ++ " on connection " ++
    toString frame.connection ++ ": " ++ raised.type ++ ": " ++ raised.text

def observeFrame (recorder : Recorder) (frame : ObservedFrame) : Recorder :=
  match decode loads recorder frame with
  | .ok recorded => { recorder with frames := recorder.frames ++ [recorded] }
  | .error raised => { recorder with toolErrors := recorder.toolErrors ++ [unrecordedError recorder frame raised] }

-- The last frame recorded on a connection; a violation may be on none.
def lastFrame (recorder : Recorder) (connection : Option Nat) : Option Nat :=
  (recorder.frames.reverse.find? fun frame => some frame.connection == connection).map RecordedFrame.id

def observeNoncompliance (recorder : Recorder) (observation : ObservedNoncompliance) : Recorder :=
  { recorder with
    noncompliance := recorder.noncompliance ++
      [⟨observation.connection, observation.clientId, redactText recorder.secrets observation.reason,
        observation.monotonicUs, lastFrame recorder observation.connection⟩] }

def observeEvent (recorder : Recorder) (connection : Nat) (clientId : String) (kind : EventKind)
    (pskCategory detail : Option String) : Recorder :=
  { recorder with
    events := recorder.events ++
      [⟨connection, clientId, kind, lastFrame recorder (some connection), pskCategory,
        detail.map (redactText recorder.secrets)⟩] }

def optionalText : Option String → Json
  | some text => .str text
  | none => .null

-- frame.to_json()
def toJson (frame : RecordedFrame) : Json :=
  .obj ([("client_id", optionalText frame.clientId),
      ("connection", .int frame.connection),
      ("direction", .str frame.direction.value),
      ("id", .int frame.id),
      ("monotonic_us", .int frame.monotonicUs),
      ("phase", .str frame.phase.value),
      ("size", .int frame.size)] ++
    (frame.message.map fun message => ("message", Json.obj message)).toList ++
    (frame.binaryType.map fun binaryType => ("binary_type", Json.int binaryType)).toList ++
    (frame.error.map fun error => ("error", Json.str error)).toList)

def logLine (frame : RecordedFrame) : String := dumpsSorted (toJson frame) ++ "\n"

-- The lines write_log writes, in recording order.
def writeLog (recorder : Recorder) : List String := recorder.frames.map logLine

-- A call of one of the recorder's methods.
inductive Call where
  | secret (text : String)
  | frame (frame : ObservedFrame)
  | noncompliance (observation : ObservedNoncompliance)
  | event (connection : Nat) (clientId : String) (kind : EventKind) (pskCategory detail : Option String)

def called (recorder : Recorder) : Call → Recorder
  | .secret text => addSecret recorder text
  | .frame frame => observeFrame loads recorder frame
  | .noncompliance observation => observeNoncompliance recorder observation
  | .event connection clientId kind pskCategory detail =>
      observeEvent recorder connection clientId kind pskCategory detail

def calls (run : List Call) : Recorder := run.foldl (called loads) {}

end Conformance.Validator
