import SendspinConformance.Harness.ChunkVerdict
import SendspinConformance.Harness.SummaryFields

set_option autoImplicit false

namespace Conformance.Comparison

open Python Harness

variable [UnicodeData]

def noTimestamp : String :=
  "The first server/state carrying a metadata object had no timestamp; " ++
    "the spec requires one so the client is current before any scheduled update"

-- A state stamped later than the bound
def scheduledAhead (stampedUs boundUs : Int) : Py String := do
  let milliseconds ← trueDivide (stampedUs - boundUs) 1000
  .ok ("The first server/state carrying a metadata object was scheduled " ++ oneDecimal milliseconds ++
    " ms ahead of the server clock (timestamp=" ++ toString stampedUs ++ ", server clock once sent=" ++
    toString boundUs ++ "); the spec requires a past or present timestamp")

-- The stamp the client saw beside what the server sent
def stampVerdict (stampedUs : Int) (sent : Fields) : Py (Bool × Option String) :=
  match (getKey sent "timestamp_us").asInt, (getKey sent "bound_us").asInt with
  | some sentUs, some boundUs =>
      if stampedUs ≠ sentUs then .ok (false, none)
      else if stampedUs > boundUs then do .ok (true, some (← scheduledAhead stampedUs boundUs))
      else .ok (true, none)
  | _, _ => .ok (false, none)

-- _first_metadata_state_verdict, as (evaluated, violation)
def firstMetadataStateVerdict (serverSummary clientSummary : Fields) : Py (Bool × Option String) := do
  match ← getField (sectionOf clientSummary "metadata") "first_object_state" with
  | .obj firstState =>
      if !hasKey firstState "timestamp_us" then .ok (false, none)
      else
        match getKey firstState "timestamp_us" with
        | .null => .ok (true, some noTimestamp)
        | .int stampedUs => do
            match ← getField (sectionOf serverSummary "metadata") "first_state_sent" with
            | .obj sent => stampVerdict stampedUs sent
            | _ => .ok (false, none)
        | _ => .ok (false, none)
  | _ => .ok (false, none)

def firstStateOutcome : Bool × Option String → Bool × String
  | (_, some violation) => (false, violation)
  | (true, none) => (true, "Metadata snapshot matches and the first state carried a past or present timestamp")
  | (false, none) => (true, "Metadata snapshot matches")

def compareMetadataSummaries (serverSummary clientSummary : Fields) : Py (Bool × String) :=
  afterStatuses serverSummary clientSummary do
    let expected ← getField (sectionOf serverSummary "metadata") "expected"
    let received ← getField (sectionOf clientSummary "metadata") "received"
    let updateCount ← countIn (← getField (sectionOf clientSummary "metadata") "update_count")
    if updateCount ≤ 0 then .ok (false, "Client summary shows zero metadata updates")
    else if !pyEqual expected received then
      .ok (false, "Metadata mismatch: server=" ++ pyRepr expected ++ " client=" ++ pyRepr received)
    else .ok (firstStateOutcome (← firstMetadataStateVerdict serverSummary clientSummary))

-- The values no other one before them equals
def distinctValues (values : List Json) : List Json :=
  values.foldl (fun seen value => if seen.any (sameItem · value) then seen else seen ++ [value]) []

-- set(values) raises for a value that has no hash
def hashable (values : List Json) : Py Unit :=
  match values.find? fun value => match value with | .arr _ | .obj _ => true | _ => false with
  | some value => .error ⟨"TypeError", "unhashable type: '" ++ value.typeName ++ "'"⟩
  | none => .ok ()

-- set(values) - set(others)
def setMinus (values others : List Json) : List Json :=
  distinctValues (values.filter fun value => !others.any (sameItem · value))

def controllerFields : List String := ["volume", "muted", "repeat", "shuffle"]

def controllerFieldFailure (serverController receivedState : Fields) (field : String) : Option String :=
  if !hasKey receivedState field then some ("Client controller state is missing " ++ field)
  else if !pyEqual (getKey serverController field) (getKey receivedState field) then
    some ("Controller " ++ field ++ " mismatch: server=" ++ pyRepr (getKey serverController field) ++ " client=" ++
      pyRepr (getKey receivedState field))
  else none

section

variable [SetOrder]

-- sorted(values) of a set
def sortedValues (values : List Json) : Py (List Json) :=
  match values.mapM Json.asStr with
  | some texts => .ok ((sorted texts).map .str)
  | none => SetOrder.sorted values

def setDetail (label : String) (values : List Json) : List String :=
  if values.isEmpty then [] else [label ++ pyRepr (.arr values)]

-- _compare_controller_supported_commands, as the reason it fails for
def supportedCommandsFailure (serverController receivedState : Fields) : Py (Option String) :=
  match getKey serverController "supported_commands" with
  | .arr advertised =>
      if !hasKey receivedState "supported_commands" then
        .ok (some "Client controller state is missing supported_commands")
      else
        match getKey receivedState "supported_commands" with
        | .arr observed => do
            hashable advertised
            hashable observed
            let unobserved ← sortedValues (setMinus advertised observed)
            let unadvertised ← sortedValues (setMinus observed advertised)
            let details := setDetail "advertised but not observed: " unobserved ++
              setDetail "observed but not advertised: " unadvertised
            if details.isEmpty then .ok none
            else .ok (some ("Controller supported_commands mismatch: " ++ joinWith "; " details))
        | _ => .ok (some "Client controller state reports no supported_commands list")
  | _ => .ok (some "Server summary shows no advertised supported_commands")

-- expected.get("command") of a command that is an object
def commandNameOf : Json → Json
  | .obj fields => getKey fields "command"
  | _ => .null

-- What the commands and the states of the two sides come to, once both sides have reported a command
def controllerVerdict (serverController receivedState : Fields) (expected : Json) : Py (Bool × String) := do
  match controllerFields.findSome? (controllerFieldFailure serverController receivedState) with
  | some failure => .ok (false, failure)
  | none =>
      match ← supportedCommandsFailure serverController receivedState with
      | some failure => .ok (false, failure)
      | none =>
          let commandName := commandNameOf expected
          match getKey receivedState "supported_commands" with
          | .arr observed =>
              if observed.any (sameItem · commandName) then
                .ok (true, "Controller command matched (" ++ pyStr commandName ++ ")")
              else
                .ok (false, "Controller command " ++ pyRepr commandName ++ " is absent from the " ++
                  "supported_commands the client observed")
          | _ => .ok (false, "Client controller state reports no supported_commands list")

def compareControllerSummaries (serverSummary clientSummary : Fields) : Py (Bool × String) :=
  afterStatuses serverSummary clientSummary do
    let serverController := sectionOf serverSummary "controller"
    let expected ← getField serverController "expected_command"
    let received ← getField serverController "received_command"
    let sent ← getField (sectionOf clientSummary "controller") "sent_command"
    if received.isNull then .ok (false, "Server summary shows no controller command received")
    else if sent.isNull then .ok (false, "Client summary shows no controller command sent")
    else if !(pyEqual expected received && pyEqual received sent) then
      .ok (false, "Controller command mismatch: expected=" ++ pyRepr expected ++ " server=" ++ pyRepr received ++
        " client=" ++ pyRepr sent)
    else
      match serverController, ← getField (sectionOf clientSummary "controller") "received_state" with
      | .obj serverController, .obj receivedState => controllerVerdict serverController receivedState expected
      | _, _ => .ok (false, "Client summary shows no controller state")

end

def compareArtworkSummaries (serverSummary clientSummary : Fields) : Py (Bool × String) :=
  afterStatuses serverSummary clientSummary do
    let expected := sectionOf serverSummary "artwork"
    let received := sectionOf clientSummary "artwork"
    let receivedCount ← countIn (← getField received "received_count")
    if receivedCount ≤ 0 then .ok (false, "Client summary shows zero artwork frames")
    else do
      let expectedChannel ← getField expected "channel"
      let receivedChannel ← getField received "channel"
      let expectedHash ← getField expected "encoded_sha256"
      let receivedHash ← getField received "received_sha256"
      if pyEqual expectedChannel receivedChannel && pyEqual expectedHash receivedHash then
        .ok (true, "Artwork bytes match")
      else
        .ok (false, "Artwork mismatch: server=" ++ pyStr expectedHash ++ " client=" ++ pyStr receivedHash)

def audioFormatFields : List String := ["codec", "sample_rate", "bit_depth", "channels"]

-- _format_label
def formatLabel (format : Json) : Py String :=
  if !format.truthy then .ok "none"
  else do
    .ok (pyStr (← getField format "codec") ++ "/" ++ pyStr (← getField format "sample_rate") ++ "Hz/" ++
      pyStr (← getField format "bit_depth") ++ "bit/" ++ pyStr (← getField format "channels") ++ "ch")

-- _format_matches
def formatMatches (actual expected : Fields) : Bool :=
  audioFormatFields.all fun key =>
    (getKey expected key).isNull || pyEqual (getKey actual key) (getKey expected key)

-- _formats_equal
def formatsEqual (left right : Fields) : Bool :=
  audioFormatFields.all fun key => pyEqual (getKey left key) (getKey right key)

-- FORMAT_PREFERENCE_TARGETS
def formatPreferenceTarget (scenarioId : String) : Py Fields :=
  if scenarioId = "client-initiated-state-format-pcm" then .ok [("codec", .str "pcm"), ("bit_depth", .int 16)]
  else if scenarioId = "client-initiated-state-format-flac" then .ok [("codec", .str "flac")]
  else .error ⟨"KeyError", Python.reprStr scenarioId⟩

-- The format the stream started with beside the one it ended with
def movedVerdict (initial : Json) (final : Fields) : Py (Bool × String) :=
  match initial with
  | .obj initial => do
      if formatsEqual initial final then
        .ok (false, "Format did not change (stayed " ++ (← formatLabel (.obj final)) ++ ")")
      else .ok (true, "Renegotiated " ++ (← formatLabel (.obj initial)) ++ " -> " ++ (← formatLabel (.obj final)))
  | initial => do .ok (true, "Renegotiated " ++ (← formatLabel initial) ++ " -> " ++ (← formatLabel (.obj final)))

-- What the client renegotiated, where the server received what the client prefers
def renegotiationVerdict (serverSummary renegotiation requested : Fields) : Py (Bool × String) := do
  let streamStartCount ← countIn (getKey renegotiation "stream_start_count")
  let requestedLabel ← formatLabel (.obj requested)
  let sent := getKey serverSummary "stream"
  let serverApplied := match sent with
    | .obj sent => formatMatches sent requested
    | _ => false
  let counted := "(stream_start_count=" ++ toString streamStartCount ++ ")"
  match getKey renegotiation "final_format" with
  | .obj final =>
      if streamStartCount < 2 then .ok (unchangedVerdict serverApplied requestedLabel counted)
      else if !formatMatches final requested then
        .ok (false, "Renegotiated format " ++ (← formatLabel (.obj final)) ++ " does not match requested " ++
          requestedLabel)
      else if !serverApplied then
        .ok (false, "Client reports the stream changed to " ++ (← formatLabel (.obj final)) ++ " but the " ++
          "server's last stream/start was " ++ (← formatLabel (if sent.isObj then sent else .null)))
      else
        movedVerdict (getKey renegotiation "initial_format") final
  | _ => .ok (unchangedVerdict serverApplied requestedLabel counted)
where
  unchangedVerdict (serverApplied : Bool) (requestedLabel counted : String) : Bool × String :=
    if serverApplied then
      (false, "Server sent a stream/start in the preferred " ++ requestedLabel ++
        " but the client did not observe the stream change format " ++ counted)
    else
      (false, "Server kept the stream format after the client/state preference changed, " ++
        "where roles/player/v1.md says it SHOULD select the preferred format " ++ counted)

-- The client's side, where the server received a preference the scenario has the client state
def requestedVerdict (serverSummary clientSummary received : Fields) : Py (Bool × String) :=
  match getKey clientSummary "renegotiation" with
  | .obj renegotiation =>
      match getKey renegotiation "requested" with
      | .obj requested => do
          if !formatMatches received requested then
            .ok (false, "Server received client/state format " ++ (← formatLabel (.obj received)) ++ " but the " ++
              "client reports preferring " ++ (← formatLabel (.obj requested)))
          else renegotiationVerdict serverSummary renegotiation requested
      | _ => .ok (false, "Client did not record a requested format")
  | _ => .ok (false, "Client summary missing renegotiation block")

def compareFormatPreferenceSummaries (scenarioId : String) (serverSummary clientSummary : Fields) :
    Py (Bool × String) :=
  afterStatuses serverSummary clientSummary <|
    match getKey serverSummary "format_preference" with
    | .obj preference =>
        match getKey preference "received" with
        | .obj received => do
            let target ← formatPreferenceTarget scenarioId
            if !formatMatches received target then
              .ok (false, "Server received client/state format " ++ (← formatLabel (.obj received)) ++ ", but " ++
                "this scenario has the client prefer " ++
                joinWith ", " (target.map fun field => field.1 ++ "=" ++ pyStr field.2))
            else requestedVerdict serverSummary clientSummary received
        | _ =>
            .ok (false, "Server received no player format preference in client/state " ++
              "(roles/player/v1.md, client/state player object `format`)")
    | _ =>
        .ok (false, "Harness gap: the server adapter does not record the format preference " ++
          "it receives in client/state")

end Conformance.Comparison
