import SendspinConformance.Adapters.TraceBrackets

set_option autoImplicit false

namespace Conformance.Adapters

open Python Protocol Base

-- Everything but sent_frames, which counts the frames, and the fragments being gathered.
def unframed (connection : Connection) : Connection :=
  { connection with
    record := { connection.record with sentFrames := [] }
    fragmentType := none
    fragmentData := []
    fragmentPosition := {} }

-- What an inbound message adds to a connection, whatever the connection holds.
structure Received where
  event : WireEvent
  states : List AvailabilityEntry := []
  times : List TimeEntry := []
  clientHello : Option Bytes → Option Bytes := id
  latestAvailable : Option Bool → Option Bool := id
  preferredFormat : Option Bytes → Option Bytes := id
  clientCommand : Option Bytes → Option Bytes := id

def received (connection : Connection) (added : Received) : Connection :=
  let record := connection.record
  { connection with
    record := { record with
      events := record.events ++ [added.event]
      availabilityTrace := record.availabilityTrace ++ added.states
      timeExchange := record.timeExchange ++ added.times
      clientHello := added.clientHello record.clientHello
      latestAvailable := added.latestAvailable record.latestAvailable
      preferredFormat := added.preferredFormat record.preferredFormat
      clientCommand := added.clientCommand record.clientCommand }
    timeConfirmed := connection.timeConfirmed ++ added.times.map fun _ => true }

-- The places of a position lie in the lists they index.
def Within (position : Position) (connection : Connection) : Prop :=
  position.events ≤ connection.record.events.length ∧
    position.availability ≤ connection.record.availabilityTrace.length ∧
    position.timeExchange ≤ connection.record.timeExchange.length ∧
    position.timeExchange ≤ connection.timeConfirmed.length

variable (json : ArduinoJson)

theorem add_event_received (connection : Connection) (event : WireEvent) :
    addEvent connection event = received connection { event } := by
  simp [addEvent, received]

def formatKept (format : Json) (found : Option Bytes) : Option Bytes :=
  if format.isObj then some (json.serializeJson format) else found

def commandKept (controller : Json) (found : Option Bytes) : Option Bytes :=
  if found.isNone && controller.isObj then some (json.serializeJson controller) else found

theorem on_client_command_received (connection : Connection) (event : WireEvent) (doc : Json) :
    onClientCommand json (addEvent connection event) doc = received connection
      { event := event, clientCommand := commandKept json (member (member doc "payload") "controller") } := by
  cases found : connection.record.clientCommand with
  | none =>
      cases isObj : (member (member doc "payload") "controller").isObj with
      | true => simp [onClientCommand, addEvent, received, commandKept, found, isObj]
      | false => simp [onClientCommand, addEvent, received, commandKept, found, isObj]
  | some text => simp [onClientCommand, addEvent, received, commandKept, found]

theorem on_inbound_received (binary : Bool) (messageId : UInt8) (plaintext : Bytes) :
    ∃ added isCase, ∀ connection,
      onInbound json connection binary messageId plaintext = (received connection added, isCase) := by
  let text := jsonBody binary plaintext
  let doc := (json.deserializeJson text).2
  let event : WireEvent := ⟨true, binary, messageId, messageType json text⟩
  simp only [onInbound]
  by_cases frame : (binary && messageId != jsonMessageId) = true
  · simp only [if_pos frame]
    exact ⟨{ event := ⟨true, binary, messageId, ""⟩ }, false, fun connection => by rw [add_event_received]⟩
  · simp only [if_neg frame]
    split
    · let added : Received := { event := event, clientHello := fun _ => some text }
      exact ⟨added, true, fun connection => by simp [onClientHello, addEvent, received, added, event, text]⟩
    · split
      · let available := boolOf (member (member doc "payload") "available")
        let format := member (member (member doc "payload") "player") "format"
        let added : Received :=
          { event := event, states := [stateEntry available], latestAvailable := fun _ => available,
            preferredFormat := formatKept json format }
        exact ⟨added, false, fun connection => by
          simp [onClientState, formatKept, addEvent, received, added, event, text, doc, format, available]⟩
      · split
        · let added : Received := { event := event, times := [⟨.clientTime, text⟩] }
          exact ⟨added, false, fun connection => by simp [onClientTime, addEvent, received, added, event, text]⟩
        · split
          · exact ⟨_, false, fun connection => by rw [on_client_command_received]⟩
          · exact ⟨{ event := event }, false, fun connection => by rw [add_event_received]⟩

-- The whole message, traced with the places its send began at.
def onCompleted (connection : Connection) (position : Position) (type : UInt8) (body : Bytes) : Connection :=
  if type = jsonMessageId then onOutboundJson json connection body position true
  else onFragmentedBinary { connection with fragmentPosition := position } type body

theorem received_insert_event (connection : Connection) (added : Received) (place : Nat) (event : WireEvent)
    (within : place ≤ connection.record.events.length) :
    insertEvent (received connection added) place event = received (insertEvent connection place event) added := by
  simp [insertEvent, received, insert_at_append _ _ _ _ within]

theorem received_insert_time (connection : Connection) (added : Received) (place : Nat) (entry : TimeEntry)
    (within : place ≤ connection.record.timeExchange.length) (confirmations : place ≤ connection.timeConfirmed.length) :
    insertTime (received connection added) place entry = received (insertTime connection place entry) added := by
  simp [insertTime, received, insert_at_append _ _ _ _ within, insert_at_append _ _ _ _ confirmations]

theorem received_group_update (connection : Connection) (added : Received) (text : Bytes) :
    onGroupUpdate (received connection added) text = received (onGroupUpdate connection text) added := by
  cases activation : connection.record.activation with
  | none => simp [onGroupUpdate, received, activation]
  | some found => simp [onGroupUpdate, received, activation]

theorem received_stream_start (connection : Connection) (added : Received) (doc : Json) (position : Position)
    (within : position.availability ≤ connection.record.availabilityTrace.length) :
    onStreamStart json (received connection added) doc position =
      received (onStreamStart json connection doc position) added := by
  simp [onStreamStart, received, insert_at_append _ _ _ _ within]

-- An inbound message commutes with a message placed where it does not reach.
theorem received_outbound_json (connection : Connection) (added : Received) (text : Bytes) (position : Position)
    (binary : Bool) (within : Within position connection) :
    onOutboundJson json (received connection added) text position binary =
      received (onOutboundJson json connection text position binary) added := by
  obtain ⟨events, availability, times, confirmations⟩ := within
  simp only [onOutboundJson]
  rw [received_insert_event connection added _ _ events,
    received_insert_time (insertEvent connection _ _) added _ _ times confirmations]
  split
  · rfl
  · split
    · exact received_group_update _ added text
    · split
      · exact received_stream_start json _ added _ position availability
      · split
        · rfl
        · split <;> rfl

theorem received_fragmented_binary (connection : Connection) (added : Received) (messageId : UInt8) (data : Bytes)
    (within : connection.fragmentPosition.events ≤ connection.record.events.length) :
    onFragmentedBinary (received connection added) messageId data =
      received (onFragmentedBinary connection messageId data) added := by
  have placed := received_insert_event connection added connection.fragmentPosition.events
    ⟨false, true, messageId, ""⟩ within
  simp only [onFragmentedBinary]
  rw [show (received connection added).fragmentPosition = connection.fragmentPosition from rfl, placed]
  split <;> split <;> rfl

theorem received_completed (connection : Connection) (added : Received) (position : Position) (type : UInt8)
    (body : Bytes) (within : Within position connection) :
    onCompleted json (received connection added) position type body =
      received (onCompleted json connection position type body) added := by
  by_cases isJson : type = jsonMessageId
  · rw [onCompleted, onCompleted, if_pos isJson, if_pos isJson]
    exact received_outbound_json json connection added body position true within
  · rw [onCompleted, onCompleted, if_neg isJson, if_neg isJson]
    exact received_fragmented_binary { connection with fragmentPosition := position } added type body within.1

theorem received_within (connection : Connection) (added : Received) (position : Position)
    (within : Within position connection) : Within position (received connection added) := by
  obtain ⟨events, availability, times, confirmations⟩ := within
  simp only [Within, received, List.length_append]
  omega

-- A connection that differs in its frames and fragments alone.
def Alike (left right : Connection) : Prop := unframed left = unframed right

theorem received_alike (left right : Connection) (added : Received) (alike : Alike left right) :
    Alike (received left added) (received right added) :=
  congrArg (fun connection => received connection added) alike

theorem unframed_outbound_json (connection : Connection) (text : Bytes) (position : Position) (binary : Bool) :
    unframed (onOutboundJson json connection text position binary) =
      onOutboundJson json (unframed connection) text position binary := by
  simp only [onOutboundJson]
  split
  · rfl
  · split
    · simp only [onGroupUpdate]
      exact apply_ite unframed _ _ _
    · split
      · rfl
      · split
        · rfl
        · split <;> rfl

theorem unframed_fragmented_binary (connection : Connection) (position : Position) (messageId : UInt8) (data : Bytes) :
    unframed (onFragmentedBinary { connection with fragmentPosition := position } messageId data) =
      unframed (onFragmentedBinary { unframed connection with fragmentPosition := position } messageId data) := by
  simp only [onFragmentedBinary]
  split <;> split <;> rfl

theorem completed_alike (left right : Connection) (position : Position) (type : UInt8) (body : Bytes)
    (alike : Alike left right) :
    Alike (onCompleted json left position type body) (onCompleted json right position type body) := by
  by_cases isJson : type = jsonMessageId
  · rw [onCompleted, onCompleted, if_pos isJson, if_pos isJson, Alike, unframed_outbound_json, unframed_outbound_json,
      alike]
  · rw [onCompleted, onCompleted, if_neg isJson, if_neg isJson, Alike, unframed_fragmented_binary,
      unframed_fragmented_binary right, alike]

theorem unframed_metadata (stampUs : Int) (unwritten : List Bytes) (record : ConnectionRecord) :
    { unwritten.foldl (metadataWritten json stampUs) record with sentFrames := [] } =
      unwritten.foldl (metadataWritten json stampUs) { record with sentFrames := [] } := by
  induction unwritten generalizing record with
  | nil => rfl
  | cons metadata rest ih => exact ih _

theorem written_alike (left right : Connection) (stampUs : Int) (alike : Alike left right) :
    Alike (onWritten json left stampUs) (onWritten json right stampUs) := by
  have unframedWritten (connection : Connection) :
      unframed (onWritten json connection stampUs) = onWritten json (unframed connection) stampUs := by
    have metadata := unframed_metadata json stampUs connection.unwrittenMetadata connection.record
    simp only [onWritten, unframed]
    rw [← metadata]
  rw [Alike, unframedWritten, unframedWritten, alike]

-- A message of a connection traced outbound as one binary frame, its write still to come.
structure Sent (id : Nat) (plaintext : Bytes) (message : TracedMessage) : Prop where
  connection : message.connectionId = id
  unwritten : message.written = false
  outbound : message.direction = .outbound
  binary : message.binary = true
  body : message.plaintext = plaintext

def Incoming (message : TracedMessage) : Prop := message.written = false ∧ message.direction = .inbound

theorem whole_json (connection : Connection) (id : Nat) (body : Bytes) (message : TracedMessage)
    (sent : Sent id (jsonMessageId :: body) message) :
    onOutbound json connection message = onCompleted json connection (positionOf connection) jsonMessageId body := by
  simp [onOutbound, onCompleted, sent.binary, sent.body]

-- The audio the library reports is what follows the frame's header.
def AudioAgrees (message : TracedMessage) : Prop :=
  framePrefixBytes ≤ message.plaintext.length → message.audioBytes = message.plaintext.length - framePrefixBytes

theorem whole_audio (connection : Connection) (id : Nat) (body : Bytes) (message : TracedMessage)
    (sent : Sent id (audioChunkMessageId :: body) message) (agrees : AudioAgrees message) :
    Alike (onOutbound json connection message)
      (onCompleted json connection (positionOf connection) audioChunkMessageId body) := by
  have isFrame : onOutbound json connection message = onOutboundFrame connection message audioChunkMessageId := by
    cases body with
    | nil => simp [onOutbound, sent.binary, sent.body, show audioChunkMessageId ≠ jsonMessageId by decide]
    | cons flags rest =>
        simp [onOutbound, sent.binary, sent.body, show audioChunkMessageId ≠ jsonMessageId by decide,
          show audioChunkMessageId ≠ fragmentMessageId by decide]
  have placed (event : WireEvent) : insertEvent { connection with fragmentPosition := positionOf connection }
      (positionOf connection).events event =
        { addEvent connection event with fragmentPosition := positionOf connection } := by
    simp [insertEvent, addEvent, positionOf, insert_at_length]
  have notArtwork : ¬ (firstArtworkMessageId ≤ audioChunkMessageId ∧ audioChunkMessageId ≤ lastArtworkMessageId) := by
    decide
  have sameStamp : (audioChunkMessageId :: body).length ≥ 1 + timestampBytes ↔ body.length ≥ timestampBytes := by
    rw [List.length_cons]
    omega
  have sameAudio : ((audioChunkMessageId :: body).length ≥ framePrefixBytes ∧
      (audioChunkMessageId :: body).length - framePrefixBytes = message.audioBytes) ↔
        body.length ≥ framePrefixBytes - 1 := by
    rw [AudioAgrees, sent.body, List.length_cons] at agrees
    rw [List.length_cons]
    simp only [framePrefixBytes] at agrees ⊢
    omega
  rw [isFrame, onCompleted, if_neg (by decide), onOutboundFrame, onFragmentedBinary, placed]
  simp only [decide_true, Bool.true_and, Bool.and_eq_true, decide_eq_true_eq, if_true, if_neg notArtwork, sent.body,
    sameStamp, sameAudio]
  by_cases stamped : body.length ≥ timestampBytes
  · by_cases full : body.length ≥ framePrefixBytes - 1
    · rw [if_pos stamped, if_pos full, if_pos full, if_pos stamped]
      rfl
    · rw [if_pos stamped, if_neg full, if_neg full, if_pos stamped]
      rfl
  · by_cases full : body.length ≥ framePrefixBytes - 1
    · rw [if_neg stamped, if_pos full, if_pos full, if_neg stamped]
      rfl
    · rw [if_neg stamped, if_neg full, if_neg full, if_neg stamped]
      rfl

-- A connection that gathers a message of the type given, its data so far and its place.
structure Gathering (type : UInt8) (data : Bytes) (position : Position) (connection : Connection) : Prop where
  type : connection.fragmentType = some type
  data : connection.fragmentData = data
  position : connection.fragmentPosition = position

theorem fragment_traced (connection : Connection) (id : Nat) (flags : UInt8) (rest : Bytes) (message : TracedMessage)
    (sent : Sent id (fragmentMessageId :: flags :: rest) message) :
    onOutbound json connection message = onOutboundFragment json connection message.plaintext flags rest := by
  simp [onOutbound, sent.binary, sent.body, show fragmentMessageId ≠ jsonMessageId by decide]

-- A fragment is gathered; the last one completes the message at the place its first had.
theorem gathered_fragment (connection : Connection) (plaintext : Bytes) (flags type : UInt8) (rest data : Bytes)
    (position : Position) (gathering : Gathering type data position (gatherFragment connection flags rest)) :
    (flags &&& lastFragmentFlag = 0 →
      Gathering type data position (onOutboundFragment json connection plaintext flags rest) ∧
        Alike (onOutboundFragment json connection plaintext flags rest) (gatherFragment connection flags rest)) ∧
    (flags &&& lastFragmentFlag ≠ 0 →
      Alike (onOutboundFragment json connection plaintext flags rest)
        (onCompleted json (gatherFragment connection flags rest) position type data)) := by
  simp only [onOutboundFragment]
  generalize gatherFragment connection flags rest = gathered at gathering ⊢
  have framing : Gathering type data position
        (if gathered.fragmentType ≠ some jsonMessageId then addSentFrame gathered plaintext none else gathered) ∧
      Alike (if gathered.fragmentType ≠ some jsonMessageId then addSentFrame gathered plaintext none else gathered)
        gathered := by
    split
    · exact ⟨⟨gathering.type, gathering.data, gathering.position⟩, rfl⟩
    · exact ⟨gathering, rfl⟩
  generalize (if gathered.fragmentType ≠ some jsonMessageId then _ else _ : Connection) = framed at framing ⊢
  obtain ⟨framedGathering, alike⟩ := framing
  rw [gathering.type]
  apply And.intro
  · intro more
    simp only [if_pos more]
    exact ⟨framedGathering, alike⟩
  · intro isLast
    let finished := { framed with fragmentType := none, fragmentData := [] }
    have completed := completed_alike json finished gathered position type data alike
    simp only [if_neg isLast]
    rw [framedGathering.data, framedGathering.position]
    rw [← framedGathering.position] at completed ⊢
    by_cases isJson : type = jsonMessageId
    · rw [if_pos isJson]
      simpa only [onCompleted, if_pos isJson] using completed
    · rw [if_neg isJson]
      simpa only [onCompleted, if_neg isJson] using completed

theorem first_fragment (connection : Connection) (id : Nat) (flags type : UInt8) (data : Bytes)
    (message : TracedMessage) (sent : Sent id (fragmentMessageId :: flags :: type :: data) message)
    (first : flags &&& firstFragmentFlag ≠ 0) (notLast : flags &&& lastFragmentFlag = 0) :
    Gathering type data (positionOf connection) (onOutbound json connection message) ∧
      Alike (onOutbound json connection message) connection := by
  have gathered : gatherFragment connection flags (type :: data) = { connection with
      fragmentType := some type, fragmentData := data, fragmentPosition := positionOf connection } := by
    rw [gatherFragment, if_pos first]
  have gathering : Gathering type data (positionOf connection) (gatherFragment connection flags (type :: data)) := by
    rw [gathered]
    exact ⟨rfl, rfl, rfl⟩
  rw [fragment_traced json connection id flags _ message sent]
  obtain ⟨still, alike⟩ := (gathered_fragment json _ message.plaintext _ _ _ _ _ gathering).1 notLast
  rw [gathered] at alike
  exact ⟨still, alike⟩

theorem gather_more (connection : Connection) (flags type : UInt8) (gathered data : Bytes) (position : Position)
    (gathering : Gathering type gathered position connection) (notFirst : flags &&& firstFragmentFlag = 0) :
    Gathering type (gathered ++ data) position (gatherFragment connection flags data) ∧
      Alike (gatherFragment connection flags data) connection := by
  cases data with
  | nil =>
      rw [List.append_nil]
      exact ⟨gathering, rfl⟩
  | cons byte rest =>
      rw [gatherFragment, if_neg (not_not.mpr notFirst), gathering.data]
      exact ⟨⟨gathering.type, rfl, gathering.position⟩, rfl⟩

theorem middle_fragment (connection : Connection) (id : Nat) (flags type : UInt8) (gathered data : Bytes)
    (position : Position) (message : TracedMessage) (sent : Sent id (fragmentMessageId :: flags :: data) message)
    (gathering : Gathering type gathered position connection) (notFirst : flags &&& firstFragmentFlag = 0)
    (notLast : flags &&& lastFragmentFlag = 0) :
    Gathering type (gathered ++ data) position (onOutbound json connection message) ∧
      Alike (onOutbound json connection message) connection := by
  obtain ⟨more, alike⟩ := gather_more connection flags type gathered data position gathering notFirst
  rw [fragment_traced json connection id flags _ message sent]
  obtain ⟨still, same⟩ := (gathered_fragment json _ message.plaintext _ _ _ _ _ more).1 notLast
  exact ⟨still, same.trans alike⟩

theorem last_fragment (connection : Connection) (id : Nat) (flags type : UInt8) (gathered data : Bytes)
    (position : Position) (message : TracedMessage) (sent : Sent id (fragmentMessageId :: flags :: data) message)
    (gathering : Gathering type gathered position connection) (notFirst : flags &&& firstFragmentFlag = 0)
    (isLast : flags &&& lastFragmentFlag ≠ 0) :
    Alike (onOutbound json connection message) (onCompleted json connection position type (gathered ++ data)) := by
  obtain ⟨more, alike⟩ := gather_more connection flags type gathered data position gathering notFirst
  rw [fragment_traced json connection id flags _ message sent]
  exact ((gathered_fragment json _ message.plaintext _ _ _ _ _ more).2 isLast).trans
    (completed_alike json _ _ position type _ alike)

end Conformance.Adapters
