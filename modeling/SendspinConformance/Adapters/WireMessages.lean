import SendspinConformance.Adapters.ArtworkRecorded

set_option autoImplicit false

namespace Conformance.Adapters

open Python Protocol Base

-- A message as the wire carries it, in one frame or in several.
structure WireMessage where
  inbound : Bool
  binary : Bool
  messageId : UInt8
  body : Bytes
deriving DecidableEq

inductive WireFrame where
  | whole (message : WireMessage)
  | fragment (flags : UInt8) (rest : Bytes)

-- The frame of a message traced before its write.
def frameOf (message : TracedMessage) : Option WireFrame :=
  if message.binary = false then
    some (.whole ⟨decide (message.direction = .inbound), false, jsonMessageId, message.plaintext⟩)
  else
    match message.direction, message.plaintext with
    | .inbound, [] => some (.whole ⟨true, true, jsonMessageId, []⟩)
    | .inbound, id :: body => some (.whole ⟨true, true, id, body⟩)
    | .outbound, [] => none
    | .outbound, [id] => some (.whole ⟨false, true, id, []⟩)
    | .outbound, id :: flags :: rest =>
        some (if id = fragmentMessageId then .fragment flags rest else .whole ⟨false, true, id, flags :: rest⟩)

-- A fragment that opens a message.
def opensMessage (flags : UInt8) (rest : Bytes) : Bool := flags &&& firstFragmentFlag ≠ 0 && !rest.isEmpty

-- A message between the places in the run of its first frame and its last.
structure SpannedMessage where
  began : Nat
  ended : Nat
  message : WireMessage
deriving DecidableEq

-- The messages of one connection read off a run, in the order of their last frames.
structure WireReader where
  count : Nat := 0
  fragments : Reassembly := {}
  opened : Nat := 0
  messages : List SpannedMessage := []

def WireReader.take (reader : WireReader) (frame : WireFrame) : WireReader :=
  match frame with
  | .whole message => { reader with messages := reader.messages ++ [⟨reader.count, reader.count, message⟩] }
  | .fragment flags rest =>
      let opened := if opensMessage flags rest then reader.count else reader.opened
      let gathered := { reader with fragments := (reader.fragments.add flags rest).1, opened := opened }
      match (reader.fragments.add flags rest).2 with
      | some (messageId :: body) =>
          { gathered with
            messages := reader.messages ++ [⟨opened, reader.count, ⟨false, true, messageId, body⟩⟩] }
      | _ => gathered

def WireReader.read (id : Nat) (reader : WireReader) (message : TracedMessage) : WireReader :=
  let taken :=
    if message.connectionId ≠ id ∨ message.written = true then reader
    else
      match frameOf message with
      | some frame => reader.take frame
      | none => reader
  { taken with count := reader.count + 1 }

def wireReader (id : Nat) (run : List TracedMessage) : WireReader := run.foldl (WireReader.read id) {}

def messagesOf (id : Nat) (run : List TracedMessage) : List SpannedMessage := (wireReader id run).messages

-- A write completion of the connection comes after the message's last frame; what was received
-- needs none.
def confirmedIn (id : Nat) (run : List TracedMessage) (spanned : SpannedMessage) : Bool :=
  spanned.message.inbound ||
    (run.drop (spanned.ended + 1)).any fun later => decide (later.connectionId = id) && later.written

variable (json : ArduinoJson)

def WireMessage.event (message : WireMessage) : WireEvent :=
  ⟨message.inbound, message.binary, message.messageId,
    if message.messageId = jsonMessageId then messageType json message.body else ""⟩

-- The entry of the time exchange a message stands for.
def WireMessage.time (message : WireMessage) : Option TimeEntry :=
  if message.messageId ≠ jsonMessageId then none
  else if message.inbound then
    if messageType json message.body = "client/time" then some ⟨.clientTime, message.body⟩ else none
  else some (if messageType json message.body = "server/time" then ⟨.serverTime, message.body⟩ else ⟨.otherSent, []⟩)

-- What a connection keeps its events and its time exchange in, with the fragments gathered.
structure WireTracks where
  events : List WireEvent
  timeExchange : List TimeEntry
  timeConfirmed : List Bool
  fragments : Reassembly
  position : Position

def tracksOf (connection : Connection) : WireTracks :=
  ⟨connection.record.events, connection.record.timeExchange, connection.timeConfirmed, reassembly connection,
    connection.fragmentPosition⟩

def insertSome {α : Type} (place : Nat) (item : Option α) (items : List α) : List α :=
  item.elim items fun found => insertAt place found items

def WireTracks.add (tracks : WireTracks) (place : Position) (message : WireMessage) : WireTracks :=
  { tracks with
    events := insertAt place.events (message.event json) tracks.events
    timeExchange := insertSome place.timeExchange (message.time json) tracks.timeExchange
    timeConfirmed :=
      insertSome place.timeExchange ((message.time json).map fun _ => message.inbound) tracks.timeConfirmed }

def WireTracks.take (tracks : WireTracks) (here : Position) (frame : WireFrame) : WireTracks :=
  match frame with
  | .whole message => tracks.add json here message
  | .fragment flags rest =>
      let position := if opensMessage flags rest then here else tracks.position
      let gathered := { tracks with fragments := (tracks.fragments.add flags rest).1, position := position }
      match (tracks.fragments.add flags rest).2 with
      | some (messageId :: body) => gathered.add json position ⟨false, true, messageId, body⟩
      | _ => gathered

def WireTracks.trace (tracks : WireTracks) (here : Position) (id : Nat) (message : TracedMessage) : WireTracks :=
  if message.connectionId ≠ id then tracks
  else if message.written then { tracks with timeConfirmed := tracks.timeConfirmed.map fun _ => true }
  else
    match frameOf message with
    | some frame => tracks.take json here frame
    | none => tracks

theorem on_written_tracks (connection : Connection) (stampUs : Int) :
    tracksOf (onWritten json connection stampUs) =
      { tracksOf connection with timeConfirmed := connection.timeConfirmed.map fun _ => true } := by
  have kept (record : ConnectionRecord) (unwritten : List Bytes) :
      (unwritten.foldl (metadataWritten json stampUs) record).events = record.events := by
    induction unwritten generalizing record with
    | nil => rfl
    | cons metadata rest ih => exact ih _
  simp [tracksOf, onWritten, reassembly, kept, metadata_written_times]

theorem insert_some_length {α : Type} (place : Nat) (item : Option α) (items : List α) (here : place = items.length) :
    insertSome place item items = items ++ item.toList := by
  subst here
  cases item with
  | none => simp [insertSome]
  | some found => simp [insertSome, insert_at_length]

-- A message placed where the lists end.
theorem add_here (connection : Connection) (step : InStep connection) (message : WireMessage) :
    (tracksOf connection).add json (positionOf connection) message =
      { tracksOf connection with
        events := connection.record.events ++ [message.event json]
        timeExchange := connection.record.timeExchange ++ (message.time json).toList
        timeConfirmed := connection.timeConfirmed ++ ((message.time json).map fun _ => message.inbound).toList } := by
  have exchange : (positionOf connection).timeExchange = (tracksOf connection).timeExchange.length := rfl
  have confirmations : (positionOf connection).timeExchange = (tracksOf connection).timeConfirmed.length := step.symm
  rw [WireTracks.add, insert_some_length _ _ _ exchange, insert_some_length _ _ _ confirmations]
  simp only [tracksOf, positionOf, insert_at_length]

theorem on_client_command_tracks (connection : Connection) (doc : Json) :
    tracksOf (onClientCommand json connection doc) = tracksOf connection := by
  simp only [onClientCommand]
  split <;> rfl

-- What a received JSON message adds to the time exchange.
theorem received_time (binary : Bool) (text : Bytes) :
    WireMessage.time json ⟨true, binary, jsonMessageId, text⟩ =
      if messageType json text = "client/time" then some ⟨.clientTime, text⟩ else none := by
  rw [WireMessage.time, if_neg (not_not.mpr rfl), if_pos rfl]

theorem on_inbound_json_tracks (connection : Connection) (binary : Bool) (plaintext : Bytes) (step : InStep connection) :
    tracksOf (onInbound json connection binary jsonMessageId plaintext).1 =
      (tracksOf connection).add json (positionOf connection)
        ⟨true, binary, jsonMessageId, jsonBody binary plaintext⟩ := by
  rw [add_here json connection step, received_time]
  have notBinary : ¬(binary && jsonMessageId != jsonMessageId) = true := by simp
  simp only [onInbound, if_neg notBinary]
  generalize jsonBody binary plaintext = text
  by_cases hello : messageType json text = "client/hello"
  · simp [hello, onClientHello, addEvent, tracksOf, reassembly, WireMessage.event]
  · by_cases state : messageType json text = "client/state"
    · simp [state, onClientState, addEvent, tracksOf, reassembly, WireMessage.event]
    · by_cases time : messageType json text = "client/time"
      · simp [time, onClientTime, addEvent, tracksOf, reassembly, WireMessage.event]
      · by_cases command : messageType json text = "client/command"
        · have kept := on_client_command_tracks json
            (addEvent connection ⟨true, binary, jsonMessageId, messageType json text⟩) (json.deserializeJson text).2
          rw [command] at kept
          simp only [command]
          refine kept.trans ?_
          simp [command, addEvent, tracksOf, reassembly, WireMessage.event]
        · simp [hello, state, time, command, addEvent, tracksOf, reassembly, WireMessage.event]

theorem on_inbound_binary_tracks (connection : Connection) (messageId : UInt8) (plaintext body : Bytes)
    (step : InStep connection) (notJson : messageId ≠ jsonMessageId) :
    tracksOf (onInbound json connection true messageId plaintext).1 =
      (tracksOf connection).add json (positionOf connection) ⟨true, true, messageId, body⟩ := by
  have isBinary : (true && messageId != jsonMessageId) = true := by simp [notJson]
  simp only [add_here json connection step, onInbound, if_pos isBinary]
  simp [addEvent, tracksOf, reassembly, WireMessage.event, WireMessage.time, notJson]

theorem on_group_update_tracks (connection : Connection) (text : Bytes) :
    tracksOf (onGroupUpdate connection text) = tracksOf connection := by
  simp only [onGroupUpdate]
  split <;> rfl

theorem on_outbound_json_tracks (connection : Connection) (text : Bytes) (position : Position) (binary : Bool) :
    tracksOf (onOutboundJson json connection text position binary) =
      (tracksOf connection).add json position ⟨false, binary, jsonMessageId, text⟩ := by
  have traced : tracksOf (insertTime
      (insertEvent connection position.events ⟨false, binary, jsonMessageId, messageType json text⟩)
      position.timeExchange
      (if messageType json text == "server/time" then ⟨.serverTime, text⟩ else ⟨.otherSent, []⟩)) =
      (tracksOf connection).add json position ⟨false, binary, jsonMessageId, text⟩ := by
    simp [insertTime, insertEvent, tracksOf, reassembly, WireTracks.add, insertSome, WireMessage.event, WireMessage.time]
  simp only [onOutboundJson]
  split
  · exact traced
  · split
    · exact (on_group_update_tracks _ text).trans traced
    · split
      · exact traced
      · split
        · exact traced
        · split <;> exact traced

theorem transfer_written_tracks (connection : Connection) (transfer : SentArtwork) (total : Nat) :
    tracksOf (transferWritten connection transfer total) = tracksOf connection := by
  rw [transferWritten]
  split <;> rfl

theorem on_outbound_artwork_tracks (connection : Connection) (plaintext : Bytes) :
    tracksOf (onOutboundArtwork connection plaintext) = tracksOf connection := by
  match plaintext with
  | [] => rfl
  | [_] => rfl
  | id :: flags :: data =>
      simp only [onOutboundArtwork]
      split
      · split <;> rfl
      · split
        · split
          · rfl
          · exact transfer_written_tracks _ _ _
        · split
          · split
            · exact transfer_written_tracks _ _ _
            · rfl
          · rfl

theorem on_outbound_frame_tracks (connection : Connection) (message : TracedMessage) (id : UInt8) (body : Bytes)
    (step : InStep connection) (notJson : id ≠ jsonMessageId) :
    tracksOf (onOutboundFrame connection message id) =
      (tracksOf connection).add json (positionOf connection) ⟨false, true, id, body⟩ := by
  have transferred : tracksOf (if firstArtworkMessageId ≤ id && id ≤ lastArtworkMessageId then
      onOutboundArtwork (addEvent connection ⟨false, true, id, ""⟩) message.plaintext
      else addEvent connection ⟨false, true, id, ""⟩) = tracksOf (addEvent connection ⟨false, true, id, ""⟩) := by
    split
    · exact on_outbound_artwork_tracks _ message.plaintext
    · rfl
  have added : tracksOf (addEvent connection ⟨false, true, id, ""⟩) =
      (tracksOf connection).add json (positionOf connection) ⟨false, true, id, body⟩ := by
    rw [add_here json connection step]
    simp [addEvent, tracksOf, reassembly, WireMessage.event, WireMessage.time, notJson]
  refine Eq.trans ?_ (transferred.trans added)
  simp only [onOutboundFrame]
  generalize (if (firstArtworkMessageId ≤ id && id ≤ lastArtworkMessageId) = true then _ else _ : Connection) = sent
  split <;> split <;> rfl

theorem on_fragmented_binary_tracks (connection : Connection) (messageId : UInt8) (data : Bytes)
    (notJson : messageId ≠ jsonMessageId) :
    tracksOf (onFragmentedBinary connection messageId data) =
      (tracksOf connection).add json connection.fragmentPosition ⟨false, true, messageId, data⟩ := by
  have added : tracksOf (insertEvent connection connection.fragmentPosition.events ⟨false, true, messageId, ""⟩) =
      (tracksOf connection).add json connection.fragmentPosition ⟨false, true, messageId, data⟩ := by
    simp [WireTracks.add, insertEvent, tracksOf, reassembly, WireMessage.event, WireMessage.time, notJson, insertSome]
  refine Eq.trans ?_ added
  simp only [onFragmentedBinary]
  split <;> split <;> rfl

theorem gather_fragment_tracks (connection : Connection) (flags : UInt8) (rest : Bytes) :
    tracksOf (gatherFragment connection flags rest) =
      { tracksOf connection with
        fragments := (reassembly connection).gather flags rest
        position := if opensMessage flags rest then positionOf connection else connection.fragmentPosition } := by
  cases rest with
  | nil => simp [gatherFragment, Reassembly.gather, opensMessage, tracksOf]
  | cons type data =>
      by_cases first : flags &&& firstFragmentFlag = 0
      · simp [gatherFragment, Reassembly.gather, opensMessage, tracksOf, reassembly, first]
      · simp [gatherFragment, Reassembly.gather, opensMessage, tracksOf, reassembly, first]

theorem on_outbound_fragment_tracks (connection : Connection) (plaintext : Bytes) (flags : UInt8) (rest : Bytes) :
    tracksOf (onOutboundFragment json connection plaintext flags rest) =
      (tracksOf connection).take json (positionOf connection) (.fragment flags rest) := by
  have gatheredTracks := gather_fragment_tracks connection flags rest
  have gatheredType : (gatherFragment connection flags rest).fragmentType =
      ((reassembly connection).gather flags rest).type :=
    congrArg (fun tracks => tracks.fragments.type) gatheredTracks
  simp only [onOutboundFragment, WireTracks.take, Reassembly.add, show (tracksOf connection).fragments =
    reassembly connection from rfl, show (tracksOf connection).position = connection.fragmentPosition from rfl]
  rw [← gatheredType]
  generalize (if opensMessage flags rest then positionOf connection else connection.fragmentPosition) = position
    at gatheredTracks ⊢
  generalize gatherFragment connection flags rest = gathered at gatheredTracks ⊢
  have framedTracks : tracksOf (if gathered.fragmentType ≠ some jsonMessageId then addSentFrame gathered plaintext none
      else gathered) = tracksOf gathered := by
    split <;> rfl
  generalize (if gathered.fragmentType ≠ some jsonMessageId then _ else _ : Connection) = framed at framedTracks ⊢
  have both := framedTracks.trans gatheredTracks
  have finishedTracks : tracksOf { framed with fragmentType := none, fragmentData := [] } =
      { tracksOf connection with fragments := {}, position := position } :=
    congrArg (fun tracks => { tracks with fragments := {} }) both
  have gatheredData : framed.fragmentData = ((reassembly connection).gather flags rest).data :=
    congrArg (fun tracks => tracks.fragments.data) both
  have samePosition : framed.fragmentPosition = position := congrArg WireTracks.position both
  cases gathered.fragmentType with
  | none => exact both
  | some messageId =>
      dsimp only
      by_cases more : flags &&& lastFragmentFlag = 0
      · rw [if_pos more, if_pos more]
        exact both
      · rw [if_neg more, if_neg more, ← gatheredData]
        by_cases isJson : messageId = jsonMessageId
        · rw [if_pos isJson, on_outbound_json_tracks, finishedTracks, samePosition, isJson]
        · rw [if_neg isJson, on_fragmented_binary_tracks json _ _ _ isJson, finishedTracks, samePosition]

theorem on_outbound_tracks (connection : Connection) (message : TracedMessage) (step : InStep connection)
    (outbound : message.direction = .outbound) :
    tracksOf (onOutbound json connection message) =
      match frameOf message with
      | some frame => (tracksOf connection).take json (positionOf connection) frame
      | none => tracksOf connection := by
  cases isBinary : message.binary with
  | false =>
      have framed : frameOf message = some (.whole ⟨false, false, jsonMessageId, message.plaintext⟩) := by
        simp [frameOf, isBinary, outbound]
      rw [framed, onOutbound, isBinary, Bool.not_false, if_pos rfl]
      exact on_outbound_json_tracks json connection message.plaintext (positionOf connection) false
  | true =>
      rw [onOutbound, isBinary, Bool.not_true, if_neg Bool.false_ne_true]
      cases found : message.plaintext with
      | nil => simp [frameOf, isBinary, outbound, found]
      | cons id body =>
          cases body with
          | nil =>
              have framed : frameOf message = some (.whole ⟨false, true, id, []⟩) := by
                simp [frameOf, isBinary, outbound, found]
              rw [framed]
              dsimp only
              by_cases isJson : id = jsonMessageId
              · rw [if_pos isJson, isJson]
                exact on_outbound_json_tracks json connection [] (positionOf connection) true
              · rw [if_neg isJson]
                exact on_outbound_frame_tracks json connection message id [] step isJson
          | cons flags rest =>
              have framed : frameOf message = some
                  (if id = fragmentMessageId then .fragment flags rest else .whole ⟨false, true, id, flags :: rest⟩) := by
                simp [frameOf, isBinary, outbound, found]
              rw [framed]
              dsimp only
              by_cases isJson : id = jsonMessageId
              · rw [if_pos isJson, isJson, if_neg (by decide)]
                exact on_outbound_json_tracks json connection (flags :: rest) (positionOf connection) true
              · rw [if_neg isJson]
                by_cases isFragment : id = fragmentMessageId
                · rw [if_pos isFragment, if_pos isFragment]
                  exact on_outbound_fragment_tracks json connection _ flags rest
                · rw [if_neg isFragment, if_neg isFragment]
                  exact on_outbound_frame_tracks json connection message id (flags :: rest) step isJson

theorem on_inbound_tracks (connection : Connection) (message : TracedMessage) (step : InStep connection)
    (inbound : message.direction = .inbound) :
    tracksOf (onInbound json connection message.binary
        (if message.binary then message.plaintext.headD jsonMessageId else jsonMessageId) message.plaintext).1 =
      match frameOf message with
      | some frame => (tracksOf connection).take json (positionOf connection) frame
      | none => tracksOf connection := by
  cases isBinary : message.binary with
  | false =>
      have framed : frameOf message = some (.whole ⟨true, false, jsonMessageId, message.plaintext⟩) := by
        simp [frameOf, isBinary, inbound]
      rw [framed]
      exact on_inbound_json_tracks json connection false message.plaintext step
  | true =>
      cases found : message.plaintext with
      | nil =>
          have framed : frameOf message = some (.whole ⟨true, true, jsonMessageId, []⟩) := by
            simp [frameOf, isBinary, inbound, found]
          rw [framed]
          exact on_inbound_json_tracks json connection true [] step
      | cons id body =>
          have framed : frameOf message = some (.whole ⟨true, true, id, body⟩) := by
            simp [frameOf, isBinary, inbound, found]
          rw [framed, if_pos rfl, List.headD_cons]
          by_cases isJson : id = jsonMessageId
          · rw [isJson]
            exact on_inbound_json_tracks json connection true (jsonMessageId :: body) step
          · exact on_inbound_binary_tracks json connection id (id :: body) body step isJson

-- Of a traced message the recorder's connection keeps what the tracks keep.
theorem on_message_tracks (recorder : TraceRecorder) (message : TracedMessage) (id : Nat)
    (step : InStep (recorder.connections id)) :
    tracksOf ((onMessage json recorder message).connections id) =
      (tracksOf (recorder.connections id)).trace json (positionOf (recorder.connections id)) id message := by
  by_cases same : message.connectionId = id
  · subst same
    have namedStep : InStep (named message.connectionId (recorder.connections message.connectionId)) := step
    rw [WireTracks.trace, if_neg (not_not.mpr rfl)]
    cases isWritten : message.written with
    | true =>
        have traced := on_written_tracks json
          (named message.connectionId (recorder.connections message.connectionId)) message.stampUs
        simp only [onMessage, isWritten, if_true, Function.update_self]
        exact traced
    | false =>
        simp only [onMessage, isWritten, Bool.false_eq_true, if_false]
        cases isDirection : message.direction with
        | inbound =>
            have traced := on_inbound_tracks json _ message namedStep isDirection
            simp only [Function.update_self]
            exact traced
        | outbound =>
            have traced := on_outbound_tracks json _ message namedStep isDirection
            simp only [Function.update_self]
            exact traced
  · rw [on_message_other json recorder message id (Ne.symm same), WireTracks.trace, if_pos same]

end Conformance.Adapters
