import Mathlib.Algebra.Group.Int.Defs
import Mathlib.Algebra.Group.Nat.Defs
import SendspinConformance.Base.Insertion
import SendspinConformance.Protocol.TimeExchange

set_option autoImplicit false

namespace Conformance.Adapters

open Python Protocol Base

abbrev Bytes := List UInt8

-- The JSON library: whether a parse reported an error with the document it left, and
-- the text a value is written as.
structure ArduinoJson where
  deserializeJson : Bytes → Bool × Json
  serializeJson : Json → Bytes

inductive TraceDirection where
  | inbound
  | outbound
deriving DecidableEq

structure TracedMessage where
  connectionId : Nat
  written : Bool
  direction : TraceDirection
  binary : Bool
  plaintext : Bytes
  stampUs : Int
  audioBytes : Nat

structure WireEvent where
  inbound : Bool
  binary : Bool
  messageId : UInt8
  type : String

structure AvailabilityEntry where
  streamStart : Bool
  available : Option Bool
  sent : Bool
  roles : List String
deriving DecidableEq

inductive TimeKind where
  | clientTime
  | serverTime
  | otherSent
deriving DecidableEq

structure TimeEntry where
  kind : TimeKind
  json : Bytes

structure SentFrame where
  byteCount : Nat
  leadingHex : String
  payloadByteCount : Option Nat

structure FirstMetadataState where
  timestampUs : Int
  boundUs : Int

structure SentArtwork where
  channel : Nat
  bytes : Bytes

structure ConnectionRecord where
  connectionId : Nat := 0
  events : List WireEvent := []
  clientHello : Option Bytes := none
  activation : Option Bytes := none
  activeRoles : List String := []
  groupUpdates : List Bytes := []
  availabilityTrace : List AvailabilityEntry := []
  timeExchange : List TimeEntry := []
  streamPlayer : Option Bytes := none
  streamArtwork : Option Bytes := none
  preferredFormat : Option Bytes := none
  latestAvailable : Option Bool := none
  chunkTimestampsUs : List Int := []
  sentAudio : Bytes := []
  sentAudioChunkCount : Nat := 0
  sentFrames : List SentFrame := []
  streamEndWritten : Bool := false
  metadata : Option Bytes := none
  firstMetadataState : Option FirstMetadataState := none
  controllerState : Option Bytes := none
  clientCommand : Option Bytes := none
  artworkImages : List SentArtwork := []

structure Position where
  availability : Nat := 0
  timeExchange : Nat := 0
  events : Nat := 0

structure Connection where
  record : ConnectionRecord := {}
  timeConfirmed : List Bool := []
  unwrittenStreamStarts : List (List String) := []
  streamEndTraced : Bool := false
  unwrittenAudio : List Bytes := []
  unwrittenMetadata : List Bytes := []
  unwrittenController : List Bytes := []
  artworkTransfer : Option SentArtwork := none
  artworkTotalSize : Nat := 0
  unwrittenArtwork : List SentArtwork := []
  fragmentType : Option UInt8 := none
  fragmentData : Bytes := []
  fragmentPosition : Position := {}

-- A connection not yet traced reads as the empty one connections_[id] creates.
structure TraceRecorder where
  connections : Nat → Connection := fun _ => {}
  caseConnection : Option Nat := none

def jsonMessageId : UInt8 := 0
def fragmentMessageId : UInt8 := 1
def audioChunkMessageId : UInt8 := 4
def firstArtworkMessageId : UInt8 := 8
def lastArtworkMessageId : UInt8 := 11
def artworkCancelFlag : UInt8 := 0x01
def artworkAnnounceFlag : UInt8 := 0x02
def artworkAnnounceBytes : Nat := 14
def artworkTotalSizeBytes : Nat := 4
def firstFragmentFlag : UInt8 := 0x02
def lastFragmentFlag : UInt8 := 0x01
def framePrefixBytes : Nat := 13
def timestampBytes : Nat := 8

def hexPrefix (data : Bytes) : String :=
  String.ofList ((data.take framePrefixBytes).flatMap fun byte => hexDigits 2 byte.toNat)

def readBe (data : Bytes) : Nat := data.foldl (fun value byte => value * 256 + byte.toNat) 0

def readBeInt64 (data : Bytes) : Int :=
  let value := readBe (data.take timestampBytes)
  if value < 2 ^ 63 then value else (value : Int) - 2 ^ 64

-- doc[name], which is null unless the value is an object with that member.
def member (value : Json) (name : String) : Json := getKey (fieldsOf value) name

-- A C string ends at its first NUL.
def cString (text : String) : String := beforeSeparator (Char.ofNat 0) text

-- `value | ""`
def orEmpty : Json → String
  | .str text => cString text
  | _ => ""

def isInt64 : Json → Bool
  | .int value => -(2 ^ 63) ≤ value && value < 2 ^ 63
  | _ => false

def boolOf : Json → Option Bool
  | .bool value => some value
  | _ => none

def positionOf (connection : Connection) : Position where
  availability := connection.record.availabilityTrace.length
  timeExchange := connection.record.timeExchange.length
  events := connection.record.events.length

variable (json : ArduinoJson)

def messageType (text : Bytes) : String :=
  let (failed, doc) := json.deserializeJson text
  if failed then "" else orEmpty (member doc "type")

def metadataWritten (stampUs : Int) (record : ConnectionRecord) (metadata : Bytes) : ConnectionRecord :=
  let timestamp := member (json.deserializeJson metadata).2 "timestamp"
  { record with
    firstMetadataState :=
      if record.firstMetadataState.isNone && isInt64 timestamp then some ⟨intValue timestamp, stampUs⟩
      else record.firstMetadataState
    metadata := some metadata }

def sentEntry (roles : List String) : AvailabilityEntry := ⟨true, none, true, roles⟩

def sendingEntry (roles : List String) : AvailabilityEntry := ⟨true, none, false, roles⟩

def stateEntry (available : Option Bool) : AvailabilityEntry := ⟨false, available, false, []⟩

def onWritten (connection : Connection) (stampUs : Int) : Connection :=
  let record := connection.unwrittenMetadata.foldl (metadataWritten json stampUs) connection.record
  { connection with
    record := { record with
      controllerState := connection.unwrittenController.getLast?.orElse fun _ => record.controllerState
      artworkImages := record.artworkImages ++ connection.unwrittenArtwork
      sentAudio := record.sentAudio ++ connection.unwrittenAudio.flatten
      sentAudioChunkCount := record.sentAudioChunkCount + connection.unwrittenAudio.length
      availabilityTrace := record.availabilityTrace ++ connection.unwrittenStreamStarts.map sentEntry
      streamEndWritten := record.streamEndWritten || connection.streamEndTraced }
    timeConfirmed := connection.timeConfirmed.map fun _ => true
    unwrittenMetadata := []
    unwrittenController := []
    unwrittenArtwork := []
    unwrittenAudio := []
    unwrittenStreamStarts := [] }

def addEvent (connection : Connection) (event : WireEvent) : Connection :=
  { connection with record := { connection.record with events := connection.record.events ++ [event] } }

def insertEvent (connection : Connection) (place : Nat) (event : WireEvent) : Connection :=
  { connection with record := { connection.record with events := insertAt place event connection.record.events } }

def onClientHello (connection : Connection) (text : Bytes) : Connection :=
  { connection with record := { connection.record with clientHello := some text } }

def onClientState (connection : Connection) (doc : Json) : Connection :=
  let record := connection.record
  let value := boolOf (member (member doc "payload") "available")
  let format := member (member (member doc "payload") "player") "format"
  { connection with
    record := { record with
      availabilityTrace := record.availabilityTrace ++ [stateEntry value]
      latestAvailable := value
      preferredFormat := if format.isObj then some (json.serializeJson format) else record.preferredFormat } }

def onClientTime (connection : Connection) (text : Bytes) : Connection :=
  { connection with
    record := { connection.record with timeExchange := connection.record.timeExchange ++ [⟨.clientTime, text⟩] }
    timeConfirmed := connection.timeConfirmed ++ [true] }

def onClientCommand (connection : Connection) (doc : Json) : Connection :=
  let record := connection.record
  let controller := member (member doc "payload") "controller"
  if record.clientCommand.isNone && controller.isObj then
    { connection with record := { record with clientCommand := some (json.serializeJson controller) } }
  else connection

def jsonBody (binary : Bool) (plaintext : Bytes) : Bytes := if binary then plaintext.drop 1 else plaintext

-- The connection after an inbound message, and whether it becomes the case connection.
def onInbound (connection : Connection) (binary : Bool) (messageId : UInt8) (plaintext : Bytes) : Connection × Bool :=
  if binary && messageId != jsonMessageId then (addEvent connection ⟨true, binary, messageId, ""⟩, false)
  else
    let text := jsonBody binary plaintext
    let doc := (json.deserializeJson text).2
    let type := messageType json text
    let seen := addEvent connection ⟨true, binary, messageId, type⟩
    if type == "client/hello" then (onClientHello seen text, true)
    else if type == "client/state" then (onClientState json seen doc, false)
    else if type == "client/time" then (onClientTime seen text, false)
    else if type == "client/command" then (onClientCommand json seen doc, false)
    else (seen, false)

def onServerActivate (connection : Connection) (text : Bytes) (doc : Json) : Connection :=
  let record := connection.record
  { connection with
    record := { record with
      activation := record.activation.orElse fun _ => some text
      activeRoles :=
        match member (member doc "payload") "active_roles" with
        | .arr roles => roles.map orEmpty
        | _ => record.activeRoles } }

def startedRoles (doc : Json) : List String :=
  sorted (((fieldsOf (member doc "payload")).filter fun role => role.2.isObj).map fun role => cString role.1)

def onStreamStart (connection : Connection) (doc : Json) (position : Position) : Connection :=
  let record := connection.record
  let roles := startedRoles doc
  let player := member (member doc "payload") "player"
  let artwork := member (member doc "payload") "artwork"
  { connection with
    record := { record with
      availabilityTrace := insertAt position.availability (sendingEntry roles) record.availabilityTrace
      streamPlayer := if player.isObj then some (json.serializeJson player) else record.streamPlayer
      streamArtwork := if artwork.isObj then some (json.serializeJson artwork) else record.streamArtwork }
    unwrittenStreamStarts := connection.unwrittenStreamStarts ++ [roles] }

def onServerState (connection : Connection) (doc : Json) : Connection :=
  let metadata := member (member doc "payload") "metadata"
  let controller := member (member doc "payload") "controller"
  { connection with
    unwrittenMetadata :=
      if metadata.isObj then connection.unwrittenMetadata ++ [json.serializeJson metadata]
      else connection.unwrittenMetadata
    unwrittenController :=
      if controller.isObj then connection.unwrittenController ++ [json.serializeJson controller]
      else connection.unwrittenController }

def onGroupUpdate (connection : Connection) (text : Bytes) : Connection :=
  let record := connection.record
  if record.activation.isSome then
    { connection with record := { record with groupUpdates := record.groupUpdates ++ [text] } }
  else connection

-- Placed where the send began, and reported once a write completion confirms it.
def insertTime (connection : Connection) (place : Nat) (entry : TimeEntry) : Connection :=
  { connection with
    record := { connection.record with timeExchange := insertAt place entry connection.record.timeExchange }
    timeConfirmed := insertAt place false connection.timeConfirmed }

def onOutboundJson (connection : Connection) (text : Bytes) (position : Position) (binary : Bool) : Connection :=
  let doc := (json.deserializeJson text).2
  let type := messageType json text
  let seen := insertEvent connection position.events ⟨false, binary, jsonMessageId, type⟩
  let traced :=
    insertTime seen position.timeExchange (if type == "server/time" then ⟨.serverTime, text⟩ else ⟨.otherSent, []⟩)
  if type == "server/activate" then onServerActivate traced text doc
  else if type == "group/update" then onGroupUpdate traced text
  else if type == "stream/start" then onStreamStart json traced doc position
  else if type == "stream/end" then { traced with streamEndTraced := true }
  else if type == "server/state" then onServerState json traced doc
  else traced

def transferWritten (connection : Connection) (transfer : SentArtwork) (totalSize : Nat) : Connection :=
  if transfer.bytes.length ≥ totalSize then
    { connection with
      unwrittenArtwork := connection.unwrittenArtwork ++ [transfer]
      artworkTransfer := none
      artworkTotalSize := totalSize }
  else { connection with artworkTransfer := some transfer, artworkTotalSize := totalSize }

def onOutboundArtwork (connection : Connection) (plaintext : Bytes) : Connection :=
  match plaintext with
  | id :: flags :: data =>
      let channel := id.toNat - firstArtworkMessageId.toNat
      if flags &&& artworkCancelFlag ≠ 0 then
        if connection.artworkTransfer.any fun transfer => transfer.channel == channel then
          { connection with artworkTransfer := none }
        else connection
      else if flags &&& artworkAnnounceFlag ≠ 0 then
        if plaintext.length ≠ artworkAnnounceBytes then connection
        else
          transferWritten connection ⟨channel, []⟩ (readBe ((data.drop timestampBytes).take artworkTotalSizeBytes))
      else
        match connection.artworkTransfer with
        | some transfer =>
            if transfer.channel == channel then
              transferWritten connection ⟨channel, transfer.bytes ++ data⟩ connection.artworkTotalSize
            else connection
        | none => connection
  | _ => connection

def addSentFrame (connection : Connection) (plaintext : Bytes) (payloadByteCount : Option Nat) : Connection :=
  let frame : SentFrame := ⟨plaintext.length, hexPrefix plaintext, payloadByteCount⟩
  { connection with record := { connection.record with sentFrames := connection.record.sentFrames ++ [frame] } }

def addChunkTimestamp (connection : Connection) (data : Bytes) : Connection :=
  { connection with
    record := { connection.record with chunkTimestampsUs := connection.record.chunkTimestampsUs ++ [readBeInt64 data] } }

def addUnwrittenAudio (connection : Connection) (audio : Bytes) : Connection :=
  { connection with unwrittenAudio := connection.unwrittenAudio ++ [audio] }

-- `rest` is a fragment frame after its ID and flags.
def gatherFragment (connection : Connection) (flags : UInt8) (rest : Bytes) : Connection :=
  match rest with
  | type :: data =>
      if flags &&& firstFragmentFlag ≠ 0 then
        { connection with fragmentType := some type, fragmentData := data, fragmentPosition := positionOf connection }
      else { connection with fragmentData := connection.fragmentData ++ rest }
  | [] => connection

def onFragmentedBinary (connection : Connection) (messageId : UInt8) (data : Bytes) : Connection :=
  let seen := insertEvent connection connection.fragmentPosition.events ⟨false, true, messageId, ""⟩
  let stamped :=
    if messageId = audioChunkMessageId && data.length ≥ timestampBytes then addChunkTimestamp seen data else seen
  if messageId = audioChunkMessageId && data.length ≥ framePrefixBytes - 1 then
    addUnwrittenAudio stamped (data.drop (framePrefixBytes - 1))
  else stamped

def onOutboundFragment (connection : Connection) (plaintext : Bytes) (flags : UInt8) (rest : Bytes) : Connection :=
  let gathered := gatherFragment connection flags rest
  let framed :=
    if gathered.fragmentType ≠ some jsonMessageId then addSentFrame gathered plaintext none else gathered
  match gathered.fragmentType with
  | none => framed
  | some messageId =>
      if flags &&& lastFragmentFlag = 0 then framed
      else
        let finished := { framed with fragmentType := none, fragmentData := [] }
        if messageId = jsonMessageId then
          onOutboundJson json finished framed.fragmentData finished.fragmentPosition true
        else onFragmentedBinary finished messageId framed.fragmentData

-- A binary frame that is neither a JSON body nor a fragment.
def onOutboundFrame (connection : Connection) (message : TracedMessage) (id : UInt8) : Connection :=
  let plaintext := message.plaintext
  let seen := addEvent connection ⟨false, true, id, ""⟩
  let transferred :=
    if firstArtworkMessageId ≤ id && id ≤ lastArtworkMessageId then onOutboundArtwork seen plaintext else seen
  let framed := addSentFrame transferred plaintext (if id = audioChunkMessageId then some message.audioBytes else none)
  let stamped :=
    if id = audioChunkMessageId && plaintext.length ≥ 1 + timestampBytes then
      addChunkTimestamp framed (plaintext.drop 1)
    else framed
  if id = audioChunkMessageId && plaintext.length ≥ framePrefixBytes &&
      plaintext.length - framePrefixBytes = message.audioBytes then
    addUnwrittenAudio stamped (plaintext.drop framePrefixBytes)
  else stamped

def onOutbound (connection : Connection) (message : TracedMessage) : Connection :=
  if !message.binary then onOutboundJson json connection message.plaintext (positionOf connection) false
  else
    match message.plaintext with
    | [] => connection
    | id :: body =>
        if id = jsonMessageId then onOutboundJson json connection body (positionOf connection) true
        else
          match body with
          | flags :: rest =>
              if id = fragmentMessageId then onOutboundFragment json connection message.plaintext flags rest
              else onOutboundFrame connection message id
          | [] => onOutboundFrame connection message id

def onMessage (recorder : TraceRecorder) (message : TracedMessage) : TraceRecorder :=
  let id := message.connectionId
  let found := recorder.connections id
  let connection := { found with record := { found.record with connectionId := id } }
  let stored := fun (changed : Connection) => Function.update recorder.connections id changed
  if message.written then { recorder with connections := stored (onWritten json connection message.stampUs) }
  else
    match message.direction with
    | .inbound =>
        let messageId := if message.binary then message.plaintext.headD jsonMessageId else jsonMessageId
        let (changed, isCase) := onInbound json connection message.binary messageId message.plaintext
        ⟨stored changed, if isCase then some id else recorder.caseConnection⟩
    | .outbound => { recorder with connections := stored (onOutbound json connection message) }

def confirmed (connection : Connection) : List TimeEntry :=
  ((connection.record.timeExchange.zip connection.timeConfirmed).filter fun entry => entry.2).map Prod.fst

-- An other-sent is left out when it would come first or follow another.
def merged : List TimeEntry → List TimeEntry → List TimeEntry
  | kept, [] => kept
  | kept, entry :: rest =>
      if entry.kind == .otherSent && (kept.getLast?.all fun last => last.kind == .otherSent) then merged kept rest
      else merged (kept ++ [entry]) rest

def snapshot (recorder : TraceRecorder) : Option ConnectionRecord :=
  recorder.caseConnection.map fun id =>
    let connection := recorder.connections id
    { connection.record with timeExchange := merged [] (confirmed connection) }

def parseJson (text : Option Bytes) : Json :=
  match text with
  | none => .null
  | some bytes => if (json.deserializeJson bytes).1 then .null else (json.deserializeJson bytes).2

def availabilityItem (entry : AvailabilityEntry) : Json :=
  if entry.streamStart then
    .obj [("type", .str "stream/start"), ("phase", .str (if entry.sent then "sent" else "sending")),
      ("roles", .arr (entry.roles.map .str))]
  else
    .obj [("type", .str "client/state"),
      ("available", match entry.available with | some value => .bool value | none => .null)]

def timeItem (entry : TimeEntry) : Json :=
  if entry.kind = .otherSent then .obj [("type", .str "other-sent")] else parseJson json (some entry.json)

def addConnectionEvidence (record : Option ConnectionRecord) : Fields :=
  match record with
  | none => [("peer_hello", .null)]
  | some record =>
      [("peer_hello", parseJson json record.clientHello), ("activation", parseJson json record.activation),
        ("group_updates", .arr (record.groupUpdates.map fun text => parseJson json (some text))),
        ("availability_trace", .arr (record.availabilityTrace.map availabilityItem)),
        ("time_exchange", .arr (record.timeExchange.map (timeItem json)))]

end Conformance.Adapters
