import SendspinConformance.Audio.Pcm
import SendspinConformance.Python.Text

set_option autoImplicit false

namespace Conformance.Adapters

open Python Audio

-- stream/start's player object
structure StreamPlayer where
  codec : String
  bitDepth : Nat
deriving DecidableEq, Repr

-- What a client loop has hashed and counted.
structure Tally where
  received : FloatPcmHasher := {}
  encoded : Bytes := []
  audioChunkCount : Nat := 0
deriving DecidableEq, Repr

-- The audio section of a summary, a digest standing as the bytes it is of.
structure AudioReport where
  audioChunkCount : Nat
  receivedEncodedSha256 : Bytes
  receivedPcmSha256 : Option Bytes
  receivedSampleCount : Nat
deriving DecidableEq, Repr

def Tally.report (tally : Tally) : AudioReport :=
  ⟨tally.audioChunkCount, tally.encoded, if tally.received.sampleCount = 0 then none else some tally.received.stream,
    tally.received.sampleCount⟩

def Tally.add (tally : Tally) (chunk : Bytes) (received : FloatPcmHasher) : Tally :=
  ⟨received, tally.encoded ++ chunk, tally.audioChunkCount + 1⟩

-- A select loop over the order in which it serves its arms: a turn fails, leaves the
-- loop, or goes on. There is no outcome while the loop still runs.
def selectLoop {σ arm : Type} (serve : σ → arm → Except String (Option σ)) :
    List arm → σ → Option (Except String σ)
  | [], _ => none
  | served :: rest, state =>
      match serve state served with
      | .error reason => some (.error reason)
      | .ok none => some (.ok state)
      | .ok (some next) => selectLoop serve rest next

namespace Rust

-- The SDK's two channels of run_outbound_protocol_client.
inductive Channel where
  | messages
  | audio
deriving DecidableEq, Repr

-- The channels hold stream/start and the chunks; an emptied channel is closed.
structure LoopState where
  startReady : Bool
  audioReady : List Bytes
  currentStream : Option StreamPlayer := none
  pendingAudio : List Bytes := []
  tally : Tally := {}

def hashChunk (stream : StreamPlayer) (tally : Tally) (chunk : Bytes) : Except String Tally :=
  (Audio.Rust.updateFromPcmBytes tally.received chunk stream.bitDepth).map (tally.add chunk)

def serve (player : StreamPlayer) (state : LoopState) : Channel → Except String (Option LoopState)
  | .messages =>
      if state.startReady then
        if player.codec != "pcm" then .error ("Unsupported codec for current scenario: " ++ player.codec)
        else (state.pendingAudio.foldlM (hashChunk player) state.tally).map fun tally =>
          some { state with startReady := false, currentStream := some player, pendingAudio := [], tally := tally }
      else .ok none
  | .audio =>
      match state.audioReady, state.currentStream with
      | [], _ => .ok none
      | chunk :: rest, none =>
          .ok (some { state with audioReady := rest, pendingAudio := state.pendingAudio ++ [chunk] })
      | chunk :: rest, some stream =>
          if stream.codec != "pcm" then .error ("Unsupported codec for current scenario: " ++ stream.codec)
          else (hashChunk stream state.tally chunk).map fun tally =>
            some { state with audioReady := rest, tally := tally }

def summary (state : LoopState) : Except String AudioReport :=
  if state.tally.audioChunkCount = 0 then .error "Connection closed before any audio chunks were received"
  else .ok state.tally.report

def runOutboundProtocolClient (player : StreamPlayer) (chunks : List Bytes) (order : List Channel) :
    Option (Except String AudioReport) :=
  (selectLoop (serve player) order ⟨true, chunks, none, [], {}⟩).map fun ended => ended.bind summary

end Rust

namespace Go

-- The arms of the two client loops that this run reaches.
inductive Arm where
  | streamStart
  | audioChunks
  | done
deriving DecidableEq, Repr

structure LoopState where
  startReady : Bool
  audioReady : List Bytes
  currentPlayer : Option StreamPlayer := none
  tally : Tally := {}

-- strings.EqualFold with a word that has no k and no s
def equalFold (text word : String) : Bool := text.toLower == word.toLower

def quoteChar [UnicodeData] (char : Char) : List Char :=
  let named : Option Char := [(7, 'a'), (8, 'b'), (9, 't'), (10, 'n'), (11, 'v'), (12, 'f'), (13, 'r')].lookup char.toNat
  if char == '"' || char == '\\' then ['\\', char]
  else if isPrintable char then [char]
  else
    match named with
    | some letter => ['\\', letter]
    | none =>
        if isAscii char then ['\\', 'x'] ++ hexDigits 2 char.toNat
        else if char.toNat < 0x10000 then ['\\', 'u'] ++ hexDigits 4 char.toNat
        else ['\\', 'U'] ++ hexDigits 8 char.toNat

-- the %q of fmt.Sprintf
def quoted [UnicodeData] (text : String) : String :=
  String.ofList (['"'] ++ text.toList.flatMap quoteChar ++ ['"'])

def hashChunk [UnicodeData] (player : Option StreamPlayer) (tally : Tally) (chunk : Bytes) : Except String Tally :=
  match player with
  | none => .error "received audio before stream/start"
  | some stream =>
      if equalFold stream.codec "pcm" then
        (Audio.Go.updateFromPCMBytes tally.received chunk stream.bitDepth).map (tally.add chunk)
      else if equalFold stream.codec "flac" then .ok (tally.add chunk tally.received)
      else .error ("unsupported audio codec " ++ quoted stream.codec)

def summary (state : LoopState) : Except String AudioReport :=
  if state.tally.audioChunkCount = 0 then .error "client received zero audio chunks"
  else .ok state.tally.report

-- The arms of runConnectedSession: a closed channel leaves the loop.
def serveConnected [UnicodeData] (player : StreamPlayer) (state : LoopState) : Arm → Except String (Option LoopState)
  | .streamStart =>
      if state.startReady then .ok (some { state with startReady := false, currentPlayer := some player })
      else .ok none
  | .audioChunks =>
      match state.audioReady with
      | [] => .ok none
      | chunk :: rest => (hashChunk state.currentPlayer state.tally chunk).map fun tally =>
          some { state with audioReady := rest, tally := tally }
  | .done => .ok none

-- The arms of runOutboundProtocolClient, which take a closed channel's zero value for a
-- message. A nil one, where the SDK's channel carries pointers, stops the program.
def serveOutbound [UnicodeData] (pointers : Arm → Bool) (player : StreamPlayer) (state : LoopState) :
    Arm → Except String (Option LoopState)
  | .streamStart =>
      if state.startReady then .ok (some { state with startReady := false, currentPlayer := some player })
      else if pointers .streamStart then .error "invalid memory address or nil pointer dereference"
      else .ok (some { state with currentPlayer := none })
  | .audioChunks =>
      match state.audioReady with
      | [] =>
          match state.currentPlayer with
          | none => .error "received audio before stream/start"
          | some stream =>
              if pointers .audioChunks then .error "invalid memory address or nil pointer dereference"
              else (hashChunk (some stream) state.tally []).map fun tally => some { state with tally := tally }
      | chunk :: rest => (hashChunk state.currentPlayer state.tally chunk).map fun tally =>
          some { state with audioReady := rest, tally := tally }
  | .done => .ok none

def runConnectedSession [UnicodeData] (player : StreamPlayer) (chunks : List Bytes) (order : List Arm) :
    Option (Except String AudioReport) :=
  (selectLoop (serveConnected player) order ⟨true, chunks, none, {}⟩).map fun ended => ended.bind summary

def runOutboundProtocolClient [UnicodeData] (pointers : Arm → Bool) (player : StreamPlayer) (chunks : List Bytes)
    (order : List Arm) : Option (Except String AudioReport) :=
  (selectLoop (serveOutbound pointers player) order ⟨true, chunks, none, {}⟩).map fun ended => ended.bind summary

end Go

end Conformance.Adapters
