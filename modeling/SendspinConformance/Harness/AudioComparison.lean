import SendspinConformance.Harness.SummaryFields
import SendspinConformance.Python.Codecs

set_option autoImplicit false

namespace Conformance.Comparison

open Python Harness

section

variable [UnicodeData]

-- _sample_count_detail
def sampleCountDetail (serverAudio clientAudio : Json) : Py String := do
  let frameCount ← getField serverAudio "frame_count"
  let channels ← getField serverAudio "channels"
  let received ← getField clientAudio "received_sample_count"
  match frameCount.asInt, channels.asInt, received.asInt with
  | some frameCount, some channels, some received =>
      let sent := frameCount * channels
      if received = sent then .ok ("sample counts equal (" ++ toString sent ++ "), content differs; ")
      else
        .ok ("client received " ++ toString received ++ " of " ++ toString sent ++ " samples (" ++
          toString (sent - received).natAbs ++ (if received < sent then " fewer" else " more") ++ "); ")
  | _, _, _ => .ok ""

-- _compare_audio_summaries, of two sections
def audioSections (serverAudio clientAudio : Fields) : Py (Bool × String) := do
  let sourceHash ← item serverAudio "source_pcm_sha256"
  let receivedHash ← item clientAudio "received_pcm_sha256"
  if !(← item clientAudio "audio_chunk_count").truthy then .ok (false, "Client summary shows zero audio chunks")
  else if pyEqual sourceHash receivedHash then .ok (true, "PCM hashes match exactly")
  else
    .ok (false, "PCM hash mismatch: " ++ (← sampleCountDetail (.obj serverAudio) (.obj clientAudio)) ++ "server=" ++
      pyStr sourceHash ++ " client=" ++ pyStr receivedHash)

def compareAudioSummaries (serverSummary clientSummary : Fields) : Py (Bool × String) :=
  afterStatuses serverSummary clientSummary <|
    match getKey serverSummary "audio", getKey clientSummary "audio" with
    | .obj serverAudio, .obj clientAudio => audioSections serverAudio clientAudio
    | .obj _, _ => .ok (false, "Client summary is missing an 'audio' section")
    | _, _ => .ok (false, "Server summary is missing an 'audio' section")

-- _stream_codec
def streamCodec (summary : Fields) : Option String :=
  match getKey summary "stream" with
  | .obj stream => if (getKey stream "codec").isNull then none else some (pyStr (getKey stream "codec"))
  | _ => none

def losslessCodecs : List String := ["flac"]

-- What _decoded_audio_verdict finds: nothing, why it could not judge, or why the audio is not the source clip.
inductive DecodedAudio where
  | matched
  | unjudged (reason : String)
  | violation (reason : String)
deriving DecidableEq, Repr

-- The text of a value that is one, and not empty
def someText : Json → Option String
  | .str text => if text.isEmpty then none else some text
  | _ => none

def convertedField (serverAudio stream : Json) (field : String) : Py (Option String) := do
  let source ← getField serverAudio field
  let sent ← getField stream field
  .ok (if pyEqual sent source then none else some (field ++ " " ++ pyStr source ++ " -> " ++ pyStr sent))

-- _decoded_audio_verdict
def decodedAudioVerdict (serverSummary clientSummary : Fields) (expectedCodec : String) : Py DecodedAudio :=
  if !losslessCodecs.contains expectedCodec then
    .ok (.unjudged (upper expectedCodec ++ " is lossy, so its decoded audio cannot equal the source"))
  else do
    let serverAudio := sectionOf serverSummary "audio"
    let clientAudio := sectionOf clientSummary "audio"
    let received := someText (← getField clientAudio "received_pcm_sha256")
    let silent := (← getField clientAudio "received_sample_count").eqInt 0
    match received with
    | none => .ok (.unjudged "the client reported no decoded audio")
    | some receivedHash =>
        if silent then .ok (.unjudged "the client reported no decoded audio")
        else
          match someText (← getField serverAudio "source_pcm_sha256") with
          | none => .ok (.violation "Server summary is missing the source PCM hash")
          | some sourceHash =>
              let stream := if (getKey serverSummary "stream").truthy then getKey serverSummary "stream" else .obj []
              let converted := (← ["sample_rate", "channels"].mapM (convertedField serverAudio stream)).filterMap id
              if !converted.isEmpty then
                .ok (.unjudged ("the stream was not negotiated at the source clip's format " ++
                  "(" ++ joinWith ", " converted ++ ")"))
              else if receivedHash = sourceHash then .ok .matched
              else
                .ok (.violation (upper expectedCodec ++ " decoded audio does not match the source clip: " ++
                  (← sampleCountDetail serverAudio clientAudio) ++ "source=" ++ sourceHash ++ " client=" ++ receivedHash))

variable [Digests]

-- The value of a letter of standard base64
def base64Value (char : Char) : Option Nat :=
  (base64Alphabet.take 62 ++ ['+', '/']).idxOf? char

-- The loop of binascii.a2b_base64: the bytes read so far, those of an unfinished group, and the padding after them.
def decodeBase64 : List Nat → Nat → List Char → Option (List UInt8)
  | group, _, [] => if group.isEmpty then some [] else none
  | group, pads, char :: rest =>
      if char = '=' then
        if 2 ≤ group.length ∧ 4 ≤ group.length + pads + 1 then some [] else decodeBase64 group (pads + 1) rest
      else
        match base64Value char with
        | none => decodeBase64 group pads rest
        | some value =>
            let last := group.getLast?.getD 0
            let next := if group.length = 3 then [] else group ++ [value]
            let byte := match group.length with
              | 1 => [UInt8.ofNat (last * 4 + value / 16)]
              | 2 => [UInt8.ofNat (last * 16 + value / 4)]
              | 3 => [UInt8.ofNat (last * 64 + value)]
              | _ => []
            (decodeBase64 next 0 rest).map (byte ++ ·)

-- base64.b64decode(text), none where it raises
def b64decode (text : String) : Option (List UInt8) :=
  if text.toList.all isAscii then decodeBase64 [] 0 text.toList else none

-- _stream_codec_header_sha256
def streamCodecHeaderSha256 (summary : Fields) : Option String :=
  match getKey summary "stream" with
  | .obj stream =>
      match someText (getKey stream "codec_header_sha256") with
      | some digest => some digest
      | none => do some (Digests.sha256 (← b64decode (← someText (getKey stream "codec_header"))))
  | _ => none

def serverHeaderHash (serverSummary : Fields) (serverAudio : Json) : Py (Option String) := do
  match ← getField serverAudio "sent_codec_header_sha256" with
  | .str digest => .ok (some digest)
  | _ => .ok (streamCodecHeaderSha256 serverSummary)

-- What is said of the audio once the transport has been found to match.
def transportedVerdict (codecLabel transported : String) : DecodedAudio → Bool × String
  | .violation reason => (false, reason)
  | .unjudged reason => (true, codecLabel ++ " " ++ transported ++ " match exactly; " ++
      "decoded audio not judged against the source clip: " ++ reason)
  | .matched => (true, codecLabel ++ " " ++ transported ++ " match exactly and the decoded audio matches the source clip")

-- The header hashes, of which an empty one is as good as none
def headersVerdict (serverSummary clientSummary : Fields) (expectedCodec : String) : Py (Bool × String) := do
  let codecLabel := upper expectedCodec
  let server ← serverHeaderHash serverSummary (sectionOf serverSummary "audio")
  let client := streamCodecHeaderSha256 clientSummary
  match server.filter (!·.isEmpty), client.filter (!·.isEmpty) with
  | some server, some client =>
      if server ≠ client then
        .ok (false, codecLabel ++ " codec header mismatch: server=" ++ server ++ " client=" ++ client)
      else
        .ok (transportedVerdict codecLabel "header and chunk bytes"
          (← decodedAudioVerdict serverSummary clientSummary expectedCodec))
  | _, _ =>
      .ok (transportedVerdict codecLabel "chunk bytes" (← decodedAudioVerdict serverSummary clientSummary expectedCodec))

-- The chunk counts and hashes
def chunksVerdict (serverSummary clientSummary : Fields) (expectedCodec : String) : Py (Bool × String) := do
  let codecLabel := upper expectedCodec
  let serverAudio := sectionOf serverSummary "audio"
  let clientAudio := sectionOf clientSummary "audio"
  let sentChunkCount ← countIn (← getField serverAudio "sent_audio_chunk_count")
  let receivedChunkCount ← countIn (← getField clientAudio "audio_chunk_count")
  if sentChunkCount ≤ 0 then .ok (false, "Server summary shows zero " ++ codecLabel ++ " audio chunks sent")
  else if receivedChunkCount ≤ 0 then .ok (false, "Client summary shows zero " ++ codecLabel ++ " audio chunks received")
  else do
    let sent := someText (← getField serverAudio "sent_encoded_sha256")
    let received := someText (← getField clientAudio "received_encoded_sha256")
    match sent, received with
    | none, _ => .ok (false, "Server summary is missing sent " ++ codecLabel ++ " chunk hash")
    | some _, none => .ok (false, "Client summary is missing received " ++ codecLabel ++ " chunk hash")
    | some sentHash, some receivedHash =>
        if sentHash ≠ receivedHash then
          .ok (false, codecLabel ++ " chunk hash mismatch: " ++ "server=" ++ sentHash ++ " client=" ++ receivedHash)
        else headersVerdict serverSummary clientSummary expectedCodec

def codecRepr (codec : Option String) : String := (codec.map Python.reprStr).getD "None"

def compareEncodedAudioSummaries (serverSummary clientSummary : Fields) (expectedCodec : String) :
    Py (Bool × String) :=
  afterStatuses serverSummary clientSummary <|
    let serverCodec := streamCodec serverSummary
    let clientCodec := streamCodec clientSummary
    if serverCodec ≠ some expectedCodec then
      .ok (false, "Server did not negotiate " ++ upper expectedCodec ++ " transport (codec=" ++
        codecRepr serverCodec ++ ")")
    else if clientCodec.isSome ∧ clientCodec ≠ some expectedCodec then
      .ok (false, "Client did not observe " ++ upper expectedCodec ++ " transport (codec=" ++
        codecRepr clientCodec ++ ")")
    else chunksVerdict serverSummary clientSummary expectedCodec

end

end Conformance.Comparison
