import SendspinConformance.Harness.ChunkFraming
import SendspinConformance.Harness.DeclaredFormats

set_option autoImplicit false

namespace Conformance.Harness

open Base Python

def divisionOverflow : PyError := ⟨"OverflowError", "integer division result too large for a float"⟩

-- number / divisor, the nearest float
def trueDivide (number divisor : Int) : Py Rat :=
  if divisor = 0 then .error ⟨"ZeroDivisionError", "division by zero"⟩
  else
    let quotient := roundTo .binary64 ((number : Rat) / divisor)
    if 2 ^ 1024 ≤ |quotient| then .error divisionOverflow else .ok quotient

-- min(values) and max(values)
def minOf {α : Type} [Min α] : List α → Py α
  | [] => .error ⟨"ValueError", "min() iterable argument is empty"⟩
  | first :: rest => .ok (rest.foldl min first)

def maxOf {α : Type} [Max α] : List α → Py α
  | [] => .error ⟨"ValueError", "max() iterable argument is empty"⟩
  | first :: rest => .ok (rest.foldl max first)

-- chunk_framing

def audioChunkType : UInt8 := 4
def maxChunkUs : Rat := 150000
def minChunkUs : Rat := 15000

-- frame.leading[0]
def firstByte (frame : Frame) : Py UInt8 :=
  match frame.leading with
  | byte :: _ => .ok byte
  | [] => .error ⟨"IndexError", "index out of range"⟩

def typeText (type : UInt8) (index total : Nat) : String :=
  "Server sent binary message type " ++ toString type.toNat ++ " as frame " ++ toString index ++ " of " ++
    toString total ++ " in a player-only stream; roles/player/v1.md fixes an audio chunk at type " ++
    toString audioChunkType.toNat

-- The first frame, counted from the index, that is no audio chunk.
def typeViolation (total : Nat) : Nat → List Frame → Py (Option String)
  | _, [] => .ok none
  | index, frame :: rest => do
      let type ← firstByte frame
      if type != audioChunkType then .ok (some (typeText type index total))
      else typeViolation total (index + 1) rest

-- A server that framed the stream this way on purpose says why.
def statedViolation (serverAudio : Fields) (violation : String) : String :=
  match getKey serverAudio "legacy_header_reason" with
  | .str stated =>
      if stated ≠ "" && !hasPrefix harnessGap violation then
        violation ++ "; server adapter reported: " ++ stated
      else violation
  | _ => violation

-- f"{number:.1f}"
def oneDecimal (number : Rat) : String :=
  let tenths := (nearestEven (number * 10)).toNat
  toString (tenths / 10) ++ "." ++ toString (tenths % 10)

-- f"{duration_us / 1_000:.1f}"
def milliseconds (durationUs : Rat) : String := oneDecimal (roundTo .binary64 (durationUs / 1000))

def longText (index total : Nat) (durationUs : Rat) : String :=
  "Server sent audio chunk " ++ toString index ++ " of " ++ toString total ++ " lasting " ++
    milliseconds durationUs ++ " ms; roles/player/v1.md says a server MUST NOT send a chunk longer than 150 ms"

def shortText (index total : Nat) (durationUs : Rat) : String :=
  "Server sent audio chunk " ++ toString index ++ " of " ++ toString total ++ " lasting " ++
    milliseconds durationUs ++ " ms; roles/player/v1.md says a server SHOULD NOT send a chunk shorter than 15 ms " ++
    "unless it ends the stream"

-- The first chunk, counted from the index, that is too long or, not the last, too short.
def durationViolation (total : Nat) : Nat → List Rat → Option String
  | _, [] => none
  | index, durationUs :: rest =>
      if maxChunkUs < durationUs then some (longText index total durationUs)
      else if durationUs < minChunkUs ∧ index ≠ total then some (shortText index total durationUs)
      else durationViolation total (index + 1) rest

def bytesPerSecond (stream : AudioFormat) : Int :=
  if 0 < stream.bitDepth ∧ stream.bitDepth % 8 = 0 then
    stream.sampleRate * stream.channels * (stream.bitDepth / 8)
  else 0

section durations

variable [UnicodeData] [CaseFolding]

def noStreamText (stream : Json) : String :=
  harnessGap ++ "the server adapter reported no usable stream format, so chunk durations cannot be read from the " ++
    "audio each frame carried (stream=" ++ pyRepr stream ++ ")"

def codecText (codec : String) : String :=
  "Server negotiated " ++ codec ++ " where the client listed only PCM, so chunk durations cannot be read from the " ++
    "audio each frame carried"

def unattributedText : String :=
  harnessGap ++ "the server adapter does not say whether it or the implementation cut the audio into chunks, so " ++
    "their durations cannot be attributed"

def unjudgedText : String := "chunk durations not judged, the server adapter having cut the chunks itself"

-- The durations of the chunks of a stream with a positive byte rate.
def implementationVerdict (bytesPerSecond : Int) (sent : List Frame) : Py (Bool × String) := do
  let durationsUs ← sent.mapM fun frame => trueDivide ((frame.payloadByteCount.getD 0 : Nat) * 1000000) bytesPerSecond
  match durationViolation sent.length 1 durationsUs with
  | some violation => .ok (false, violation)
  | none => do
      let shortest ← minOf durationsUs
      let longest ← maxOf durationsUs
      .ok (true, "each lasted " ++ milliseconds shortest ++ "-" ++ milliseconds longest ++ " ms")

-- _chunk_durations_verdict
def chunkDurationsVerdict (serverSummary serverAudio : Fields) (sent : List Frame) : Py (Bool × String) :=
  let chunkedBy := getKey serverAudio "chunked_by"
  if chunkedBy.eqStr "adapter" then .ok (true, unjudgedText)
  else if !chunkedBy.eqStr "implementation" then .ok (false, unattributedText)
  else
    match normalizedFormat (getKey serverSummary "stream") with
    | none => .ok (false, noStreamText (getKey serverSummary "stream"))
    | some stream =>
        if bytesPerSecond stream ≤ 0 then .ok (false, noStreamText (getKey serverSummary "stream"))
        else if stream.codec ≠ "pcm" then .ok (false, codecText stream.codec)
        else implementationVerdict (bytesPerSecond stream) sent

end durations

-- _unobserved_client_verdict
def unobservedClientVerdict (clientAudio : Fields) (sent : List Frame) : String :=
  let sentAudio := (sent.map fun frame => frame.payloadByteCount.getD 0).sum
  let unobserved := harnessGap ++ "the client adapter does not observe raw audio chunk frames, so the header the " ++
    "client read off each one cannot be judged; the server sent " ++ toString requiredHeaderBytes ++
    " bytes on every chunk"
  match countOf (getKey clientAudio "received_encoded_byte_count") with
  | some delivered =>
      if delivered ≠ sentAudio then
        "Client delivered " ++ toString delivered ++ " bytes of audio from " ++ toString sent.length ++
          " chunks that carried " ++ toString sentAudio ++ " behind a " ++ toString requiredHeaderBytes ++
          "-byte header each, so it did not read " ++ toString requiredHeaderBytes ++ " bytes off every one"
      else unobserved
  | none => unobserved

-- The first frame, counted from the index, that the adapters disagree about.
def disagreement (total : Nat) : Nat → List Frame → List Frame → Option String
  | index, ours :: sent, theirs :: received =>
      if (ours.byteCount, ours.leading) ≠ (theirs.byteCount, theirs.leading) then
        some (harnessGap ++ "the adapters disagree about audio chunk frame " ++ toString index ++ " of " ++
          toString total ++ ", which the transport delivers unchanged")
      else disagreement total (index + 1) sent received
  | _, _, _ => none

-- int.from_bytes(frame.leading[9:13], "big")
def sendAhead (frame : Frame) : Nat := bigEndian ((frame.leading.drop 9).take 4)

section verdict

variable [UnicodeData] [CaseFolding]

-- What the client received, the server's frames having passed.
def receivedVerdict (sent received : List Frame) (durations : String) : Py (Bool × String) :=
  if received.length ≠ sent.length then
    .ok (false, "Client received " ++ toString received.length ++ " of the " ++ toString sent.length ++
      " audio chunk frames the server sent")
  else
    match disagreement sent.length 1 sent received with
    | some violation => .ok (false, violation)
    | none =>
        match headerViolation .client received with
        | some violation => .ok (false, violation)
        | none => do
            let smallest ← minOf (sent.map sendAhead)
            let largest ← maxOf (sent.map sendAhead)
            .ok (true, "All " ++ toString sent.length ++ " audio chunks carried the " ++
              toString requiredHeaderBytes ++ "-byte header; " ++ durations ++ "; send_ahead read " ++
              toString smallest ++ "-" ++ toString largest ++ " us, its saturation not judged")

def clientVerdict (clientSummary : Fields) (sent : List Frame) (durations : String) : Py (Bool × String) :=
  match getKey clientSummary "audio" with
  | .obj clientAudio =>
      match transportedFrames (getKey clientAudio "received_chunk_frames") with
      | none => .ok (false, unobservedClientVerdict clientAudio sent)
      | some received => receivedVerdict sent received durations
  | _ => .ok (false, "Client summary is missing an 'audio' section")

-- The frames the server sent, with what is said of their durations; or why it fails.
def sentVerdict (serverSummary serverAudio : Fields) (sent : List Frame) : Py (Bool × String) := do
  match ← typeViolation sent.length 1 sent with
  | some violation => .ok (false, violation)
  | none =>
      match headerViolation .server sent with
      | some violation => .ok (false, statedViolation serverAudio violation)
      | none => chunkDurationsVerdict serverSummary serverAudio sent

def chunkFramingVerdict (serverSummary clientSummary : Fields) : Py (Bool × String) :=
  if !(getKey serverSummary "status").eqStr "ok" then
    .ok (false, "Server summary status is " ++ pyRepr (getKey serverSummary "status"))
  else if !(getKey clientSummary "status").eqStr "ok" then
    .ok (false, "Client summary status is " ++ pyRepr (getKey clientSummary "status"))
  else
    match getKey serverSummary "audio" with
    | .obj serverAudio =>
        match transportedFrames (getKey serverAudio "sent_chunk_frames") with
        | none => .ok (false, harnessGap ++ "the server adapter did not observe the audio chunk frames it sent, so " ++
            "the header on the wire cannot be judged")
        | some [] => .ok (false, "Server sent no audio chunks")
        | some sent => do
            let judged ← sentVerdict serverSummary serverAudio sent
            if judged.1 then clientVerdict clientSummary sent judged.2 else .ok judged
    | _ => .ok (false, "Server summary is missing an 'audio' section")

end verdict

end Conformance.Harness
