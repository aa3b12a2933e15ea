import SendspinConformance.Harness.DeclaredFormats

set_option autoImplicit false

namespace Conformance.Adapters

open Python Harness

-- One assertion of the protocol evidence: its status, its detail and its events' fields.
structure Assertion where
  status : String := "failed"
  detail : Option String := none
  events : List (String × Fields) := []

def Assertion.record (assertion : Assertion) (event : String) (fields : Fields) : Assertion :=
  { assertion with events := assertion.events ++ [(event, fields)] }

def Assertion.passed (assertion : Assertion) (detail : String) : Assertion :=
  { assertion with status := "passed", detail := some detail }

def Assertion.failed (assertion : Assertion) (detail : String) : Assertion :=
  { assertion with status := "failed", detail := some detail }

-- The members of a format object, in the order the adapters write them.
def formatFields (format : AudioFormat) : Fields :=
  [("codec", .str format.codec), ("sample_rate", .int format.sampleRate), ("channels", .int format.channels),
    ("bit_depth", .int format.bitDepth)]

def formatJson (format : AudioFormat) : Json := .obj (formatFields format)

def optionalFormat : Option AudioFormat → Json
  | some format => formatJson format
  | none => .null

def optionalInt : Option Int → Json
  | some number => .int number
  | none => .null

-- zip(timestamps, timestamps[1:])
def neighbours (timestamps : List Int) : List (Int × Int) := timestamps.zip (timestamps.drop 1)

def nonMonotonic (timestamps : List Int) : List (Int × Int) := (neighbours timestamps).filter fun pair => pair.2 < pair.1

def reprPair (pair : Int × Int) : String := "(" ++ toString pair.1 ++ ", " ++ toString pair.2 ++ ")"

-- record_player_stream_evidence of the Python adapters
namespace Evidence

def matchesFormat (negotiated format : AudioFormat) : Bool :=
  format.codec == negotiated.codec && format.sampleRate == negotiated.sampleRate &&
    format.channels == negotiated.channels

def recordPlayerStreamEvidence [UnicodeData] (advertised : List AudioFormat) (negotiated : Option AudioFormat)
    (chunkCount : Nat) (timestampsUs : List Int) : Assertion :=
  let observed := Assertion.record {} "stream_start_observed"
    [("negotiated_format", optionalFormat negotiated), ("advertised_formats", .arr (advertised.map formatJson))]
  match negotiated with
  | none => observed.failed "No stream/start with a player object was observed"
  | some format =>
      if !advertised.any (matchesFormat format) then
        observed.failed ("Negotiated format " ++ pyRepr (formatJson format) ++ " was not among the advertised formats " ++
          pyRepr (.arr (advertised.map formatJson)))
      else if chunkCount = 0 then observed.failed "No audio chunks were observed after stream/start"
      else
        let chunks := observed.record "audio_chunks_observed" [("chunk_count", .int chunkCount),
          ("first_timestamp_us", optionalInt timestampsUs.head?), ("last_timestamp_us", optionalInt timestampsUs.getLast?)]
        let wrong := nonMonotonic timestampsUs
        if !wrong.isEmpty then
          chunks.failed ("Chunk timestamps were not monotonic: [" ++ joinWith ", " ((wrong.take 3).map reprPair) ++ "]")
        else
          chunks.passed ("Selected an advertised format and streamed " ++ toString chunkCount ++
            " timestamped chunks in order")

end Evidence

namespace Cpp

def matchesFormat (stream format : AudioFormat) : Bool :=
  let opus := stream.codec == "opus"
  format.codec == stream.codec && format.sampleRate == stream.sampleRate && format.channels == stream.channels &&
    (opus || format.bitDepth == stream.bitDepth)

-- The texts in which the client's and the server's judge_player_stream differ.
structure JudgeTexts where
  noStream : String
  noChunks : String
  streamed : String

-- The place, from 1, of the first chunk stamped before the one ahead of it.
def firstBackwards (timestamps : List Int) : Option Nat :=
  ((neighbours timestamps).findIdx? fun pair => pair.2 < pair.1).map (· + 2)

def judge (texts : JudgeTexts) (advertised : List AudioFormat) (stream : Option AudioFormat) (timestamps : List Int) :
    Assertion :=
  let started := Assertion.record {} "stream_start_observed"
    [("negotiated_format", optionalFormat stream), ("advertised_formats", .arr (advertised.map formatJson))]
  match stream with
  | none => started.failed texts.noStream
  | some format =>
      if !advertised.any (matchesFormat format) then
        started.failed "the stream/start format is not one client/hello supported_formats lists"
      else
        match timestamps.head?, timestamps.getLast? with
        | some first, some last =>
            let chunks := started.record "audio_chunks_observed" [("chunk_count", .int timestamps.length),
              ("first_timestamp_us", .int first), ("last_timestamp_us", .int last)]
            match firstBackwards timestamps with
            | some place =>
                chunks.failed ("audio chunk " ++ toString place ++ " is timestamped before the chunk ahead of it")
            | none => chunks.passed (texts.streamed ++ toString timestamps.length ++ " audio chunks in timestamp order")
        | _, _ =>
            (started.record "audio_chunks_observed" [("chunk_count", .int timestamps.length)]).failed texts.noChunks

-- judge_player_stream of the client's trace_evidence.cpp
def judgeClientStream : List AudioFormat → Option AudioFormat → List Int → Assertion :=
  judge ⟨"no stream/start with a player object was received", "no audio chunks were received after stream/start",
    "the server selected an advertised format and sent "⟩

-- judge_player_stream of the server's scenarios.cpp
def judgeServerStream : List AudioFormat → Option AudioFormat → List Int → Assertion :=
  judge ⟨"no stream/start with a player object was observed", "no audio chunks were observed after stream/start",
    "selected an advertised format and sent "⟩

end Cpp

end Conformance.Adapters
