import SendspinConformance.Harness.DeclaredFormats

set_option autoImplicit false

namespace Conformance.Harness

open Python

variable [UnicodeData] [CaseFolding]

def mandatoryCodecs : List String := ["flac", "pcm"]

def labels (formats : List AudioFormat) : Py String := do .ok (joinWith ", " (← formats.mapM formatLabel))

-- The part of format_priority_violation that judges what the server selected
def selectionViolation (preferredCodec : String) (codecs : List String) (offered : String) (stream : Option AudioFormat) :
    Py (Option String) :=
  match stream with
  | none => .ok none
  | some stream =>
      if stream.codec ≠ preferredCodec ∧ stream.codec ∈ codecs then do
        .ok (some ("Server selected " ++ (← formatLabel stream) ++ " although the client listed " ++
          upper preferredCodec ++ " first; a server that can produce " ++ upper preferredCodec ++ " is expected to " ++
          "honour supported_formats priority (roles/player/v1.md, SHOULD); declared: " ++ offered))
      else .ok none

def formatPriorityViolation (serverSummary : Fields) (preferredCodec : String) : Py (Option String) :=
  let read := declaredFormats serverSummary
  if !read.2.isEmpty then
    .ok (some ("Client's supported_formats carries an entry that cannot be read as an audio " ++
      "format, so the declared priority cannot be checked"))
  else
    let codecs := read.1.map AudioFormat.codec
    match codecs with
    | [] =>
        .ok (some ("The server summary records no supported_formats from client/hello, so the " ++
          "declared priority cannot be checked"))
    | first :: _ => do
        let offered ← labels read.1
        if first ≠ preferredCodec then
          .ok (some ("Client did not list " ++ upper preferredCodec ++ " first, so the case cannot test its " ++
            "priority; declared: " ++ offered))
        else if !codecs.any mandatoryCodecs.contains then
          .ok (some ("Client listed no flac or pcm entry, which roles/player/v1.md requires of " ++
            "every player; declared: " ++ offered))
        else selectionViolation preferredCodec codecs offered (normalizedFormat (getKey serverSummary "stream"))

-- Why a stream of another depth was not the one the scenario is for.
def otherDepth (bitDepth : Int) (declared : List AudioFormat) (unreadable : Bool) (stream offered : String) : String :=
  if declared.isEmpty || unreadable then
    "Harness gap: the stream was " ++ stream ++ ", so the case cannot test " ++ toString bitDepth ++
      "-bit audio, and the server summary records no readable supported_formats from client/hello to show " ++
      "which side chose it; declared: " ++ offered
  else if declared.any fun format => format.bitDepth = bitDepth then
    "Server streamed " ++ stream ++ " although the client listed a " ++ toString bitDepth ++
      "-bit format, so the case cannot test " ++ toString bitDepth ++ "-bit audio; declared: " ++ offered
  else
    "Harness gap: the client adapter advertised no " ++ toString bitDepth ++ "-bit format and the stream was " ++
      stream ++ ", so the case cannot test " ++ toString bitDepth ++ "-bit audio; declared: " ++ offered

def streamBitDepthViolation (serverSummary clientSummary : Fields) (bitDepth : Int) : Py (Option String) :=
  match normalizedFormat (getKey serverSummary "stream") with
  | none =>
      .ok (some ("Harness gap: the server adapter recorded no stream format, so the case " ++
        "cannot show that it tested " ++ toString bitDepth ++ "-bit audio"))
  | some stream => do
      let read := declaredFormats serverSummary
      let listed ← labels read.1
      let offered := if listed.isEmpty then "none recorded" else listed
      if stream.bitDepth ≠ bitDepth then
        .ok (some (otherDepth bitDepth read.1 (!read.2.isEmpty) (← formatLabel stream) offered))
      else
        match normalizedFormat (getKey clientSummary "stream") with
        | none => .ok none
        | some observed =>
            if observed.bitDepth = bitDepth then .ok none
            else
              .ok (some ("Client observed a " ++ (← formatLabel observed) ++ " stream although the server " ++
                "sent " ++ (← formatLabel stream) ++ "; declared: " ++ offered))

end Conformance.Harness
