import Mathlib.Data.Int.Log
import SendspinConformance.Base.Grouping
import SendspinConformance.Base.Rounding
import SendspinConformance.Python.Text

set_option autoImplicit false

namespace Conformance.Harness

open Python Base

-- What str.casefold makes of a character beyond ASCII.
class CaseFolding where
  fold : Char → List Char

-- Serves a run whose text is all ASCII.
abbrev noFolding : CaseFolding := ⟨fun char => [char]⟩

-- text.casefold()
def casefold [CaseFolding] (text : String) : String :=
  String.ofList (text.toList.flatMap fun char => if isAscii char then [char.toLower] else CaseFolding.fold char)

-- The fields of AUDIO_FORMAT_FIELDS, in its order.
structure AudioFormat where
  codec : String
  sampleRate : Int
  bitDepth : Int
  channels : Int
deriving DecidableEq, Repr

def normalizedFormat [CaseFolding] (value : Json) : Option AudioFormat := do
  let fields ← value.asObj
  let codec ← (getKey fields "codec").asStr
  if codec.isEmpty then none
  else
    let sampleRate ← (getKey fields "sample_rate").asInt
    let bitDepth ← (getKey fields "bit_depth").asInt
    let channels ← (getKey fields "channels").asInt
    some ⟨casefold codec, sampleRate, bitDepth, channels⟩

-- number / 1000, which no float holds where it is too large
def thousandth (number : Int) : Py Rat :=
  let quotient := roundTo .binary64 (number / 1000)
  if 2 ^ 1024 ≤ |quotient| then .error ⟨"OverflowError", "integer division result too large for a float"⟩
  else .ok quotient

def stripZeros (digits : List Char) : List Char := (digits.reverse.dropWhile (· == '0')).reverse

def withFraction (whole fraction : List Char) : List Char :=
  match stripZeros fraction with
  | [] => whole
  | kept => whole ++ ['.'] ++ kept

-- The :g of a format string: six significant digits, without the zeros behind them.
def formatG (number : Rat) : String :=
  if number = 0 then "0"
  else
    let exponent := Int.log 10 |number|
    let rounded := (nearestEven (|number| / 10 ^ (exponent - 5))).toNat
    let carried : Nat × Int := if 10 ^ 6 ≤ rounded then (rounded / 10, exponent + 1) else (rounded, exponent)
    let digits := (Nat.repr carried.1).toList
    let sign := if number < 0 then ['-'] else []
    let text :=
      if 0 ≤ carried.2 ∧ carried.2 < 6 then
        withFraction (digits.take (carried.2.toNat + 1)) (digits.drop (carried.2.toNat + 1))
      else if -4 ≤ carried.2 ∧ carried.2 < 0 then
        withFraction ['0'] (List.replicate ((-carried.2).toNat - 1) '0' ++ digits)
      else
        let power := (Nat.repr carried.2.natAbs).toList
        withFraction (digits.take 1) (digits.drop 1) ++ ['e', if carried.2 < 0 then '-' else '+'] ++
          List.replicate (2 - power.length) '0' ++ power
    String.ofList (sign ++ text)

def formatLabel [UnicodeData] (format : AudioFormat) : Py String := do
  let channelLabel :=
    if format.channels = 1 then "mono" else if format.channels = 2 then "stereo" else toString format.channels ++ " ch"
  let rate ← thousandth format.sampleRate
  .ok (upper format.codec ++ " · " ++ channelLabel ++ " · " ++ formatG rate ++ " kHz · " ++ toString format.bitDepth ++
    "-bit")

-- _comparable_key: the bit depth is left out for opus
def comparableKey (format : AudioFormat) : String × Int × Option Int × Int :=
  (format.codec, format.sampleRate, if format.codec = "opus" then none else some format.bitDepth, format.channels)

structure Unreadable where
  value : Json
  reason : String

def notList : String := "supported_formats is not a list"

def notFormat : String := "entry does not carry a codec with integer sample_rate, bit_depth and channels"

-- A loop over supported_formats: each format the first time it is seen, and each entry
-- that cannot be read as one.
def readEntries [CaseFolding] (entries : List Json) : List AudioFormat × List Unreadable :=
  (distinct (entries.filterMap normalizedFormat),
    (entries.filter fun entry => (normalizedFormat entry).isNone).map fun entry => ⟨entry, notFormat⟩)

-- server_summary["peer_hello"]["payload"]["player@v1_support"]["supported_formats"]
def supportedFormats (serverSummary : Fields) : Json :=
  match getKey serverSummary "peer_hello" with
  | .obj hello =>
      match getKey hello "payload" with
      | .obj payload =>
          match getKey payload "player@v1_support" with
          | .obj support => getKey support "supported_formats"
          | _ => .null
      | _ => .null
  | _ => .null

def declaredFormats [CaseFolding] (serverSummary : Fields) : List AudioFormat × List Unreadable :=
  match supportedFormats serverSummary with
  | .arr entries => readEntries entries
  | .null => ([], [])
  | other => ([], [⟨other, notList⟩])

-- The summary fields a negotiated format may stand in.
def candidates (serverSummary clientSummary : Fields) : List (String × Json) :=
  [("server.stream", getKey serverSummary "stream"), ("client.stream", getKey clientSummary "stream")] ++
    match getKey clientSummary "renegotiation" with
    | .obj renegotiation =>
        [("client.renegotiation.initial_format", getKey renegotiation "initial_format"),
          ("client.renegotiation.final_format", getKey renegotiation "final_format")]
    | _ => []

structure Negotiated where
  format : AudioFormat
  sources : List String
deriving DecidableEq, Repr

def negotiatedFormats [CaseFolding] (serverSummary clientSummary : Fields) : List Negotiated :=
  let read := (candidates serverSummary clientSummary).filterMap fun candidate =>
    (normalizedFormat candidate.2).map fun format => (format, candidate.1)
  (grouped read).map fun group => ⟨group.1, group.2⟩

-- The formats of the case that undeclared_format_violation finds undeclared.
def undeclaredFormats [CaseFolding] (serverSummary clientSummary : Fields) : List Negotiated :=
  let declaredKeys := (declaredFormats serverSummary).1.map comparableKey
  (negotiatedFormats serverSummary clientSummary).filter fun negotiated =>
    !declaredKeys.contains (comparableKey negotiated.format)

def undeclaredFormatViolation [UnicodeData] [CaseFolding] (serverSummary clientSummary : Fields) :
    Py (Option String) :=
  let read := declaredFormats serverSummary
  if read.1.isEmpty || !read.2.isEmpty then .ok none
  else
    let undeclared := undeclaredFormats serverSummary clientSummary
    if undeclared.isEmpty then .ok none
    else do
      let observed ← undeclared.mapM fun negotiated => do
        .ok ((← formatLabel negotiated.format) ++ " (via " ++ joinWith ", " negotiated.sources ++ ")")
      let offered ← read.1.mapM formatLabel
      .ok (some ("Negotiated format not declared by the client: " ++ joinWith ", " observed ++ "; declared: " ++
        joinWith ", " offered))

-- The parts of a path between its slashes, as Path reads them: the last one is its name.
def pathName (path : String) : String :=
  let parts := (path.toList.splitOnP (· == '/')).filter fun part => part != [] && part != ['.']
  String.ofList (parts.getLast?.getD [])

-- str(result.get(key) or "")
def textOf [UnicodeData] (result : Fields) (key : String) : String :=
  let value := getKey result key
  if value.truthy then pyStr value else ""

def caseNameOf [UnicodeData] (result : Fields) : String := pathName (textOf result "case_dir")

structure Case where
  caseName : String
  scenarioId : String
  serverImpl : String
  clientImpl : String
  status : String
  declared : List AudioFormat
  negotiated : List Negotiated
  unreadable : List Unreadable

-- What a case's directory holds: what read_json reads of a file, or none where the file
-- is missing or unreadable. A text nested too deep for json.loads (RecursionError) is left out.
abbrev CaseFiles := String → String → Option Json

def readSummary (files : CaseFiles) (caseName fileName : String) : Fields :=
  match files caseName fileName with
  | some (.obj fields) => fields
  | _ => []

def caseOf [UnicodeData] [CaseFolding] (files : CaseFiles) (result : Fields) : Case :=
  let caseName := caseNameOf result
  let serverSummary := readSummary files caseName "server-summary.json"
  let clientSummary := readSummary files caseName "client-summary.json"
  let read := declaredFormats serverSummary
  ⟨caseName, textOf result "scenario_id", textOf result "server_impl", textOf result "client_impl",
    textOf result "status", read.1, negotiatedFormats serverSummary clientSummary, read.2⟩

def Case.recorded (item : Case) : Bool :=
  !(item.declared.isEmpty && item.negotiated.isEmpty && item.unreadable.isEmpty)

-- Python's order of two tuples of texts.
def textsLe : List String → List String → Bool
  | [], _ => true
  | _ :: _, [] => false
  | first :: firsts, second :: seconds => if first = second then textsLe firsts seconds else first < second

def caseLe (first second : Case) : Prop :=
  textsLe [first.clientImpl, first.scenarioId, first.caseName] [second.clientImpl, second.scenarioId, second.caseName]

instance : DecidableRel caseLe := fun _ _ => inferInstanceAs (Decidable (_ = true))

def caseDeclarations [UnicodeData] [CaseFolding] (files : CaseFiles) (results : List Fields) : List Case :=
  (((results.filter fun result => caseNameOf result != "").map (caseOf files)).filter Case.recorded).insertionSort caseLe

structure CaseReference where
  caseName : String
  scenarioId : String
  serverImpl : String
  status : String
  sources : Option (List String)
deriving DecidableEq, Repr

def caseReference (item : Case) (sources : Option (List String)) : CaseReference :=
  ⟨item.caseName, item.scenarioId, item.serverImpl, item.status, sources⟩

structure FormatEntry where
  format : AudioFormat
  label : String
  exercised : Bool
  declaredBy : List CaseReference
  exercisedBy : List CaseReference

structure UnreadableGroup where
  value : Json
  reason : String
  declaredBy : List CaseReference

structure ImplementationEntry where
  implementation : String
  declaredCount : Nat
  exercisedCount : Nat
  formats : List FormatEntry
  unreadable : List UnreadableGroup

def formatLe (first second : AudioFormat) : Prop :=
  if first.codec ≠ second.codec then first.codec < second.codec
  else if first.sampleRate ≠ second.sampleRate then first.sampleRate < second.sampleRate
  else if first.bitDepth ≠ second.bitDepth then first.bitDepth < second.bitDepth
  else first.channels ≤ second.channels

instance : DecidableRel formatLe := fun first second => by unfold formatLe; infer_instance

def declarations (cases : List Case) : List (AudioFormat × CaseReference) :=
  cases.flatMap fun item => item.declared.map fun format => (format, caseReference item none)

def observations (cases : List Case) : List (AudioFormat × CaseReference) :=
  cases.flatMap fun item => item.negotiated.map fun negotiated =>
    (negotiated.format, caseReference item (some negotiated.sources))

def formatEntry [UnicodeData] (cases : List Case) (format : AudioFormat) : Py FormatEntry := do
  let exercising := valuesOf (observations cases) format
  .ok ⟨format, ← formatLabel format, !exercising.isEmpty, valuesOf (declarations cases) format, exercising⟩

-- json.dumps([entry["value"], entry["reason"]], sort_keys=True)
def identity (entry : Unreadable) : String := dumpsSorted (.arr [entry.value, .str entry.reason])

def claims (cases : List Case) : List (String × Unreadable × CaseReference) :=
  cases.flatMap fun item => item.unreadable.map fun entry => (identity entry, entry, caseReference item none)

-- A group is published with the value and the reason of its first claim.
def groupOf (claimed : List (Unreadable × CaseReference)) : Option UnreadableGroup :=
  claimed.head?.map fun first => ⟨first.1.value, first.1.reason, claimed.map Prod.snd⟩

def rolledUpUnreadable (cases : List Case) : List UnreadableGroup :=
  (sorted (distinct ((claims cases).map Prod.fst))).filterMap fun key => groupOf (valuesOf (claims cases) key)

def implementationEntry [UnicodeData] (clientImpl : String) (cases : List Case) : Py ImplementationEntry := do
  let formats := (distinct ((declarations cases).map Prod.fst)).insertionSort formatLe
  let entries ← formats.mapM (formatEntry cases)
  .ok ⟨clientImpl, entries.length, entries.countP FormatEntry.exercised, entries, rolledUpUnreadable cases⟩

def implementationNames : List String := sorted ["aiosendspin", "SendspinKit", "sendspin-dotnet", "sendspin-js",
  "sendspin-rs", "sendspin-cpp", "sendspin-server-cpp", "sendspin-go"]

structure DeclaredFormats where
  schemaVersion : Nat
  implementations : List ImplementationEntry
  cases : List Case

def collectDeclaredFormats [UnicodeData] [CaseFolding] (files : CaseFiles) (results : List Fields) :
    Py DeclaredFormats := do
  let cases := caseDeclarations files results
  let casesByClient := grouped (cases.map fun item => (item.clientImpl, item))
  let names := casesByClient.map Prod.fst
  let orderedClients := implementationNames.filter (names.contains ·) ++
    sorted (names.filter fun name => !implementationNames.contains name)
  let implementations ← orderedClients.mapM fun clientImpl =>
    implementationEntry clientImpl (valuesOf (cases.map fun item => (item.clientImpl, item)) clientImpl)
  .ok ⟨1, implementations.filter fun entry => !entry.formats.isEmpty || !entry.unreadable.isEmpty, cases⟩

end Conformance.Harness
