import SendspinConformance.Harness.SummaryFields

set_option autoImplicit false

namespace Conformance.Matrix

open Python

-- What run_case knows of a case beside its context: the text of its results directory and of its timeout.
structure MatrixCase extends CaseContext where
  environmentName : String
  scenarioRevision : Int
  resultsPath : String
  timeoutText : String

namespace MatrixCase

def casePath (case : MatrixCase) : String := case.resultsPath ++ "/" ++ case.caseName

def readyPath (case : MatrixCase) (role : RoleName) : String := case.casePath ++ "/" ++ role.text ++ "-ready.json"

def implementation (case : MatrixCase) : RoleName → String
  | .server => case.serverImpl
  | .client => case.clientImpl

end MatrixCase

inductive CaseStatus where
  | passed
  | failed
  | skipped
deriving DecidableEq, Repr

structure CaseResult where
  environmentId : String
  environmentName : String
  scenarioId : String
  serverImpl : String
  clientImpl : String
  status : CaseStatus
  reason : String
  scenarioRevision : Int
  caseDir : String
  serverExitCode : Option Int := none
  clientExitCode : Option Int := none
  unsupported : Bool := false
deriving DecidableEq, Repr

-- _case_result
def MatrixCase.caseResult (case : MatrixCase) (status : CaseStatus) (reason : String)
    (serverExitCode clientExitCode : Option Int) : CaseResult :=
  { environmentId := case.environmentId, environmentName := case.environmentName, scenarioId := case.scenario.id,
    serverImpl := case.serverImpl, clientImpl := case.clientImpl, status, reason,
    scenarioRevision := case.scenarioRevision, caseDir := case.casePath, serverExitCode, clientExitCode }

-- The process of an adapter, whose exit the event loop has seen or not.
inductive AdapterProcess where
  | absent
  | running
  | exited (code : Int)
deriving DecidableEq, Repr

-- A summary file, and what read_json raises where it cannot be read.
inductive SummaryFile where
  | absent
  | unreadable (raised : PyError)
  | payload (value : Json)

structure Adapter where
  process : AdapterProcess
  ready : Bool
  summary : SummaryFile

def SummaryFile.isPresent : SummaryFile → Bool
  | .absent => false
  | _ => true

namespace Adapter

-- One whose case directory was just made.
def fresh : Adapter := ⟨.absent, false, .absent⟩

def spawned : Adapter := ⟨.running, false, .absent⟩

def returncode (adapter : Adapter) : Option Int :=
  match adapter.process with
  | .exited code => some code
  | _ => none

def isRunning (adapter : Adapter) : Bool := adapter.process = .running

def exitedWith (adapter : Adapter) (code : Int) : Adapter := { adapter with process := .exited code }

end Adapter

def RoleName.capitalize : RoleName → String
  | .server => "Server"
  | .client => "Client"

def clientDetails (server client : Adapter) : List String :=
  if server.returncode = some 0 ∧ client.returncode = some (-9) then
    ["client adapter was killed after the server completed before it wrote a summary"]
  else
    match client.returncode with
    | some code => ["client adapter exited " ++ toString code ++ " before writing a summary"]
    | none => []

def serverDetails (server : Adapter) : List String :=
  match server.returncode with
  | some code => ["server adapter exited " ++ toString code ++ " before writing a summary"]
  | none => []

-- _missing_summary_reason
def missingSummaryReason (server client : Adapter) : String :=
  let missingRoles :=
    (if server.summary.isPresent then [] else ["server"]) ++ (if client.summary.isPresent then [] else ["client"])
  let details :=
    (if client.summary.isPresent then [] else clientDetails server client) ++
      (if server.summary.isPresent then [] else serverDetails server)
  let roleText := if missingRoles.isEmpty then "unknown" else joinWith ", " missingRoles
  if details.isEmpty then "Missing summary output for " ++ roleText
  else "Missing summary output for " ++ roleText ++ ": " ++ joinWith "; " details

def writtenSummary (role : RoleName) (adapter : Adapter) : List (RoleName × Fields) :=
  match adapter.summary with
  | .payload (.obj fields) => [(role, fields)]
  | _ => []

-- _written_summaries
def writtenSummaries (server client : Adapter) : List (RoleName × Fields) :=
  writtenSummary .server server ++ writtenSummary .client client

section

variable [UnicodeData]

def reportedFailure (entry : RoleName × Fields) : Option String :=
  if (getKey entry.2 "status").eqStr "ok" then none
  else if (getKey entry.2 "reason").truthy then
    some (entry.1.capitalize ++ " adapter reported: " ++ pyStr (getKey entry.2 "reason"))
  else none

-- _adapter_reported_failures
def adapterReportedFailures (summaries : List (RoleName × Fields)) : Option String :=
  let reported := joinWith "; " (summaries.filterMap reportedFailure)
  if reported.isEmpty then none else some reported

-- _incomplete_case_reason
def incompleteCaseReason (server client : Adapter) (observed : String) : String :=
  match adapterReportedFailures (writtenSummaries server client) with
  | some reported => reported ++ "; " ++ observed
  | none => observed

end

-- text.splitlines(), which a return and a line feed after it end once
def splitLines (chars : List Char) : List String :=
  let breaks := [10, 11, 12, 13, 28, 29, 30, 133, 8232, 8233]
  let rec go (line : List Char) : List Char → List String
    | [] => if line.isEmpty then [] else [String.ofList line.reverse]
    | '\r' :: '\n' :: rest => String.ofList line.reverse :: go [] rest
    | char :: rest =>
        if breaks.contains char.toNat then String.ofList line.reverse :: go [] rest else go (char :: line) rest
  go [] chars

section

variable [UnicodeData]

-- What _BUILD_ERROR_LINE keeps away from the word.
def joinsWord (char : Char) : Bool :=
  char == '-' || if isAscii char then char.isAlphanum || char == '_' else UnicodeData.isAlnum char

def startsError (text : List Char) : Bool :=
  (text.take 5).map Char.toLower = "error".toList && !(text.drop 5).head?.any joinsWord

-- _BUILD_ERROR_LINE.search(line)
def isBuildErrorLine (line : String) : Bool :=
  let rec go (previous : Option Char) : List Char → Bool
    | [] => false
    | char :: rest => (!previous.any joinsWord && startsError (char :: rest)) || go (some char) rest
  go none line.toList

-- str(value or default)
def textOr (default : String) (value : Json) : String := if value.truthy then pyStr value else default

-- _build_failure_reason
def buildFailureReason (buildResult : Fields) : String :=
  let adapter := textOr "adapter" (getKey buildResult "adapter")
  let status := textOr "failed" (getKey buildResult "status")
  let detail := strip (textOr "" (getKey buildResult "detail"))
  let lines := ((splitLines detail.toList).map strip).filter fun line => !line.isEmpty
  let headline := (lines.find? isBuildErrorLine).getD (lines.head?.getD "no detail available")
  adapter ++ " build " ++ status ++ ": " ++ headline

end

-- What run_case is given for a case, and what this host offers: the adapters a command is found for, with what the
-- build left and with nothing built. The rest of the scenario is what the comparison reads.
structure Setting where
  case : MatrixCase
  specs : RoleName → RoleSpec
  builds : RoleName → Option Fields
  commands : RoleName → Bool
  entrypoints : RoleName → Bool
  verification : Comparison.Verification

-- What run_case decides before it launches anything: to fail fast in a role, with the reason it hands to the
-- placeholder, to launch nothing, or to launch both adapters.
inductive Plan where
  | failFast (role : RoleName) (unsupported : Bool) (failureReason : Option String)
  | notLaunched (reason : String)
  | launch
deriving DecidableEq, Repr

namespace Setting

def verified (setting : Setting) : Comparison.VerifiedScenario :=
  { setting.case.scenario, setting.verification with }

variable [UnicodeData]

-- capability_failure
def capabilityFailure (setting : Setting) (role : RoleName) : Option String :=
  (setting.specs role).unsupportedReason (setting.case.implementation role) role setting.case.scenario

def unbuilt (setting : Setting) (role : RoleName) : Option Fields :=
  (setting.builds role).filter fun buildResult => pyStr (getKey buildResult "status") ≠ "built"

def notRunnable (setting : Setting) (role : RoleName) : Bool := !setting.commands role && (setting.builds role).isSome

def notLaunchedReason (setting : Setting) : String :=
  if setting.notRunnable .server then
    setting.case.serverImpl ++ " server adapter was built but no runnable artifact was available for the test matrix"
  else if setting.notRunnable .client then
    setting.case.clientImpl ++ " client adapter was built but no runnable artifact was available for the test matrix"
  else "Required runtime toolchain is not available for this adapter"

def plan (setting : Setting) : Plan :=
  if !(setting.specs .server).supported then .failFast .server true none
  else if !(setting.specs .client).supported then .failFast .client true none
  else
    match setting.capabilityFailure .server, setting.capabilityFailure .client with
    | some reason, _ => .failFast .server true (some reason)
    | none, some reason => .failFast .client true (some reason)
    | none, none =>
        match setting.unbuilt .server, setting.unbuilt .client with
        | some buildResult, _ => .failFast .server false (some (buildFailureReason buildResult))
        | none, some buildResult => .failFast .client false (some (buildFailureReason buildResult))
        | none, none =>
            if setting.commands .server && setting.commands .client then .launch
            else .notLaunched setting.notLaunchedReason

end Setting

end Conformance.Matrix
