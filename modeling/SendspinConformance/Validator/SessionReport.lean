import Mathlib.Data.List.Lex
import Mathlib.Data.Prod.Lex
import Mathlib.Data.String.Basic
import SendspinConformance.Validator.SuiteSteps

set_option autoImplicit false

namespace Conformance.Validator.Session

open Python Base SuiteRunner

structure SessionResult where
  connection : Nat
  txtName : Option String
  url : Option String := none
  laterConnections : List Nat := []
  findings : List Finding := []

-- What _connect returns: the connection of the first frame, and what is known of the client.
def connected (connection : Nat) (txtName url : Option String) : SessionResult := { connection, txtName, url }

-- What a session brings to its link: the languages its server names, and json.loads.
structure Tool where
  languages : List String
  loads : List UInt8 → Loaded

-- The client_id of the opening's client/init, where the client completed its opening.
def observedClient (world : World) (connection : Nat) : Option String :=
  match ((Link.record world connection).inbound "client/init" .cleartext).head? with
  | none => none
  | some init =>
      match getKey init.fields "client_id" with
      | .str clientId =>
          if world.recorder.events.any fun event => event.clientId == clientId then some clientId else none
      | _ => none

def Tool.link (tool : Tool) (clientId : String) (result : SessionResult) : Link :=
  ⟨clientId, result.url, tool.languages, tool.loads⟩

section

variable [UnicodeData]

-- SuiteRunner(..).run(), which returns the findings it reported.
def runnerFindings (link : Link) (options : SuiteOptions) : Action (List Finding) :=
  Program.opened [] do
    SuiteRunner.run link options
    return (← Program.current).1

-- The suites of a client that completed its opening.
def runSuitesOn (tool : Tool) (options : SuiteOptions) (result : SessionResult) (clientId : String) :
    Action SessionResult := do
  let link := tool.link clientId result
  let findings ← runnerFindings link options
  let laterConnections := link.connectionsSince (← Program.current) result.connection
  return { result with laterConnections, findings }

-- _run_suites
def runSuites (tool : Tool) (options : SuiteOptions) (result : SessionResult) : Action SessionResult := do
  match observedClient (← Program.current) result.connection with
  | none => return result
  | some clientId => runSuitesOn tool options result clientId

-- run_session, once the opening exchange was observed
def afterOpening (tool : Tool) (options : SuiteOptions) (result : SessionResult) : Action SessionResult :=
  if options.suites.isEmpty then return result else runSuites tool options result

end

-- StrEnum: a verdict is its text.
def verdictText : Verdict → String
  | .pass => "PASS"
  | .fail => "FAIL"
  | .warn => "WARN"
  | .skipped => "SKIPPED"
  | .notApplicable => "N/A"
  | .toolError => "TOOL_ERROR"

-- (f.id, f.frames, f.message, f.verdict)
def findingKey (finding : Finding) : String ×ₗ List Nat ×ₗ String ×ₗ String :=
  toLex (finding.id, toLex (finding.frames, toLex (finding.message, verdictText finding.verdict)))

-- sort_findings
def sortFindings (findings : List Finding) : List Finding :=
  findings.insertionSort fun first second => findingKey first ≤ findingKey second

-- The verdicts of _SUMMARY_KEYS
def summaryKeys : List (Verdict × String) :=
  [(.pass, "pass"), (.fail, "fail"), (.warn, "warn"), (.skipped, "skipped"), (.notApplicable, "n_a"),
    (.toolError, "tool_error")]

-- summarize
def summarize (findings : List Finding) : List (String × Nat) :=
  summaryKeys.map fun entry => (entry.2, findings.countP fun finding => finding.verdict == entry.1)

-- What build_report writes of a session's verdicts.
structure Report where
  findings : List Finding
  summary : List (String × Nat)

def buildReport (findings : List Finding) : Report :=
  let ordered := sortFindings findings
  ⟨ordered, summarize ordered⟩

def exitClean : Nat := 0
def exitFindings : Nat := 1
def exitNoReport : Nat := 2

-- summary[key]
def Report.count (report : Report) (key : String) : Nat := (report.summary.lookup key).getD 0

def Report.exitStatus (report : Report) : Nat :=
  if report.count "fail" ≠ 0 ∨ report.count "tool_error" ≠ 0 then exitFindings else exitClean

section

variable [UnicodeData]

def opening (world : World) (result : SessionResult) : List Finding :=
  judgeSession world.recorder.frames world.recorder.noncompliance world.recorder.toolErrors result.connection
    result.laterConnections result.txtName

-- _report
def sessionReport (world : World) (result : SessionResult) : Report :=
  buildReport (opening world result ++ result.findings)

omit [UnicodeData] in
-- What an exception is once it has left a coroutine.
def leftCoroutine (raised : PyError) : PyError :=
  if raised.type = "StopIteration" then ⟨"RuntimeError", "coroutine raised StopIteration"⟩ else raised

omit [UnicodeData] in
-- except (EOFError, KeyboardInterrupt)
def stopsRun (raised : PyError) : Bool := ["EOFError", "KeyboardInterrupt"].contains raised.type

-- main, of a session that has found its client: the exit status, or the exception that escapes. `close` is
-- what server.close() does to the world before the report reads it.
def main (tool : Tool) (options : SuiteOptions) (close : World → World) (result : SessionResult) (world : World) :
    Option (Py Nat) :=
  (afterOpening tool options result).from world |>.map fun
    | (.ok final, last) => .ok (sessionReport (close last) final).exitStatus
    | (.error raised, _) => if stopsRun raised then .ok exitNoReport else .error (leftCoroutine raised)

end

end Conformance.Validator.Session
