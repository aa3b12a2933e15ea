import SendspinConformance.Base.Turns
import SendspinConformance.Harness.CaseComparison

set_option autoImplicit false

namespace Conformance.Matrix

open Python Base Comparison

-- Where run_case stands: before its first step, waiting for a ready file, for an exit or for killed adapters to end,
-- and after its result or an exception.
inductive Phase where
  | begun
  | failReady (role : RoleName) (unsupported : Bool)
  | failExit (role : RoleName) (unsupported : Bool)
  | failReaping (role : RoleName) (unsupported : Bool) (raised : PyError)
  | serverReady
  | clientReady
  | serverExit
  | clientExit
  | reaping (raised : PyError)
  | ended (result : CaseResult)
  | escaped

structure CaseState where
  phase : Phase
  server : Adapter
  client : Adapter
  resultFile : Option CaseResult

-- What happens next in a case: run_case goes on where what it waits for has come, its wait times out, an adapter
-- cannot be spawned, its task is cancelled; an adapter leaves its files in some state, or exits.
inductive CaseAct where
  | proceed
  | expire
  | spawnFails (raised : PyError)
  | cancel
  | writes (role : RoleName) (ready : Bool) (summary : SummaryFile)
  | exits (role : RoleName) (code : Int)

def CaseState.adapter (state : CaseState) : RoleName → Adapter
  | .server => state.server
  | .client => state.client

def CaseState.setAdapter (state : CaseState) (role : RoleName) (adapter : Adapter) : CaseState :=
  match role with
  | .server => { state with server := adapter }
  | .client => { state with client := adapter }

-- _write_result, and the end of run_case
def CaseState.conclude (state : CaseState) (result : CaseResult) : CaseState :=
  { state with phase := .ended result, resultFile := some result }

namespace Setting

-- The result of _run_failfast_role, with the mark _run_unsupported_role sets on it.
def failFastResult (setting : Setting) (role : RoleName) (unsupported : Bool) (reason : String)
    (returncode : Option Int) : CaseResult :=
  { setting.case.caseResult .failed reason (if role = .server then returncode else none)
      (if role = .client then returncode else none) with unsupported }

def waitForFile (setting : Setting) (role : RoleName) : PyError :=
  ⟨"TimeoutError", "Timed out waiting for file: " ++ setting.case.readyPath role⟩

def waitForExit (seconds : String) (role : RoleName) : PyError :=
  ⟨"TimeoutError", "Timed out after " ++ seconds ++ "s waiting for the " ++ role.text ++ " adapter to exit"⟩

-- What the wait of a phase raises when its time is over.
def timeoutOf (setting : Setting) : Phase → Option PyError
  | .failReady role _ => some (setting.waitForFile role)
  | .failExit role _ => some (waitForExit "5" role)
  | .serverReady => some (setting.waitForFile .server)
  | .clientReady => some (setting.waitForFile .client)
  | .serverExit => some (waitForExit setting.case.timeoutText .server)
  | .clientExit => some (waitForExit "10" .client)
  | _ => none

variable [Host]

-- The reason of a fail-fast adapter that exited; an exception read_json or payload.get raises escapes.
def failFastReason (setting : Setting) (role : RoleName) (adapter : Adapter) : Except PyError String :=
  let reason := setting.case.implementation role ++ " " ++ role.text ++ " adapter failed without writing a summary"
  match adapter.summary with
  | .absent => .ok reason
  | .unreadable raised => .error raised
  | .payload (.obj fields) => .ok (textOr reason (getKey fields "reason"))
  | .payload value => .error ⟨"AttributeError", "'" ++ value.typeName ++ "' object has no attribute 'get'"⟩

-- _compare_summaries of the scenario
def compare (setting : Setting) : Json → Json → Py (Bool × String) := compareSummaries setting.verified

-- The verdict on two payloads
def verdict (setting : Setting) (server client : Adapter) (serverPayload clientPayload : Json) : CaseStatus × String :=
  match setting.compare serverPayload clientPayload with
  | .error raised => (.failed, "Comparison raised " ++ raised.type ++ ": " ++ raised.text)
  | .ok (false, reason) => (.failed, reason)
  | .ok (true, reason) =>
      if server.returncode = some 0 ∧ client.returncode = some 0 then (.passed, reason)
      else (.failed, "One or more adapters exited non-zero")

-- What run_case makes of two adapters that exited.
def judge (setting : Setting) (server client : Adapter) : Except PyError (CaseStatus × String) :=
  match server.summary, client.summary with
  | .absent, _ | _, .absent => .ok (.failed, incompleteCaseReason server client (missingSummaryReason server client))
  | .unreadable raised, _ | .payload _, .unreadable raised => .error raised
  | .payload serverPayload, .payload clientPayload =>
      .ok (setting.verdict server client serverPayload clientPayload)

end Setting

variable [Host]

-- The first step of run_case: the case directory is made anew, and the plan is begun.
def CaseState.begin (setting : Setting) : CaseState :=
  let state : CaseState := ⟨.begun, .fresh, .fresh, none⟩
  match setting.plan with
  | .failFast role unsupported failureReason =>
      if failureReason.isSome || setting.entrypoints role then
        { state.setAdapter role .spawned with phase := .failReady role unsupported }
      else
        state.conclude (setting.failFastResult role unsupported
          ("Required runtime toolchain is not available for " ++ setting.case.implementation role ++ " " ++ role.text ++
            " adapter") none)
  | .notLaunched reason => state.conclude (setting.case.caseResult .failed reason none none)
  | .launch => { state.setAdapter .server .spawned with phase := .serverReady }

-- run_case goes on from where it waits.
def CaseState.proceed (setting : Setting) (state : CaseState) : Option CaseState :=
  match state.phase with
  | .begun => some (.begin setting)
  | .failReady role unsupported =>
      if (state.adapter role).ready then some { state with phase := .failExit role unsupported } else none
  | .failExit role unsupported => do
      let returncode ← (state.adapter role).returncode
      match setting.failFastReason role (state.adapter role) with
      | .ok reason => some (state.conclude (setting.failFastResult role unsupported reason (some returncode)))
      | .error _ => some { state with phase := .escaped }
  | .failReaping role unsupported raised => do
      let returncode ← (state.adapter role).returncode
      some (state.conclude (setting.failFastResult role unsupported raised.text (some returncode)))
  | .serverReady =>
      if state.server.ready then some { state.setAdapter .client .spawned with phase := .clientReady } else none
  | .clientReady => if state.client.ready then some { state with phase := .serverExit } else none
  | .serverExit => if state.server.returncode.isSome then some { state with phase := .clientExit } else none
  | .clientExit =>
      if state.client.returncode.isSome then
        match setting.judge state.server state.client with
        | .ok (status, reason) =>
            some (state.conclude
              (setting.case.caseResult status reason state.server.returncode state.client.returncode))
        | .error _ => some { state with phase := .escaped }
      else none
  | .reaping raised =>
      if state.server.isRunning || state.client.isRunning then none
      else
        let observed := if raised.text.isEmpty then raised.type else raised.text
        some (state.conclude (setting.case.caseResult .failed
          (incompleteCaseReason state.server state.client observed) state.server.returncode state.client.returncode))
  | .ended _ => none
  | .escaped => none

-- Where an exception of a wait takes run_case: its adapters are killed, and it waits for them to end.
def Phase.raising (raised : PyError) : Phase → Phase
  | .failReady role unsupported => .failReaping role unsupported raised
  | .failExit role unsupported => .failReaping role unsupported raised
  | _ => .reaping raised

def CaseState.step (setting : Setting) (state : CaseState) : CaseAct → Option CaseState
  | .proceed => state.proceed setting
  | .expire => (setting.timeoutOf state.phase).map fun raised => { state with phase := state.phase.raising raised }
  | .spawnFails raised =>
      match state.phase with
      | .begun =>
          match (CaseState.begin setting).phase with
          | .ended _ => none
          | _ => some ⟨.escaped, .fresh, .fresh, none⟩
      | .serverReady => if state.server.ready then some { state with phase := .reaping raised } else none
      | _ => none
  | .cancel =>
      match state.phase with
      | .ended _ | .escaped => none
      | _ => some { state with phase := .escaped }
  | .writes role ready summary =>
      if (state.adapter role).isRunning then
        some (state.setAdapter role { state.adapter role with ready, summary })
      else none
  | .exits role code =>
      if (state.adapter role).isRunning then some (state.setAdapter role ((state.adapter role).exitedWith code)) else none

-- A case whose task has not started, beside whatever an earlier run left in its directory.
def CaseState.queued (resultFile : Option CaseResult) : CaseState := ⟨.begun, .fresh, .fresh, resultFile⟩

end Conformance.Matrix
