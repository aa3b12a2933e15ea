import SendspinConformance.Base.Runs
import SendspinConformance.Harness.CaseFinishes
import SendspinConformance.Harness.CasesApart

set_option autoImplicit false

namespace Conformance.Matrix

open Python Base Comparison

-- The cases run_matrix gathers, each in a directory of its own, and how many may run at one time.
structure MatrixCases where
  settings : List Setting
  apart : (settings.map fun setting => setting.case.caseDir).Nodup
  jobs : Nat
  positive : 0 < jobs

-- What this host and the tables give run_case for a case beside its context and the adapters' specs.
structure Machine where
  environmentName : String
  resultsPath : String
  timeoutText : String
  scenarioRevision : ScenarioSpec → Int
  verification : ScenarioSpec → Verification
  builds : String → RoleName → Option Fields
  commands : CaseContext → RoleName → Bool
  entrypoints : CaseContext → RoleName → Bool

def CaseContext.implementation (context : CaseContext) : RoleName → String
  | .server => context.serverImpl
  | .client => context.clientImpl

-- The case that run_case is called for, of implementations that are in the registry.
def Machine.setting (machine : Machine) (registry : Registry) (context : CaseContext) : Setting where
  case := { context with
    environmentName := machine.environmentName
    scenarioRevision := machine.scenarioRevision context.scenario
    resultsPath := machine.resultsPath
    timeoutText := machine.timeoutText }
  specs role := ((registry.find (context.implementation role)).map fun spec => spec.role role).getD unsupportedRole
  builds role := machine.builds (context.implementation role) role
  commands := machine.commands context
  entrypoints := machine.entrypoints context
  verification := machine.verification context.scenario

-- A call of run_matrix.
structure MatrixCall where
  registry : Registry
  machine : Machine
  resultsDir : List String
  environmentId : String
  fromFilter : Option String
  toFilter : Option String
  jobs : Int

section

variable [UnicodeData]

-- The call gathers these cases, and its filters select each server and client that meet in one once.
structure MatrixCall.Gathers (call : MatrixCall) (cases : List CaseContext) : Prop where
  listed : runMatrix call.registry call.resultsDir call.environmentId call.fromFilter call.toFilter call.jobs = .ok cases
  once : ∀ serverNames clientNames, parseImplementationFilter call.registry call.fromFilter = .ok serverNames →
    parseImplementationFilter call.registry call.toFilter = .ok clientNames →
      MeetOnce call.registry serverNames clientNames

theorem gathers_positive (call : MatrixCall) (cases : List CaseContext) (gathers : call.Gathers cases) :
    0 < call.jobs.toNat := by
  have listed := gathers.listed
  rw [runMatrix] at listed
  split at listed
  · cases listed
  · omega

theorem gathers_apart (call : MatrixCall) (cases : List CaseContext) (gathers : call.Gathers cases) :
    (cases.map CaseContext.caseDir).Nodup := by
  have listed := gathers.listed
  rw [runMatrix] at listed
  split at listed
  · cases listed
  · cases parsedFrom : parseImplementationFilter call.registry call.fromFilter with
    | error raised => simp [listedCases, parsedFrom, bind, Except.bind] at listed
    | ok serverNames =>
        cases parsedTo : parseImplementationFilter call.registry call.toFilter with
        | error raised => simp [listedCases, parsedFrom, parsedTo, bind, Except.bind] at listed
        | ok clientNames =>
            rw [(matrix_read call.registry call.resultsDir call.environmentId _ _ call.jobs serverNames clientNames cases
              parsedFrom parsedTo gathers.listed).1, dirs_apart_iff]
            exact gathers.once serverNames clientNames parsedFrom parsedTo

-- The cases of the call, which share no directory.
def MatrixCall.matrix (call : MatrixCall) (cases : List CaseContext) (gathers : call.Gathers cases) : MatrixCases where
  settings := cases.map (call.machine.setting call.registry)
  apart := by
    rw [List.map_map]
    exact gathers_apart call cases gathers
  jobs := call.jobs.toNat
  positive := gathers_positive call cases gathers

end

-- A task of _run_limited: it waits for the semaphore until it has entered.
structure CaseTask where
  setting : Setting
  entered : Bool
  state : CaseState

-- The tasks, and index.json once it is written.
structure MatrixState where
  tasks : List CaseTask
  index : Option (List CaseResult)

inductive MatrixAct where
  | enter
  | inCase (place : Nat) (act : CaseAct)
  | finish

def Phase.isOver : Phase → Bool
  | .ended _ | .escaped => true
  | _ => false

namespace CaseTask

def waits (task : CaseTask) : Bool := !task.entered && !task.state.phase.isOver

-- The task holds the semaphore.
def holds (task : CaseTask) : Bool := task.entered && !task.state.phase.isOver

def result (task : CaseTask) : Option CaseResult :=
  match task.state.phase with
  | .ended result => some result
  | _ => none

def queued (setting : Setting) : CaseTask := ⟨setting, false, .queued none⟩

end CaseTask

-- The semaphore goes to the first task that waits for it.
def enterFirst : List CaseTask → Option (List CaseTask)
  | [] => none
  | task :: rest =>
      if task.waits then some ({ task with entered := true } :: rest) else (enterFirst rest).map (task :: ·)

def CaseAct.isCancel : CaseAct → Bool
  | .cancel => true
  | _ => false

variable [Host]

-- A task that waits for the semaphore can only be cancelled.
def CaseTask.step (task : CaseTask) (act : CaseAct) : Option CaseTask :=
  if task.entered || act.isCancel then
    (task.state.step task.setting act).map fun state => { task with state }
  else none

def MatrixState.step (jobs : Nat) (state : MatrixState) : MatrixAct → Option MatrixState
  | .enter =>
      if state.tasks.countP CaseTask.holds < jobs then
        (enterFirst state.tasks).map fun tasks => { state with tasks }
      else none
  | .inCase place act => do
      let task ← state.tasks[place]?
      let next ← task.step act
      some { state with tasks := state.tasks.set place next }
  | .finish =>
      if state.index.isNone then
        (state.tasks.mapM CaseTask.result).map fun results => { state with index := some results }
      else none

-- The tasks run_matrix gathers; the data directory was removed, and no index is in it.
def MatrixState.gathered (matrix : MatrixCases) : MatrixState := ⟨matrix.settings.map .queued, none⟩

omit [Host] in
theorem enter_first_split (tasks next : List CaseTask) (entered : enterFirst tasks = some next) :
    ∃ earlier task later, tasks = earlier ++ task :: later ∧ (∀ other ∈ earlier, other.waits = false) ∧
      task.waits = true ∧ next = earlier ++ { task with entered := true } :: later := by
  induction tasks generalizing next with
  | nil => cases entered
  | cons task rest ih =>
      rw [enterFirst] at entered
      split at entered
      · rename_i waits
        cases entered
        exact ⟨[], task, rest, rfl, fun _ member => (List.not_mem_nil member).elim, waits, rfl⟩
      · rename_i waitsNot
        rw [Option.map_eq_some_iff] at entered
        obtain ⟨others, found, rfl⟩ := entered
        obtain ⟨earlier, first, later, rfl, before, waits, rfl⟩ := ih others found
        refine ⟨task :: earlier, first, later, rfl, ?_, waits, rfl⟩
        intro other member
        rcases List.mem_cons.mp member with rfl | inEarlier
        · simpa using waitsNot
        · exact before other inEarlier

omit [Host] in
theorem enter_first_some (tasks : List CaseTask) (task : CaseTask) (member : task ∈ tasks) (waits : task.waits = true) :
    ∃ next, enterFirst tasks = some next := by
  induction tasks with
  | nil => cases member
  | cons head rest ih =>
      rw [enterFirst]
      split
      · exact ⟨_, rfl⟩
      · rename_i waitsNot
        rcases List.mem_cons.mp member with rfl | inRest
        · exact absurd waits waitsNot
        · obtain ⟨others, found⟩ := ih inRest
          exact ⟨head :: others, by rw [found]; rfl⟩

-- A case that is over stays so.
theorem step_over (setting : Setting) (before after : CaseState) (act : CaseAct) (done : before.phase.isOver = true)
    (stepped : before.step setting act = some after) : after.phase = before.phase := by
  obtain ⟨phase, server, client, resultFile⟩ := before
  cases act with
  | writes role ready summary =>
      rw [CaseState.step] at stepped
      split at stepped <;> cases stepped
      cases role <;> rfl
  | exits role code =>
      rw [CaseState.step] at stepped
      split at stepped <;> cases stepped
      cases role <;> rfl
  | _ => cases phase <;> cases done <;> cases stepped

-- What a turn of a task leaves of it.
theorem task_step (before after : CaseTask) (act : CaseAct) (stepped : before.step act = some after) :
    (before.entered = true ∨ act = .cancel) ∧ after.setting = before.setting ∧ after.entered = before.entered ∧
      before.state.step before.setting act = some after.state ∧
      (before.state.phase.isOver = true → after.state.phase = before.state.phase) := by
  rw [CaseTask.step] at stepped
  split at stepped
  · rename_i allowed
    rw [Option.map_eq_some_iff] at stepped
    obtain ⟨state, turned, rfl⟩ := stepped
    refine ⟨?_, rfl, rfl, turned, fun done => step_over _ _ _ act done turned⟩
    rw [Bool.or_eq_true] at allowed
    refine allowed.imp_right fun isCancel => ?_
    cases act <;> first | rfl | cases isCancel
  · cases stepped

theorem task_holds (before after : CaseTask) (act : CaseAct) (stepped : before.step act = some after)
    (holds : after.holds = true) : before.holds = true := by
  obtain ⟨_, _, entered, _, done⟩ := task_step before after act stepped
  rw [CaseTask.holds, Bool.and_eq_true, Bool.not_eq_true'] at holds ⊢
  refine ⟨entered ▸ holds.1, ?_⟩
  cases ended : before.state.phase.isOver with
  | false => rfl
  | true => rw [done ended, ended] at holds; exact absurd holds.2 (by simp)

theorem task_waits (before after : CaseTask) (act : CaseAct) (stepped : before.step act = some after)
    (entered : before.waits = false) : after.waits = false := by
  obtain ⟨_, _, same, _, done⟩ := task_step before after act stepped
  rw [CaseTask.waits, Bool.and_eq_false_iff] at entered ⊢
  rw [same]
  refine entered.imp_right fun isOver => ?_
  rw [Bool.not_eq_false'] at isOver ⊢
  rw [done isOver]
  exact isOver

end Conformance.Matrix
