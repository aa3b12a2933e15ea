import SendspinConformance.Harness.MatrixAccounted

set_option autoImplicit false

namespace Conformance.Matrix

open Python Base Comparison

def CaseTask.runningAdapters (task : CaseTask) : Nat :=
  task.state.server.isRunning.toNat + task.state.client.isRunning.toNat

-- What main returns for the results of a run.
def runExitCode (results : List CaseResult) : Nat :=
  if results.any fun result => result.status = .failed then 1 else 0

theorem sum_at_most (tasks : List CaseTask) (each : ∀ task ∈ tasks, task.runningAdapters ≤ 2 * task.holds.toNat) :
    (tasks.map CaseTask.runningAdapters).sum ≤ 2 * tasks.countP CaseTask.holds := by
  induction tasks with
  | nil => exact Nat.le_refl 0
  | cons task rest ih =>
      have later := ih fun other member => each other (List.mem_cons_of_mem task member)
      have here := each task List.mem_cons_self
      rw [List.map_cons, List.sum_cons, List.countP_cons]
      cases holds : task.holds with
      | false =>
          rw [holds, Bool.toNat_false] at here
          simp only [Bool.false_eq_true, if_false]
          omega
      | true =>
          rw [holds, Bool.toNat_true] at here
          simp only [if_true]
          omega

variable [Host]

-- What is known of a matrix after any run: how much of it is under way, and what its index says once it is written.
structure Accounted (matrix : MatrixCases) (acts : List MatrixAct) (state : MatrixState) : Prop where
  bound : state.tasks.countP CaseTask.holds ≤ matrix.jobs
  adapters : (∀ place, .inCase place .cancel ∉ acts) →
    (state.tasks.map CaseTask.runningAdapters).sum ≤ 2 * matrix.jobs
  order : InOrder state.tasks
  indexed : ∀ results, state.index = some results → results.length = matrix.settings.length ∧
    ∀ (place : Nat) (setting : Setting), matrix.settings[place]? = some setting → ∃ task result,
      state.tasks[place]? = some task ∧ results[place]? = some result ∧
        Concluded setting (caseActs place acts) task.state result
  exitCode : ∀ results, state.index = some results →
    (runExitCode results = 0 ↔ ∀ result ∈ results, result.status = .passed)

theorem tracked_result (matrix : MatrixCases) (acts : List MatrixAct) (state : MatrixState)
    (tracked : Tracked matrix acts state) (place : Nat) (task : CaseTask) (result : CaseResult)
    (here : state.tasks[place]? = some task) (found : task.result = some result) :
    Concluded task.setting (caseActs place acts) task.state result :=
  ended_concluded task.setting none _ task.state result (tracked.ran place task here) (result_ended task result found)

-- A task that does not hold the semaphore has no adapter that runs.
theorem tracked_adapters (matrix : MatrixCases) (acts : List MatrixAct) (state : MatrixState)
    (tracked : Tracked matrix acts state) (uncancelled : ∀ place, .inCase place .cancel ∉ acts) (task : CaseTask)
    (member : task ∈ state.tasks) : task.runningAdapters ≤ 2 * task.holds.toNat := by
  obtain ⟨place, here⟩ := List.mem_iff_getElem?.mp member
  have atMost : task.runningAdapters ≤ 2 := by
    have server := Bool.toNat_le task.state.server.isRunning
    have client := Bool.toNat_le task.state.client.isRunning
    rw [CaseTask.runningAdapters]
    omega
  have none_runs (ended : task.state.server.isRunning = false ∧ task.state.client.isRunning = false) :
      task.runningAdapters = 0 := by
    rw [CaseTask.runningAdapters, ended.1, ended.2]
    rfl
  cases holds : task.holds with
  | true => exact atMost
  | false =>
      apply Nat.le_of_eq
      apply none_runs
      cases entered : task.entered with
      | false =>
          obtain ⟨server, client⟩ := tracked.unentered task member entered
          rw [server, client]
          exact ⟨rfl, rfl⟩
      | true =>
          have known := case_known task.setting none _ task.state (tracked.ran place task here)
          rw [CaseTask.holds, entered, Bool.true_and, Bool.not_eq_false'] at holds
          cases phase : task.state.phase with
          | ended result =>
              rw [phase] at known
              exact known.ended
          | escaped =>
              rw [phase] at known
              refine known.resolve_left fun cancelled => ?_
              obtain ⟨act, made, within⟩ := List.mem_filterMap.mp cancelled
              cases act with
              | inCase other act =>
                  rw [MatrixAct.within] at within
                  split at within <;> cases within
                  exact uncancelled other made
              | enter => cases within
              | finish => cases within
          | _ =>
              rw [phase] at holds
              cases holds

theorem cases_accounted (matrix : MatrixCases) (acts : List MatrixAct) (state : MatrixState)
    (ran : turns (MatrixState.step matrix.jobs) (.gathered matrix) acts = some state) : Accounted matrix acts state := by
  have tracked := matrix_tracked matrix acts state ran
  refine ⟨tracked.bound, fun uncancelled => ?_, tracked.order, fun results written => ?_, fun results written => ?_⟩
  · have counted := sum_at_most state.tasks fun task member =>
      tracked_adapters matrix acts state tracked uncancelled task member
    have bound := tracked.bound
    omega
  · have matched := (map_all_matched _ _ _).mp (tracked.index results written)
    constructor
    · rw [← matched.length_eq, ← tracked.settings, List.length_map]
    · intro place setting here
      rw [← tracked.settings, List.getElem?_map, Option.map_eq_some_iff] at here
      obtain ⟨task, there, rfl⟩ := here
      obtain ⟨inside, isTask⟩ := List.getElem?_eq_some_iff.mp there
      have found := matched.get inside (matched.length_eq ▸ inside)
      rw [List.get_eq_getElem, List.get_eq_getElem, isTask] at found
      exact ⟨task, _, there, List.getElem?_eq_getElem _, tracked_result matrix acts state tracked place task _ there found⟩
  · rw [runExitCode]
    have judged (result : CaseResult) (member : result ∈ results) : result.status = .passed ∨ result.status = .failed := by
      obtain ⟨place, inside, isResult⟩ := List.getElem_of_mem member
      have matched := (map_all_matched _ _ _).mp (tracked.index results written)
      have found := matched.get (matched.length_eq ▸ inside) inside
      rw [List.get_eq_getElem, List.get_eq_getElem, isResult] at found
      exact (tracked_result matrix acts state tracked place _ result (List.getElem?_eq_getElem _) found).judged
    split
    · rename_i someFailed
      obtain ⟨result, member, failed⟩ := List.any_eq_true.mp someFailed
      constructor
      · exact fun impossible => by cases impossible
      · intro passed
        cases (of_decide_eq_true failed).symm.trans (passed result member)
    · rename_i noneFailed
      refine ⟨fun _ result member => (judged result member).resolve_right fun failed => ?_, fun _ => rfl⟩
      exact noneFailed (List.any_eq_true.mpr ⟨result, member, decide_eq_true failed⟩)

-- Whatever order the cases that run_matrix gathers take their turns in.
theorem matrix_accounted (call : MatrixCall) (cases : List CaseContext) (gathers : call.Gathers cases)
    (acts : List MatrixAct) (state : MatrixState)
    (ran : turns (MatrixState.step call.jobs.toNat) (.gathered (call.matrix cases gathers)) acts = some state) :
    Accounted (call.matrix cases gathers) acts state :=
  cases_accounted (call.matrix cases gathers) acts state ran

-- A server that meets two clients in the metadata scenario
def duetRegistry : Registry where
  implementations :=
    let role : RoleSpec := { supported := true, supportsServerInitiated := true, supportedRoleFamilies := [.metadata] }
    [⟨"one", unsupportedRole, role⟩, ⟨"two", role, unsupportedRole⟩, ⟨"three", role, unsupportedRole⟩]
  scenarios := [⟨"server-initiated-metadata", .server, "none", [.metadata], false⟩]
  namesDistinct := by decide
  namesPlain := by decide
  idsDistinct := by decide

def duetCall : MatrixCall where
  registry := duetRegistry
  machine :=
    { environmentName := "Local", resultsPath := "results", timeoutText := "30", scenarioRevision := fun _ => 1
      verification := fun _ => { verificationMode := .metadata }, builds := fun _ _ => none
      commands := fun _ _ => true, entrypoints := fun _ _ => true }
  resultsDir := ["results"]
  environmentId := "local"
  fromFilter := some "one"
  toFilter := some "two,three"
  jobs := 2

def duetCase (slotIndex : Nat) (clientImpl : String) : CaseContext :=
  { resultsDir := ["results", "data"], environmentId := "local", serverImpl := "one", clientImpl, slotIndex
    scenario := ⟨"server-initiated-metadata", .server, "none", [.metadata], false⟩ }

def duetCases : List CaseContext := [duetCase 0 "two", duetCase 1 "three"]

omit [Host] in
theorem duet_gathers : @MatrixCall.Gathers plainHost.toUnicodeData duetCall duetCases := by
  refine @MatrixCall.Gathers.mk plainHost.toUnicodeData _ _ rfl ?_
  intro serverNames clientNames parsedFrom parsedTo
  have servers : serverNames = ["one"] := (Except.ok.inj parsedFrom).symm
  have clients : clientNames = ["two", "three"] := (Except.ok.inj parsedTo).symm
  subst servers clients
  intro scenario _ server isServer client isClient _ _
  rw [List.mem_singleton.mp isServer]
  simp only [List.mem_cons, List.not_mem_nil, or_false] at isClient
  rcases isClient with rfl | rfl <;> decide

-- The second case begins while the first one's adapters run, and ends before it.
def duetActs : List MatrixAct :=
  [.enter, .enter] ++ (metadataActs.take 5).map (.inCase 0) ++ metadataActs.map (.inCase 1) ++
    (metadataActs.drop 5).map (.inCase 0) ++ [.finish]

omit [Host] in
theorem duet_accounted :
    ∃ state results, @turns _ _ (@MatrixState.step plainHost 2)
        (.gathered (@MatrixCall.matrix plainHost.toUnicodeData duetCall duetCases duet_gathers)) duetActs = some state ∧
      state.index = some results ∧ results.map (fun result => (result.clientImpl, result.status)) =
        [("two", .passed), ("three", .passed)] ∧
      @Accounted plainHost (@MatrixCall.matrix plainHost.toUnicodeData duetCall duetCases duet_gathers) duetActs state :=
  ⟨_, _, rfl, rfl, rfl, @matrix_accounted plainHost duetCall duetCases duet_gathers duetActs _ rfl⟩

-- What happens in one case that has entered, as turns of the matrix.
theorem lifted (jobs : Nat) (more : List CaseAct) (state : MatrixState) (place : Nat) (task : CaseTask)
    (after : CaseState) (here : state.tasks[place]? = some task) (entered : task.entered = true)
    (ran : turns (CaseState.step task.setting) task.state more = some after) :
    turns (MatrixState.step jobs) state (more.map (.inCase place)) =
      some { state with tasks := state.tasks.set place { task with state := after } } := by
  obtain ⟨inside, isTask⟩ := List.getElem?_eq_some_iff.mp here
  induction more generalizing state task with
  | nil =>
      cases ran
      have same : state.tasks.set place task = state.tasks := by rw [← isTask, List.set_getElem_self]
      exact congrArg some (congrArg (MatrixState.mk · state.index) same.symm)
  | cons act rest ih =>
      rw [turns_cons, Option.bind_eq_some_iff] at ran
      obtain ⟨next, stepped, later⟩ := ran
      have turned : state.step jobs (.inCase place act) =
          some { state with tasks := state.tasks.set place { task with state := next } } := by
        rw [MatrixState.step, here, Option.bind_eq_bind, Option.bind_some, CaseTask.step, entered, stepped]
        rfl
      have inNext : place < (state.tasks.set place { task with state := next }).length := by
        rwa [List.length_set]
      have goesOn := ih { state with tasks := state.tasks.set place { task with state := next } }
        { task with state := next } (by rw [List.getElem?_set, if_pos rfl, if_pos inside]) entered later inNext
        (List.getElem_set_self inNext)
      rw [List.map_cons, turns_cons, turned, Option.bind_some, goesOn, List.set_set]

omit [Host] in
def MatrixState.unfinished (state : MatrixState) : Nat := state.tasks.countP fun task => task.result.isNone

-- A case under way comes to its result, and the others are as they were.
theorem one_finishes (matrix : MatrixCases) (acts : List MatrixAct) (state : MatrixState)
    (ran : turns (MatrixState.step matrix.jobs) (.gathered matrix) acts = some state) (place : Nat) (task : CaseTask)
    (here : state.tasks[place]? = some task) (entered : task.entered = true) (pending : task.result = none)
    (held : ∀ task ∈ state.tasks, task.state.phase ≠ .escaped) :
    ∃ more after, turns (MatrixState.step matrix.jobs) state more = some after ∧
      after.unfinished + 1 = state.unfinished ∧ ∀ task ∈ after.tasks, task.state.phase ≠ .escaped := by
  have tracked := matrix_tracked matrix acts state ran
  obtain ⟨more, after, result, finished, ended, _⟩ := case_finishes task.setting _ task.state
    (case_known task.setting none _ task.state (tracked.ran place task here)) (held task (List.mem_of_getElem? here))
  obtain ⟨earlier, later, split, replaced⟩ := set_split state.tasks place task here
  refine ⟨more.map (.inCase place), _, lifted matrix.jobs more state place task after here entered finished, ?_, ?_⟩
  · have given : CaseTask.result { task with state := after } = some result := by rw [CaseTask.result, ended]
    rw [MatrixState.unfinished, MatrixState.unfinished, replaced, split]
    simp only [List.countP_append, List.countP_cons, given, pending, Option.isNone_some, Option.isNone_none,
      Bool.false_eq_true, if_false, if_true]
    omega
  · intro other member
    rw [replaced, List.mem_append, List.mem_cons] at member
    rcases member with inEarlier | rfl | inLater
    · exact held other (by simp [split, inEarlier])
    · rw [ended]
      exact fun impossible => by cases impossible
    · exact held other (by simp [split, inLater])

-- Where no case is under way, the next one that waits can enter.
theorem next_enters (matrix : MatrixCases) (state : MatrixState) (task : CaseTask) (member : task ∈ state.tasks)
    (pending : task.result = none) (held : ∀ task ∈ state.tasks, task.state.phase ≠ .escaped)
    (idle : ∀ task ∈ state.tasks, task.result = none → task.entered = false) :
    ∃ after, state.step matrix.jobs .enter = some after ∧ after.unfinished = state.unfinished ∧
      (∀ task ∈ after.tasks, task.state.phase ≠ .escaped) ∧
      ∃ task ∈ after.tasks, task.entered = true ∧ task.result = none := by
  have going (task : CaseTask) (member : task ∈ state.tasks) (pending : task.result = none) :
      task.state.phase.isOver = false := by
    cases phase : task.state.phase with
    | ended result =>
        rw [CaseTask.result, phase] at pending
        cases pending
    | escaped => exact absurd phase (held task member)
    | _ => rfl
  have waits : task.waits = true := by
    rw [CaseTask.waits, idle task member pending, going task member pending]
    rfl
  have nobody : state.tasks.countP CaseTask.holds = 0 := by
    rw [List.countP_eq_zero]
    intro other known holds
    rw [CaseTask.holds, Bool.and_eq_true, Bool.not_eq_true'] at holds
    cases given : other.result with
    | none =>
        rw [idle other known given] at holds
        exact Bool.false_ne_true holds.1
    | some result =>
        rw [result_ended other result given] at holds
        exact absurd holds.2 (by simp [Phase.isOver])
  obtain ⟨tasks, entered⟩ := enter_first_some state.tasks task member waits
  obtain ⟨earlier, first, later, split, _, firstWaits, rfl⟩ := enter_first_split state.tasks tasks entered
  have firstOpen : first.result = none := by
    cases given : first.result with
    | none => rfl
    | some result =>
        rw [CaseTask.waits, result_ended first result given] at firstWaits
        simp [Phase.isOver] at firstWaits
  refine ⟨{ state with tasks := earlier ++ { first with entered := true } :: later }, ?_, ?_, ?_, ?_⟩
  · rw [MatrixState.step, nobody, if_pos matrix.positive, entered]
    rfl
  · rw [MatrixState.unfinished, MatrixState.unfinished, split]
    simp [List.countP_append, List.countP_cons, CaseTask.result]
  · intro other known
    rcases List.mem_append.mp known with inEarlier | inRest
    · exact held other (by simp [split, inEarlier])
    · rcases List.mem_cons.mp inRest with rfl | inLater
      · exact held first (by simp [split])
      · exact held other (by simp [split, inLater])
  · exact ⟨{ first with entered := true }, by simp, rfl, firstOpen⟩

-- As long as no case escapes, a run of the matrix can come to its index, whatever happened before.
theorem matrix_completes (matrix : MatrixCases) (acts : List MatrixAct) (state : MatrixState)
    (ran : turns (MatrixState.step matrix.jobs) (.gathered matrix) acts = some state)
    (held : ∀ task ∈ state.tasks, task.state.phase ≠ .escaped) :
    ∃ more after results, turns (MatrixState.step matrix.jobs) state more = some after ∧ after.index = some results := by
  generalize size : state.unfinished = count
  induction count using Nat.strongRecOn generalizing acts state with
  | ind count ih =>
      have afterOne (acts : List MatrixAct) (state : MatrixState)
          (ran : turns (MatrixState.step matrix.jobs) (.gathered matrix) acts = some state)
          (held : ∀ task ∈ state.tasks, task.state.phase ≠ .escaped) (same : state.unfinished = count)
          (task : CaseTask) (member : task ∈ state.tasks) (entered : task.entered = true) (pending : task.result = none) :
          ∃ more after results, turns (MatrixState.step matrix.jobs) state more = some after ∧
            after.index = some results := by
        obtain ⟨place, here⟩ := List.mem_iff_getElem?.mp member
        obtain ⟨more, between, went, fewer, still⟩ :=
          one_finishes matrix acts state ran place task here entered pending held
        obtain ⟨rest, after, results, goesOn, written⟩ := ih between.unfinished (by omega) (acts ++ more) between
          (by rw [turns_append, ran]; exact went) still rfl
        exact ⟨more ++ rest, after, results, by rw [turns_append, went]; exact goesOn, written⟩
      by_cases some_open : ∃ task ∈ state.tasks, task.result = none
      · obtain ⟨task, member, pending⟩ := some_open
        by_cases under_way : ∃ task ∈ state.tasks, task.entered = true ∧ task.result = none
        · obtain ⟨first, known, entered, firstOpen⟩ := under_way
          exact afterOne acts state ran held size first known entered firstOpen
        · have idle (other : CaseTask) (known : other ∈ state.tasks) (none : other.result = none) :
              other.entered = false := by
            cases entered : other.entered with
            | false => rfl
            | true => exact absurd ⟨other, known, entered, none⟩ under_way
          obtain ⟨between, stepped, same, still, first, known, entered, firstOpen⟩ :=
            next_enters matrix state task member pending held idle
          obtain ⟨more, after, results, goesOn, written⟩ := afterOne (acts ++ [.enter]) between
            (by rw [turns_snoc, ran]; exact stepped) still (by omega) first known entered firstOpen
          exact ⟨.enter :: more, after, results, by rw [turns_cons, stepped]; exact goesOn, written⟩
      · cases index : state.index with
        | some results => exact ⟨[], state, results, rfl, index⟩
        | none =>
            obtain ⟨results, gave⟩ := map_all_given CaseTask.result state.tasks fun task member none =>
              some_open ⟨task, member, none⟩
            refine ⟨[.finish], { state with index := some results }, results, ?_, rfl⟩
            rw [turns_cons, MatrixState.step, index, gave]
            rfl

omit [Host] in
-- One case is under way and the other waits.
theorem duet_completes :
    ∃ state, @turns _ _ (@MatrixState.step plainHost 2)
        (.gathered (@MatrixCall.matrix plainHost.toUnicodeData duetCall duetCases duet_gathers))
        [.enter, .inCase 0 .proceed] = some state ∧ state.index = none ∧
      ∃ more after results, @turns _ _ (@MatrixState.step plainHost 2) state more = some after ∧
        after.index = some results := by
  refine ⟨_, rfl, rfl, @matrix_completes plainHost
    (@MatrixCall.matrix plainHost.toUnicodeData duetCall duetCases duet_gathers) [.enter, .inCase 0 .proceed] _ rfl ?_⟩
  have both (tasks : List CaseTask) (first second : CaseTask) (same : tasks = [first, second])
      (here : first.state.phase ≠ .escaped) (there : second.state.phase ≠ .escaped) :
      ∀ task ∈ tasks, task.state.phase ≠ .escaped := by
    rw [same, List.forall_mem_cons, List.forall_mem_singleton]
    exact ⟨here, there⟩
  exact both _ _ _ rfl (fun impossible => by cases impossible) (fun impossible => by cases impossible)

end Conformance.Matrix
