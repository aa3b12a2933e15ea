import SendspinConformance.Harness.MatrixRun

set_option autoImplicit false

namespace Conformance.Matrix

open Python Base Comparison

def MatrixAct.within (place : Nat) : MatrixAct → Option CaseAct
  | .inCase other act => if other = place then some act else none
  | _ => none

-- What happened in one case.
def caseActs (place : Nat) (acts : List MatrixAct) : List CaseAct := acts.filterMap (MatrixAct.within place)

theorem case_acts_snoc (place : Nat) (acts : List MatrixAct) (act : MatrixAct) :
    caseActs place (acts ++ [act]) = caseActs place acts ++ (act.within place).toList := by
  rw [caseActs, List.filterMap_append]
  cases within : act.within place <;> simp [caseActs, within]

def InOrder (tasks : List CaseTask) : Prop :=
  tasks.Pairwise fun earlier later => later.entered = true → earlier.waits = false

variable [Host]

-- The tasks of a run and what happened in each.
structure Tracked (matrix : MatrixCases) (acts : List MatrixAct) (state : MatrixState) : Prop where
  settings : state.tasks.map CaseTask.setting = matrix.settings
  ran : ∀ (place : Nat) (task : CaseTask), state.tasks[place]? = some task →
    turns (CaseState.step task.setting) (.queued none) (caseActs place acts) = some task.state
  unentered : ∀ task ∈ state.tasks, task.entered = false → task.state.server = .fresh ∧ task.state.client = .fresh
  bound : state.tasks.countP CaseTask.holds ≤ matrix.jobs
  order : InOrder state.tasks
  index : ∀ results, state.index = some results → state.tasks.mapM CaseTask.result = some results

omit [Host] in
theorem holds_entered (task : CaseTask) (waits : task.waits = true) :
    task.holds = false ∧ CaseTask.holds { task with entered := true } = true ∧
      CaseTask.waits { task with entered := true } = false := by
  rw [CaseTask.waits, Bool.and_eq_true, Bool.not_eq_true'] at waits
  simp [CaseTask.holds, CaseTask.waits, waits.1, waits.2]

omit [Host] in
theorem result_ended (task : CaseTask) (result : CaseResult) (found : task.result = some result) :
    task.state.phase = .ended result := by
  rw [CaseTask.result] at found
  split at found
  · rename_i phase
    cases found
    exact phase
  · cases found

theorem queued_tracked (matrix : MatrixCases) : Tracked matrix [] (.gathered matrix) := by
  have fresh (task : CaseTask) (member : task ∈ (MatrixState.gathered matrix).tasks) :
      ∃ setting, task = .queued setting := by
    obtain ⟨setting, _, same⟩ := List.mem_map.mp member
    exact ⟨setting, same.symm⟩
  refine ⟨?_, ?_, ?_, ?_, ?_, ?_⟩
  · rw [MatrixState.gathered, List.map_map]
    exact List.map_id _
  · intro place task here
    obtain ⟨setting, rfl⟩ := fresh task (List.mem_of_getElem? here)
    rfl
  · intro task member _
    obtain ⟨setting, rfl⟩ := fresh task member
    exact ⟨rfl, rfl⟩
  · have nothing : (MatrixState.gathered matrix).tasks.countP CaseTask.holds = 0 := by
      rw [List.countP_eq_zero]
      intro task member
      obtain ⟨setting, rfl⟩ := fresh task member
      exact Bool.false_ne_true
    omega
  · rw [InOrder, List.pairwise_iff_forall_sublist]
    intro earlier later part entered
    obtain ⟨setting, rfl⟩ := fresh later (part.subset (by simp))
    cases entered
  · exact fun _ impossible => by cases impossible

theorem enter_tracked (matrix : MatrixCases) (acts : List MatrixAct) (before after : MatrixState)
    (tracked : Tracked matrix acts before) (stepped : before.step matrix.jobs .enter = some after) :
    Tracked matrix (acts ++ [.enter]) after := by
  rw [MatrixState.step] at stepped
  split at stepped
  · rename_i free
    rw [Option.map_eq_some_iff] at stepped
    obtain ⟨tasks, entered, rfl⟩ := stepped
    obtain ⟨earlier, task, later, split, passed, waits, rfl⟩ := enter_first_split before.tasks tasks entered
    obtain ⟨free_before, holding, waited⟩ := holds_entered task waits
    have order := tracked.order
    rw [split] at free
    rw [InOrder, split] at order
    refine ⟨?_, ?_, ?_, ?_, ?_, ?_⟩
    · rw [← tracked.settings, split]
      simp
    · intro place other here
      rw [case_acts_snoc]
      simp only [MatrixAct.within, Option.toList_none, List.append_nil]
      have same : (before.tasks[place]?).map (fun other => (other.setting, other.state)) =
          ((earlier ++ { task with entered := true } :: later)[place]?).map fun other => (other.setting, other.state) := by
        rw [split, ← List.getElem?_map, ← List.getElem?_map]
        simp
      rw [here, Option.map_some, Option.map_eq_some_iff] at same
      obtain ⟨known, there, equal⟩ := same
      simp only [Prod.mk.injEq] at equal
      rw [← equal.1, ← equal.2]
      exact tracked.ran place known there
    · intro other member notEntered
      rw [List.mem_append, List.mem_cons] at member
      rcases member with inEarlier | rfl | inLater
      · exact tracked.unentered other (by simp [split, inEarlier]) notEntered
      · cases notEntered
      · exact tracked.unentered other (by simp [split, inLater]) notEntered
    · simp only [List.countP_append, List.countP_cons, free_before, holding, if_true] at free ⊢
      omega
    · rw [InOrder, List.pairwise_append] at *
      obtain ⟨front, back, across⟩ := order
      rw [List.pairwise_cons] at back ⊢
      refine ⟨front, ⟨fun other member _ => waited, back.2⟩, ?_⟩
      intro other inEarlier next member isEntered
      exact passed other inEarlier
    · intro results written
      -- A task that waits has no result, so no index was written.
      obtain ⟨result, _, found⟩ := map_all_each _ _ _ (tracked.index results written) task (by simp [split])
      rw [CaseTask.waits, result_ended task result found] at waits
      simp [Phase.isOver] at waits
  · cases stepped

theorem cancel_keeps (setting : Setting) (before after : CaseState)
    (cancelled : before.step setting .cancel = some after) : after.server = before.server ∧ after.client = before.client := by
  rw [CaseState.step] at cancelled
  split at cancelled <;> cases cancelled
  exact ⟨rfl, rfl⟩

theorem in_case_tracked (matrix : MatrixCases) (acts : List MatrixAct) (place : Nat) (act : CaseAct)
    (before after : MatrixState) (tracked : Tracked matrix acts before)
    (stepped : before.step matrix.jobs (.inCase place act) = some after) :
    Tracked matrix (acts ++ [.inCase place act]) after := by
  simp only [MatrixState.step, Option.bind_eq_bind, Option.bind_eq_some_iff] at stepped
  obtain ⟨task, here, next, turned, made⟩ := stepped
  cases made
  obtain ⟨allowed, sameSetting, sameEntered, stepped, done⟩ := task_step task next act turned
  obtain ⟨earlier, later, split, replaced⟩ := set_split before.tasks place task here
  obtain ⟨inside, _⟩ := List.getElem?_eq_some_iff.mp here
  have order := tracked.order
  rw [InOrder, split, List.pairwise_append] at order
  refine ⟨?_, ?_, ?_, ?_, ?_, ?_⟩
  · rw [← tracked.settings, replaced, split]
    simp [sameSetting]
  · intro other known there
    rw [case_acts_snoc, List.getElem?_set] at *
    by_cases same : place = other
    · subst same
      rw [if_pos rfl, if_pos inside] at there
      cases there
      rw [MatrixAct.within, if_pos rfl, Option.toList_some, turns_snoc, sameSetting, tracked.ran place task here]
      exact stepped
    · rw [if_neg same] at there
      rw [MatrixAct.within, if_neg same, Option.toList_none, List.append_nil]
      exact tracked.ran other known there
  · intro known member notEntered
    rw [replaced, List.mem_append, List.mem_cons] at member
    rcases member with inEarlier | rfl | inLater
    · exact tracked.unentered known (by simp [split, inEarlier]) notEntered
    · have fresh := tracked.unentered task (by simp [split]) (sameEntered ▸ notEntered)
      rcases allowed with isEntered | rfl
      · rw [← sameEntered, notEntered] at isEntered
        cases isEntered
      · obtain ⟨sameServer, sameClient⟩ := cancel_keeps _ _ _ stepped
        rw [sameServer, sameClient]
        exact fresh
    · exact tracked.unentered known (by simp [split, inLater]) notEntered
  · have bound := tracked.bound
    have fewer := task_holds task next act turned
    rw [split] at bound
    rw [replaced]
    simp only [List.countP_append, List.countP_cons] at bound ⊢
    cases holds : next.holds with
    | false => simp only [Bool.false_eq_true, if_false]; omega
    | true => rw [fewer holds] at bound; exact bound
  · rw [InOrder, replaced, List.pairwise_append]
    obtain ⟨front, back, across⟩ := order
    rw [List.pairwise_cons] at back ⊢
    refine ⟨front, ⟨fun other member entered => task_waits task next act turned (back.1 other member entered), back.2⟩, ?_⟩
    intro first inEarlier second member entered
    rcases List.mem_cons.mp member with rfl | inLater
    · exact across first inEarlier task List.mem_cons_self (sameEntered ▸ entered)
    · exact across first inEarlier second (List.mem_cons_of_mem task inLater) entered
  · intro results written
    -- Every case has its result then, and nothing more happens in one that has it.
    obtain ⟨result, _, found⟩ := map_all_each _ _ _ (tracked.index results written) task (by simp [split])
    have ended := result_ended task result found
    have still := ended_still task.setting _ task.state result
      (ended_concluded task.setting none _ task.state result (tracked.ran place task here) ended) ended act
    rw [stepped] at still
    cases still

theorem finish_tracked (matrix : MatrixCases) (acts : List MatrixAct) (before after : MatrixState)
    (tracked : Tracked matrix acts before) (stepped : before.step matrix.jobs .finish = some after) :
    Tracked matrix (acts ++ [.finish]) after := by
  rw [MatrixState.step] at stepped
  split at stepped
  · rw [Option.map_eq_some_iff] at stepped
    obtain ⟨results, all, rfl⟩ := stepped
    refine ⟨tracked.settings, fun place task here => ?_, tracked.unentered, tracked.bound, tracked.order,
      fun _ written => by cases written; exact all⟩
    rw [case_acts_snoc]
    simpa [MatrixAct.within] using tracked.ran place task here
  · cases stepped

theorem matrix_tracked (matrix : MatrixCases) (acts : List MatrixAct) (state : MatrixState)
    (ran : turns (MatrixState.step matrix.jobs) (.gathered matrix) acts = some state) : Tracked matrix acts state := by
  apply turns_invariant _ _ (Tracked matrix) (queued_tracked matrix) _ acts state ran
  intro acts before act after _ tracked stepped
  cases act with
  | enter => exact enter_tracked matrix acts before after tracked stepped
  | inCase place act => exact in_case_tracked matrix acts place act before after tracked stepped
  | finish => exact finish_tracked matrix acts before after tracked stepped

end Conformance.Matrix
