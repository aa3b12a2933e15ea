import SendspinConformance.Harness.CaseConcluded

set_option autoImplicit false

namespace Conformance.Matrix

open Python Base Comparison

variable [Host]

-- The case can come to its result from here, no task being cancelled.
def Finishes (setting : Setting) (state : CaseState) : Prop :=
  ∃ more after result, turns (CaseState.step setting) state more = some after ∧ after.phase = .ended result ∧
    .cancel ∉ more

theorem finishes_first (setting : Setting) (before after : CaseState) (act : CaseAct) (notCancel : act ≠ .cancel)
    (stepped : before.step setting act = some after) (finishes : Finishes setting after) : Finishes setting before := by
  obtain ⟨more, last, result, ran, ended, uncancelled⟩ := finishes
  refine ⟨act :: more, last, result, ?_, ended, ?_⟩
  · rw [turns_cons, stepped]
    exact ran
  · exact fun cancelled => (List.mem_cons.mp cancelled).elim (fun same => notCancel same.symm) uncancelled

theorem finishes_concluded (setting : Setting) (state : CaseState) (result : CaseResult)
    (concluded : state.proceed setting = some (state.conclude result)) : Finishes setting state := by
  refine ⟨[.proceed], state.conclude result, result, ?_, rfl, by simp⟩
  rw [turns_cons, CaseState.step, concluded]
  rfl

-- An adapter that runs can exit.
theorem finishes_exited (setting : Setting) (state : CaseState) (role : RoleName)
    (later : ∀ adapter, adapter.isRunning = false →
      (adapter.process = .absent → (state.adapter role).process = .absent) →
      Finishes setting (state.setAdapter role adapter)) : Finishes setting state := by
  by_cases running : (state.adapter role).isRunning = true
  · apply finishes_first setting state _ (.exits role 0) (fun impossible => by cases impossible) (if_pos running)
    exact later _ rfl fun impossible => by cases impossible
  · have here := later (state.adapter role) (by simpa using running) id
    cases role <;> exact here

theorem reaping_finishes (setting : Setting) (raised : PyError) (server client : Adapter)
    (resultFile : Option CaseResult) : Finishes setting ⟨.reaping raised, server, client, resultFile⟩ := by
  apply finishes_exited setting _ .server
  intro serverEnded notServer _
  apply finishes_exited setting _ .client
  intro clientEnded notClient _
  apply finishes_concluded setting _ (setting.case.caseResult .failed (incompleteCaseReason serverEnded clientEnded
    (if raised.text.isEmpty then raised.type else raised.text)) serverEnded.returncode clientEnded.returncode)
  simp only [CaseState.proceed, CaseState.setAdapter, notServer, notClient, Bool.or_self, Bool.false_eq_true, if_false]

theorem fail_reaping_finishes (setting : Setting) (role : RoleName) (unsupported : Bool) (raised : PyError)
    (server client : Adapter) (resultFile : Option CaseResult)
    (present : (CaseState.adapter ⟨.failReaping role unsupported raised, server, client, resultFile⟩ role).process ≠
      .absent) : Finishes setting ⟨.failReaping role unsupported raised, server, client, resultFile⟩ := by
  apply finishes_exited setting _ role
  intro adapter notRunning notAbsent
  obtain ⟨process, ready, summary⟩ := adapter
  cases process with
  | absent => exact absurd (notAbsent rfl) present
  | running => cases notRunning
  | exited code => cases role <;> exact ⟨[.proceed], _, _, rfl, rfl, by simp⟩

theorem waiting_finishes (setting : Setting) (acts : List CaseAct) (state : CaseState)
    (known : Known setting acts state state.phase) (begun : state.phase ≠ .begun) (held : state.phase ≠ .escaped) :
    Finishes setting state := by
  obtain ⟨phase, server, client, resultFile⟩ := state
  have expires (raised : PyError) (timed : setting.timeoutOf phase = some raised)
      (later : Finishes setting ⟨phase.raising raised, server, client, resultFile⟩) :
      Finishes setting ⟨phase, server, client, resultFile⟩ := by
    apply finishes_first setting _ _ .expire (fun impossible => by cases impossible) _ later
    rw [CaseState.step, timed]
    rfl
  cases phase with
  | begun => exact absurd rfl begun
  | failReady role unsupported =>
      apply expires _ rfl
      apply fail_reaping_finishes
      cases role <;> exact known.2.2
  | failExit role unsupported =>
      apply expires _ rfl
      apply fail_reaping_finishes
      cases role <;> exact known.2.2
  | failReaping role unsupported raised => exact fail_reaping_finishes setting role unsupported raised _ _ _ known.2.2
  | serverReady => exact expires _ rfl (reaping_finishes setting _ _ _ _)
  | clientReady => exact expires _ rfl (reaping_finishes setting _ _ _ _)
  | serverExit => exact expires _ rfl (reaping_finishes setting _ _ _ _)
  | clientExit => exact expires _ rfl (reaping_finishes setting _ _ _ _)
  | reaping raised => exact reaping_finishes setting raised server client resultFile
  | ended result => exact ⟨[], _, result, rfl, rfl, by simp⟩
  | escaped => exact absurd rfl held

theorem begin_phase (setting : Setting) :
    (CaseState.begin setting).phase ≠ .begun ∧ (CaseState.begin setting).phase ≠ .escaped := by
  rw [CaseState.begin]
  cases setting.plan with
  | failFast role unsupported failureReason =>
      dsimp only
      split <;> (constructor <;> intro impossible <;> cases impossible)
  | notLaunched reason => constructor <;> intro impossible <;> cases impossible
  | launch => constructor <;> intro impossible <;> cases impossible

theorem case_finishes (setting : Setting) (acts : List CaseAct) (state : CaseState)
    (known : Known setting acts state state.phase) (held : state.phase ≠ .escaped) : Finishes setting state := by
  by_cases begun : state.phase = .begun
  · apply finishes_first setting state (.begin setting) .proceed (fun impossible => by cases impossible)
    · rw [CaseState.step, CaseState.proceed, begun]
    · have phase := begin_phase setting
      exact waiting_finishes setting [] _ (begin_known setting [] fun _ member => (List.not_mem_nil member).elim)
        phase.1 phase.2
  · exact waiting_finishes setting acts state known begun held

end Conformance.Matrix
