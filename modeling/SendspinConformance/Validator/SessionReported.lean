import Mathlib.Data.List.Dedup
import Mathlib.Data.List.Flatten
import SendspinConformance.Validator.Reconnected
import SendspinConformance.Validator.SessionJudged
import SendspinConformance.Validator.SessionReport
import SendspinConformance.Validator.StepsReported

set_option autoImplicit false

namespace Conformance.Validator.Session

open Python Base CodePairing SuiteRunner

-- The ids of the checks of the opening, which no TXT name changes.
def coreIds : List String := (@checks noUnicode none).map Prod.fst

def stepIds (steps : List Step) : List String := steps.flatMap Step.checks

def allSteps : List Step := suiteSteps .unpaired ++ (suiteSteps .pairing ++ suiteSteps .postPairing)

theorem all_ids_distinct : (coreIds ++ stepIds allSteps).Nodup := by decide +kernel

theorem steps_of_sublist (options : SuiteOptions) (suite : Suite) : (stepsOf options suite).Sublist (suiteSteps suite) := by
  rw [stepsOf]
  split
  · exact List.Sublist.refl _
  · exact List.nil_sublist _

theorem selected_sublist (options : SuiteOptions) : (selectedSteps options).Sublist allSteps :=
  (steps_of_sublist options .unpaired).append
    ((steps_of_sublist options .pairing).append (steps_of_sublist options .postPairing))

theorem core_ids_of [UnicodeData] (txtName : Option String) : (checks txtName).map Prod.fst = coreIds := by
  simp only [checks, coreIds, List.map_cons, List.map_nil]

theorem sorted_perm (findings : List Finding) : (sortFindings findings).Perm findings := List.perm_insertionSort _ _

theorem sorted_ordered (findings : List Finding) :
    (sortFindings findings).Pairwise fun first second => findingKey first ≤ findingKey second := by
  have total : Std.Total fun first second : Finding => findingKey first ≤ findingKey second := ⟨fun _ _ => le_total _ _⟩
  have transitive : IsTrans Finding fun first second => findingKey first ≤ findingKey second :=
    ⟨fun _ _ _ => le_trans⟩
  exact List.pairwise_insertionSort _ _

def Failing (finding : Finding) : Prop := finding.verdict = .fail ∨ finding.verdict = .toolError

-- Every finding is counted, under its verdict.
theorem summarized (findings : List Finding) :
    ((summarize findings).map Prod.snd).foldr (· + ·) 0 = findings.length := by
  induction findings with
  | nil => rfl
  | cons finding rest ih =>
      simp only [summarize, summaryKeys, List.map_cons, List.map_nil, List.foldr_cons, List.foldr_nil, List.countP_cons,
        List.length_cons] at ih ⊢
      rw [← ih]
      cases finding.verdict <;> simp <;> omega

theorem count_of (findings : List Finding) (verdict : Verdict) (key : String) (listed : (verdict, key) ∈ summaryKeys) :
    ((summarize findings).lookup key).getD 0 = findings.countP fun finding => finding.verdict == verdict := by
  simp only [summaryKeys, List.mem_cons, Prod.mk.injEq, List.not_mem_nil, or_false] at listed
  rcases listed with ⟨rfl, rfl⟩ | ⟨rfl, rfl⟩ | ⟨rfl, rfl⟩ | ⟨rfl, rfl⟩ | ⟨rfl, rfl⟩ | ⟨rfl, rfl⟩ <;> rfl

theorem exit_findings_iff (findings : List Finding) :
    (buildReport findings).exitStatus = exitFindings ↔ ∃ finding ∈ findings, Failing finding := by
  have counted (verdict : Verdict) (key : String) (listed : (verdict, key) ∈ summaryKeys) :
      (buildReport findings).count key ≠ 0 ↔ ∃ finding ∈ findings, finding.verdict = verdict := by
    rw [Report.count, buildReport, count_of _ verdict key listed, (sorted_perm findings).countP_eq, ← Nat.pos_iff_ne_zero,
      List.countP_pos_iff]
    simp
  have either : (buildReport findings).count "fail" ≠ 0 ∨ (buildReport findings).count "tool_error" ≠ 0 ↔
      ∃ finding ∈ findings, Failing finding := by
    rw [counted .fail "fail" (by decide), counted .toolError "tool_error" (by decide), ← exists_or]
    simp only [Failing, ← and_or_left]
  rw [Report.exitStatus, ← either]
  split
  · exact iff_of_true rfl ‹_›
  · exact iff_of_false (by decide) ‹_›

-- Whether the suites run on the client that was observed.
def suitesClient (options : SuiteOptions) (world : World) (result : SessionResult) : Option String :=
  if options.suites.isEmpty then none else observedClient world result.connection

theorem blocks_ids (steps : List Step) (blocks : List (List Finding)) (contributed : List.Forall₂ Contributes steps blocks) :
    (idsOf blocks.flatten).Perm (stepIds steps) := by
  induction contributed with
  | nil => exact List.Perm.refl _
  | cons here _ ih =>
      rw [List.flatten_cons, idsOf, List.map_append, stepIds, List.flatMap_cons]
      exact List.Perm.append here ih

section

variable [UnicodeData]

theorem runner_findings_ids (link : Link) (options : SuiteOptions) (world last : World) (findings : List Finding)
    (ran : (runnerFindings link options).from world = some (.ok findings, last)) :
    (idsOf findings).Perm (stepIds (selectedSteps options)) := by
  rw [runnerFindings, from_opened, Option.map_eq_some_iff] at ran
  obtain ⟨⟨ended, reported, between⟩, ran, same⟩ := ran
  cases same
  rw [from_bind] at ran
  cases started : (SuiteRunner.run link options).from ([], world) with
  | none => simp [started] at ran
  | some outcome =>
      obtain ⟨ended, held⟩ := outcome
      cases ended with
      | error raised => simp [started] at ran
      | ok value =>
          rw [started] at ran
          cases ran
          obtain ⟨_, returned⟩ := run_reports link options _ _ _ started
          obtain ⟨blocks, grown, contributed⟩ := returned _ rfl
          rw [grown]
          exact blocks_ids _ _ contributed

-- What a session has once its suites ended, where they ran.
structure SuitesRan (tool : Tool) (options : SuiteOptions) (result : SessionResult) (last : World)
    (final : SessionResult) (clientId : String) : Prop where
  later : final.laterConnections = (tool.link clientId result).connectionsSince last result.connection
  reported : (idsOf final.findings).Perm (stepIds (selectedSteps options))

theorem suites_on_ran (tool : Tool) (options : SuiteOptions) (result final : SessionResult) (clientId : String)
    (world last : World) (ran : (runSuitesOn tool options result clientId).from world = some (.ok final, last)) :
    final.connection = result.connection ∧ final.txtName = result.txtName ∧
      SuitesRan tool options result last final clientId := by
  rw [runSuitesOn, from_bind] at ran
  cases started : (runnerFindings (tool.link clientId result) options).from world with
  | none => simp [started] at ran
  | some outcome =>
      obtain ⟨ended, between⟩ := outcome
      cases ended with
      | error raised => simp [started] at ran
      | ok findings =>
          rw [started] at ran
          cases ran
          exact ⟨rfl, rfl, rfl, runner_findings_ids _ _ _ _ _ started⟩

theorem after_opening_ran (tool : Tool) (options : SuiteOptions) (result final : SessionResult) (world last : World)
    (ran : (afterOpening tool options result).from world = some (.ok final, last)) :
    final.connection = result.connection ∧ final.txtName = result.txtName ∧
      (suitesClient options world result = none → final = result ∧ last = world) ∧
      ∀ clientId, suitesClient options world result = some clientId →
        SuitesRan tool options result last final clientId := by
  rw [afterOpening] at ran
  rw [suitesClient]
  split at ran
  · rename_i unselected
    cases ran
    simp [unselected]
  · rename_i selected
    rw [if_neg selected]
    have read (next : World → Action SessionResult) :
        (Program.current >>= next).from world = (next world).from world := rfl
    rw [runSuites, read] at ran
    cases observed : observedClient world result.connection with
    | none =>
        rw [observed] at ran
        cases ran
        simp
    | some clientId =>
        rw [observed] at ran
        obtain ⟨same, named, done⟩ := suites_on_ran tool options result final clientId world last ran
        exact ⟨same, named, by simp, by simpa using done⟩

omit [UnicodeData] in
-- A violation that is left to CORE-NOISE-001, which does not judge the connection it is on.
def LostNoise (closed : World) (connection : Nat) (observation : RecordedNoncompliance) : Prop :=
  observation.reason = noisePayloadReason ∧
    ¬(observation.connection = some connection ∧ ∃ frame ∈ closed.recorder.frames, IsNoiseMessage2 connection frame)

omit [UnicodeData] in
-- A connection of the client under test: the observed one, or a later one it opened for the suites.
def UnderTest (tool : Tool) (options : SuiteOptions) (result : SessionResult) (world last : World) (number : Nat) : Prop :=
  number = result.connection ∨ ∃ clientId, suitesClient options world result = some clientId ∧
    ∃ frame ∈ last.recorder.frames, frame.connection = number ∧
      (tool.link clientId result).opens result.connection frame = true

-- What the report says of everything a session recorded: the suites began in `world` and ended in `last`,
-- the report reads `closed`.
structure Accounted (tool : Tool) (options : SuiteOptions) (result : SessionResult) (world last closed : World)
    (report : Report) : Prop where
  ordered : report.findings.Pairwise fun first second => findingKey first ≤ findingKey second
  counted : (report.summary.map Prod.snd).foldr (· + ·) 0 = report.findings.length
  once : ∀ checkId, checkId ≠ strictCheckId → checkId ≠ recorderCheckId →
    (idsOf report.findings).count checkId =
      if checkId ∈ coreIds ∨ (suitesClient options world result).isSome ∧ checkId ∈ stepIds (selectedSteps options)
      then 1 else 0
  violations : ∀ observation ∈ closed.recorder.noncompliance, ∀ number, observation.connection = some number →
    UnderTest tool options result world last number → ¬LostNoise closed result.connection observation →
    ∃ finding ∈ report.findings, Failing finding ∧ Accounts finding result.connection observation
  toolErrors : ∀ error ∈ closed.recorder.toolErrors, recorderFinding error ∈ report.findings

theorem opening_ids (closed : World) (final : SessionResult) (checkId : String) (notStrict : checkId ≠ strictCheckId)
    (notRecorder : checkId ≠ recorderCheckId) : (idsOf (opening closed final)).count checkId = coreIds.count checkId := by
  have core : idsOf (runChecks (.ofSession final.connection closed.recorder.frames closed.recorder.noncompliance)
      final.txtName) = coreIds := by
    rw [idsOf, runChecks, run_checks_ids _ _ (core_check_answers _ _), core_ids_of]
  have strict (observations : List RecordedNoncompliance) :
      (idsOf (checkNoncompliance observations)).count checkId = 0 := by
    rw [List.count_eq_zero]
    intro member
    obtain ⟨finding, listed, named⟩ := List.mem_map.mp member
    rw [checkNoncompliance] at listed
    split at listed
    · rw [List.mem_singleton.mp listed] at named
      exact notStrict named.symm
    · obtain ⟨observation, _, rfl⟩ := List.mem_map.mp listed
      exact notStrict (named.symm.trans (strict_id observation))
  have recorder (errors : List String) : (idsOf (errors.map recorderFinding)).count checkId = 0 := by
    rw [List.count_eq_zero]
    intro member
    obtain ⟨finding, listed, named⟩ := List.mem_map.mp member
    obtain ⟨error, _, rfl⟩ := List.mem_map.mp listed
    exact notRecorder named.symm
  rw [opening, judgeSession, idsOf, List.map_append, List.map_append, List.count_append, List.count_append]
  simp only [idsOf] at core strict recorder
  rw [core, strict, recorder, Nat.add_zero]

omit [UnicodeData] in
-- An id is reported as often as it is listed, which is at most once.
theorem reported_once (ids : List String) (distinct : (coreIds ++ ids).Nodup) (checkId : String) (ran : Prop)
    [Decidable ran] (reported : List String) (matched : reported.Perm (if ran then ids else [])) :
    coreIds.count checkId + reported.count checkId = if checkId ∈ coreIds ∨ ran ∧ checkId ∈ ids then 1 else 0 := by
  rw [matched.count_eq, ← List.count_append]
  by_cases known : ran
  · rw [if_pos known, distinct.count]
    simp [known]
  · rw [if_neg known, List.append_nil, (distinct.sublist (List.sublist_append_left _ _)).count]
    simp [known]

omit [UnicodeData] in
theorem selected_ids_distinct (options : SuiteOptions) : (coreIds ++ stepIds (selectedSteps options)).Nodup := by
  refine all_ids_distinct.sublist ?_
  exact (List.Sublist.refl _).append ((selected_sublist options).flatMap Step.checks)

theorem violation_told (closed : World) (final : SessionResult) (observation : RecordedNoncompliance)
    (member : observation ∈ closed.recorder.noncompliance)
    (isJudged : judged final.connection final.laterConnections observation.connection = true)
    (kept : ¬LostNoise closed final.connection observation) :
    ∃ finding ∈ opening closed final, Failing finding ∧ Accounts finding final.connection observation := by
  by_cases isNoise : observation.reason = noisePayloadReason
  · obtain ⟨own, message2⟩ := not_not.mp (not_and.mp kept isNoise)
    obtain ⟨answer, found, named, fails, told⟩ := (noise_finding_iff _ _ _ _ _ _ observation member isNoise own).mpr message2
    exact ⟨answer, found, Or.inl fails, Or.inr ⟨named, fails, told, own⟩⟩
  · exact ⟨strictFinding observation, (own_finding_iff _ _ _ _ _ _ observation member isJudged).mpr isNoise,
      strict_verdict observation, Or.inl rfl⟩

theorem report_accounted (tool : Tool) (options : SuiteOptions) (connection : Nat) (txtName url : Option String)
    (world last closed : World) (final : SessionResult)
    (ran : (afterOpening tool options (connected connection txtName url)).from world = some (.ok final, last)) :
    Accounted tool options (connected connection txtName url) world last closed (sessionReport closed final) := by
  obtain ⟨same, named, unrun, suites⟩ := after_opening_ran tool options _ final world last ran
  have listed : (sessionReport closed final).findings.Perm (opening closed final ++ final.findings) := sorted_perm _
  refine ⟨sorted_ordered _, summarized _, ?_, ?_, ?_⟩
  · intro checkId notStrict notRecorder
    have spread : (idsOf (sessionReport closed final).findings).Perm (idsOf (opening closed final) ++ idsOf final.findings) := by
      rw [idsOf, idsOf, idsOf, ← List.map_append]
      exact listed.map _
    rw [spread.count_eq, List.count_append, opening_ids closed final checkId notStrict notRecorder]
    refine reported_once _ (selected_ids_distinct options) checkId _ _ ?_
    cases observed : suitesClient options world (connected connection txtName url) with
    | none =>
        rw [(unrun observed).1]
        exact List.Perm.refl _
    | some clientId => exact (suites clientId observed).reported
  · intro observation member number on underTest kept
    have isJudged : judged final.connection final.laterConnections observation.connection = true := by
      rw [on]
      simp only [judged, Bool.or_eq_true, beq_iff_eq, List.contains_iff_mem]
      cases underTest with
      | inl first => exact Or.inl (first.trans same.symm)
      | inr later =>
          obtain ⟨clientId, observed, frame, recorded, placed, opens⟩ := later
          rw [(suites clientId observed).later, Link.connectionsSince, List.mem_insertionSort, List.mem_dedup, ← placed]
          exact Or.inr (List.mem_map_of_mem (List.mem_filter.mpr ⟨recorded, opens⟩))
    rw [← same] at kept ⊢
    obtain ⟨finding, found, failing, accounts⟩ := violation_told closed final observation member isJudged kept
    exact ⟨finding, listed.mem_iff.mpr (List.mem_append_left _ found), failing, accounts⟩
  · intro error member
    refine listed.mem_iff.mpr (List.mem_append_left _ (List.mem_append_right _ ?_))
    exact List.mem_map_of_mem member

-- main's exit status: 1 where a finding is FAIL or TOOL_ERROR, 0 where none is, 2 where the run is stopped. Another
-- exception of a step escapes main, and there is no report.
theorem main_accounted (tool : Tool) (options : SuiteOptions) (close : World → World) (connection : Nat)
    (txtName url : Option String) (world : World) (outcome : Py Nat)
    (ran : main tool options close (connected connection txtName url) world = some outcome) :
    (∃ raised last, (afterOpening tool options (connected connection txtName url)).from world = some (.error raised, last) ∧
        (stopsRun raised = true ∧ outcome = .ok exitNoReport ∨
          stopsRun raised = false ∧ outcome = .error (leftCoroutine raised))) ∨
      ∃ final last, (afterOpening tool options (connected connection txtName url)).from world = some (.ok final, last) ∧
        Accounted tool options (connected connection txtName url) world last (close last)
          (sessionReport (close last) final) ∧
        (outcome = .ok exitFindings ∧ (∃ finding ∈ (sessionReport (close last) final).findings, Failing finding) ∨
          outcome = .ok exitClean ∧ ∀ finding ∈ (sessionReport (close last) final).findings, ¬Failing finding) := by
  rw [main, Option.map_eq_some_iff] at ran
  obtain ⟨⟨ended, last⟩, ran, outcome_is⟩ := ran
  cases ended with
  | error raised =>
      refine Or.inl ⟨raised, last, ran, ?_⟩
      simp only at outcome_is
      cases stops : stopsRun raised with
      | true =>
          rw [stops] at outcome_is
          exact Or.inl ⟨rfl, outcome_is.symm⟩
      | false =>
          rw [stops] at outcome_is
          exact Or.inr ⟨rfl, outcome_is.symm⟩
  | ok final =>
      cases outcome_is
      refine Or.inr ⟨final, last, ran, report_accounted tool options connection txtName url world last _ final ran, ?_⟩
      have listed : (sessionReport (close last) final).findings.Perm (opening (close last) final ++ final.findings) :=
        sorted_perm _
      have failing : (sessionReport (close last) final).exitStatus = exitFindings ↔
          ∃ finding ∈ (sessionReport (close last) final).findings, Failing finding := by
        simp only [listed.mem_iff]
        exact exit_findings_iff _
      by_cases found : ∃ finding ∈ (sessionReport (close last) final).findings, Failing finding
      · exact Or.inl ⟨congrArg Except.ok (failing.mpr found), found⟩
      · refine Or.inr ⟨congrArg Except.ok ?_, fun finding member fails => found ⟨finding, member, fails⟩⟩
        have either : ∀ report : Report, report.exitStatus = exitFindings ∨ report.exitStatus = exitClean := by
          intro report
          rw [Report.exitStatus]
          split
          · exact Or.inl rfl
          · exact Or.inr rfl
        exact (either _).resolve_left fun status => found (failing.mp status)

def germanTool : Tool := ⟨["de"], fun _ => .notJson ""⟩

omit [UnicodeData] in
-- The client completed its opening and is not paired, so the steps of the suite are not reached.
theorem unpaired_client_accounted :
    let result := connected 1 none none
    let options : SuiteOptions := ⟨[.postPairing], false⟩
    ∃ final last, (@afterOpening noUnicode germanTool options result).from (connectedWorld []) = some (.ok final, last) ∧
      @Accounted noUnicode germanTool options result (connectedWorld []) last last (@sessionReport noUnicode last final) ∧
      ∃ finding ∈ (@sessionReport noUnicode last final).findings, Failing finding := by
  have accounted := @main_accounted noUnicode germanTool ⟨[.postPairing], false⟩ id 1 none none (connectedWorld [])
    (.ok exitFindings) (by decide +kernel)
  obtain ⟨_, _, _, ⟨_, status⟩ | ⟨_, status⟩⟩ | ⟨final, last, ran, report, ⟨_, found⟩ | ⟨status, _⟩⟩ := accounted
  · exact absurd (Except.ok.inj status) (by decide)
  · cases status
  · exact ⟨final, last, ran, report, found⟩
  · exact absurd (Except.ok.inj status) (by decide)

end

end Conformance.Validator.Session
