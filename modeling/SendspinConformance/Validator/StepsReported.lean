import SendspinConformance.Validator.CodePairingReported
import SendspinConformance.Validator.SuiteSteps

set_option autoImplicit false

namespace Conformance.Validator.SuiteRunner

open Python Protocol Base Conformance.Validator.Suite CodePairing

-- What the findings grew by: for each of the steps a block of its own.
def Reported (steps : List Step) (before after : List Finding) : Prop :=
  ∃ blocks, after = before ++ blocks.flatten ∧ List.Forall₂ Contributes steps blocks

-- However the program ends, it has reported the first of the steps; where it returns, all of them.
def Reports {α : Type} (steps : List Step) (program : Reporting α) : Prop :=
  ∀ before ended after, program.from before = some (ended, after) →
    (∃ done, done <+: steps ∧ Reported done before.1 after.1) ∧
      ∀ value, ended = .ok value → Reported steps before.1 after.1

theorem reported_none (findings : List Finding) : Reported [] findings findings := ⟨[], by simp, .nil⟩

theorem reported_append {early late : List Step} {first second third : List Finding} (before : Reported early first second)
    (after : Reported late second third) : Reported (early ++ late) first third := by
  obtain ⟨blocks, grown, matched⟩ := before
  obtain ⟨others, grownOn, matchedOn⟩ := after
  refine ⟨blocks ++ others, ?_, List.rel_append matched matchedOn⟩
  rw [grownOn, grown, List.flatten_append, List.append_assoc]

section

variable {α β : Type} {steps : List Step}

-- A program that reports nothing, whatever else it does.
theorem reports_none {program : Reporting α} (kept : ∀ findings, Keeps (fun held => held = findings) program) :
    Reports [] program := by
  intro before ended after ran
  have same : after.1 = before.1 := kept before.1 before ended after rfl ran
  rw [same]
  exact ⟨⟨[], List.nil_prefix, reported_none _⟩, fun _ _ => reported_none _⟩

theorem reports_bind {program : Reporting α} {next : α → Reporting β} {later : List Step} (first : Reports steps program)
    (second : ∀ value, Reports later (next value)) : Reports (steps ++ later) (program >>= next) := by
  intro before ended after ran
  rw [from_bind] at ran
  cases middle : program.from before with
  | none =>
      rw [middle] at ran
      cases ran
  | some result =>
      obtain ⟨outcome, between⟩ := result
      have early := first before outcome between middle
      rw [middle] at ran
      cases outcome with
      | ok value =>
          have whole := early.2 value rfl
          obtain ⟨⟨done, some_done, reported⟩, all⟩ := second value between ended after ran
          refine ⟨⟨steps ++ done, ?_, reported_append whole reported⟩, ?_⟩
          · exact (List.prefix_append_right_inj steps).mpr some_done
          · intro result returned
            exact reported_append whole (all result returned)
      | error raised =>
          cases ran
          obtain ⟨done, some_done, reported⟩ := early.1
          refine ⟨⟨done, some_done.trans (List.prefix_append steps later), reported⟩, ?_⟩
          intro result returned
          cases returned

-- A program on the world first, which reports nothing, then what reports with its value.
theorem reports_given {program : Action α} {next : α → Reporting β} {post : α → Prop} (given : Gives program post)
    (second : ∀ value, post value → Reports steps (next value)) : Reports steps (program.within >>= next) := by
  intro before ended after ran
  rw [from_bind] at ran
  cases middle : (program.within : Reporting α).from before with
  | none =>
      rw [middle] at ran
      cases ran
  | some result =>
      obtain ⟨outcome, between⟩ := result
      have told := @meets_within World (List Finding) PyError α (fun held => held = before.1) program post given
        before outcome between rfl middle
      rw [middle] at ran
      cases outcome with
      | ok value =>
          rw [← told.1]
          exact second value told.2 between ended after ran
      | error raised =>
          cases ran
          have same : after.1 = before.1 := told
          rw [same]
          refine ⟨⟨[], List.nil_prefix, reported_none _⟩, ?_⟩
          intro value returned
          cases returned

theorem reports_afterwards {program : Reporting α} (cleanup : Action Unit) (reports : Reports steps program) :
    Reports steps (program.afterwards cleanup.within) := by
  intro before ended after ran
  rw [from_afterwards] at ran
  cases middle : program.from before with
  | none =>
      rw [middle] at ran
      cases ran
  | some result =>
      obtain ⟨outcome, between⟩ := result
      have early := reports before outcome between middle
      rw [middle] at ran
      dsimp only at ran
      cases cleaned : (cleanup.within : Reporting Unit).from between with
      | none =>
          rw [cleaned] at ran
          cases ran
      | some last =>
          obtain ⟨finish, state⟩ := last
          have same : state.1 = between.1 :=
            @keeps_within World (List Finding) PyError Unit (fun held => held = between.1) cleanup between finish state rfl
              cleaned
          rw [cleaned] at ran
          cases finish with
          | ok _ =>
              cases ran
              rw [same]
              exact early
          | error _ =>
              cases ran
              rw [same]
              refine ⟨early.1, ?_⟩
              intro value returned
              cases returned

theorem reports_report {step : Step} {findings : List Finding} (contributed : Contributes step findings) :
    Reports [step] (report findings) := by
  intro before ended after ran
  cases ran
  have reported : Reported [step] before.1 (before.1 ++ findings) :=
    ⟨[findings], by simp, .cons contributed .nil⟩
  exact ⟨⟨[step], List.prefix_rfl, reported⟩, fun _ _ => reported⟩

-- The findings of several steps, reported at once.
theorem reports_each (steps : List Step) (findings : Step → List Finding)
    (contributed : ∀ step, Contributes step (findings step)) : Reports steps (report (steps.flatMap findings)) := by
  intro before ended after ran
  cases ran
  have reported : Reported steps before.1 (before.1 ++ steps.flatMap findings) := by
    refine ⟨steps.map findings, by rw [List.flatMap_def], ?_⟩
    rw [List.forall₂_map_right_iff]
    exact List.forall₂_same.mpr fun step _ => contributed step
  exact ⟨⟨steps, List.prefix_rfl, reported⟩, fun _ _ => reported⟩

end

theorem not_run_ids (step : Step) (verdict : Verdict) (message : String) (skip : Nat) :
    idsOf (notRun step verdict message skip) = step.checks.drop skip := by
  unfold notRun
  split
  · exact CodePairing.not_run_ids _ verdict message
  · exact Suite.not_run_ids _ verdict message

theorem not_reached_step (step : Step) (why : String) : Contributes step (notReached step why) :=
  contributes_of_ids (not_run_ids step _ _ 0)

theorem resting_ids (evidence : Option Evidence) (findings : List Finding) :
    idsOf (findings.map (resting evidence)) = idsOf findings := by
  unfold idsOf
  rw [List.map_map]
  apply List.map_congr_left
  intro finding _
  cases evidence <;> rfl

variable [UnicodeData] (link : Link)

omit [UnicodeData] in
theorem run_ready_gives {step : Step} {run : Action (List Finding)} (contributes : Gives run (Contributes step)) :
    Gives (runReady link step run) (Contributes step) := by
  unfold runReady
  apply gives_then
  intro answer
  split
  · exact contributes
  · exact gives_pure _ (contributes_of_ids (not_run_ids step _ _ 0))

omit [UnicodeData] in
theorem run_step_reports {step : Step} {run : Action (List Finding)} (evidence : Option Evidence)
    (contributes : Gives run (Contributes step)) : Reports [step] (runStep link step run evidence) := by
  unfold runStep
  apply reports_given (run_ready_gives link contributes)
  intro findings contributed
  apply reports_report
  rw [Contributes, resting_ids]
  exact contributed

theorem u1_contributes : Gives (u1 link) (Contributes .u1) := by
  unfold u1
  apply gives_then
  intro number
  cases number with
  | none => exact gives_pure _ (not_reached_step _ _)
  | some connected =>
      apply gives_then
      intro world
      exact gives_named (judge_keying_named _ _ _ _ _)

theorem u2_contributes : Gives (u2 link) (Contributes .u2) := by
  unfold u2
  apply gives_then
  intro number
  cases number with
  | none => exact gives_pure _ (not_reached_step _ _)
  | some connected =>
      apply gives_then
      intro declared
      split
      · apply gives_then
        intro _
        apply gives_then
        intro world
        exact gives_named (pairing_required_named _)
      · exact gives_pure _ (not_reached_step _ _)

theorem u4_contributes : Gives (u4 link) (Contributes .u4) := by
  unfold u4
  apply gives_then
  intro number
  cases number with
  | none => exact gives_pure _ (not_reached_step _ _)
  | some connected =>
      apply gives_then
      intro declared
      split
      · apply gives_then
        intro _
        apply gives_then
        intro world
        exact gives_named (inadmissible_activation_named _)
      · exact gives_pure _ (not_reached_step _ _)

theorem u3_contributes : Gives (u3 link) (Contributes .u3) := by
  unfold u3
  apply gives_then
  intro number
  cases number with
  | none => exact gives_pure _ (not_reached_step _ _)
  | some connected =>
      apply gives_then
      intro _
      apply gives_then
      intro world
      exact gives_named (unpaired_playback_named _)

theorem pairing_checks_named (record : ConnectionRecord) (since : Nat) :
    Names ["PAIR-PSK-003", "PAIR-PSK-004", "PAIR-PSK-005", "PAIR-PSK-006", "PAIR-PSK-007"]
      (pairingChecks record since) := by
  unfold pairingChecks
  refine names_then (pairing_rehandshake_named record since) ?_
  intro rehandshake rehandshakeIds
  refine names_then (pair_init_named record since) ?_
  intro pairInit pairInitIds
  refine names_then (pair_finalize_named record since) ?_
  intro finalize finalizeIds
  refine names_then (promotion_named record since) ?_
  intro promotion promotionIds
  refine names_then (paired_activation_named record since) ?_
  intro activation activationIds findings same
  cases same
  simp [rehandshakeIds, pairInitIds, finalizeIds, promotionIds, activationIds]

theorem p1_contributes : Gives (p1 link) (Contributes .p1) := by
  unfold p1
  apply gives_then
  intro token
  cases token with
  | none => exact gives_pure _ (contributes_of_ids (Suite.not_run_ids _ _ _))
  | some token =>
      have entered := pairing_token_ids token (some link.clientId)
      have unreached (why : String) :
          Contributes .p1 (checkPairingToken token (some link.clientId) ++ notReached .p1 why 2) := by
        apply contributes_of_ids
        rw [ids_append, entered, notReached, not_run_ids]
        rfl
      dsimp only
      split
      · exact gives_pure _ (unreached _)
      · apply gives_then
        intro number
        cases number with
        | none => exact gives_pure _ (unreached _)
        | some connected =>
            apply gives_then
            intro world
            apply gives_then
            intro _
            apply gives_then
            intro _
            apply gives_then
            intro last
            apply gives_bind _ (gives_outcome _ (pairing_checks_named _ _))
            intro judged judgedIds
            apply gives_pure
            apply contributes_of_ids
            rw [ids_append, entered, judgedIds]
            rfl

theorem r1_contributes : Gives (r1 link) (Contributes .r1) := by
  unfold r1
  apply gives_then
  intro number
  cases number with
  | none => exact gives_pure _ (not_reached_step _ _)
  | some connected =>
      apply gives_then
      intro _
      apply gives_then
      intro world
      exact gives_named (judge_keying_named _ _ _ _ _)

theorem r3_contributes : Gives (r3 link) (Contributes .r3) := by
  unfold r3
  apply gives_then
  intro world
  split
  · exact gives_pure _ (not_reached_step _ _)
  · apply gives_then
    intro _
    apply gives_then
    intro _
    apply gives_then
    intro number
    cases number with
    | none => exact gives_pure _ (not_reached_step _ _)
    | some connected =>
        apply gives_then
        intro last
        exact gives_named (forgotten_reconnect_named _)

theorem restart_checks_named (before after : ConnectionRecord) (delay : Option Int) :
    Names Step.r5.checks (restartChecks before after delay) := by
  unfold restartChecks
  refine names_then (judge_keying_named _ _ _ _ _) ?_
  intro kept keptIds
  refine names_then (output_delay_named before after delay) ?_
  intro delayed delayedIds findings same
  cases same
  simp [keptIds, delayedIds, Step.checks]

theorem r5_contributes : Gives (r5 link) (Contributes .r5) := by
  unfold r5
  apply gives_then
  intro number
  cases number with
  | none => exact gives_pure _ (not_reached_step _ _)
  | some connected =>
      apply gives_then
      intro _
      apply gives_then
      intro delay
      apply gives_then
      intro answer
      split
      · exact gives_pure _ (contributes_of_ids (Suite.not_run_ids _ _ _))
      · apply gives_then
        intro restarted
        cases restarted with
        | none => exact gives_pure _ (not_reached_step _ _)
        | some after =>
            apply gives_then
            intro _
            apply gives_then
            intro world
            exact gives_named (restart_checks_named _ _ delay)

theorem judge_unpaired_gives (record : ServerPairingRecord) (number : Nat) :
    Gives (judgeUnpaired link record number) (Contributes .r4) := by
  unfold judgeUnpaired
  apply gives_then
  intro _
  apply gives_then
  intro world
  apply gives_bind _ (gives_outcome _ (unpair_goodbye_named _))
  intro findings goodbyeIds
  apply gives_then
  intro _
  apply gives_then
  intro again
  cases again with
  | none =>
      apply gives_pure
      apply contributes_of_ids
      rw [ids_append, goodbyeIds, notReached, not_run_ids]
      rfl
  | some connected =>
      apply gives_then
      intro _
      apply gives_then
      intro last
      apply gives_bind _ (gives_outcome _ (judge_keying_named _ _ _ _ _))
      intro dropped droppedIds
      apply gives_pure
      apply contributes_of_ids
      rw [ids_append, goodbyeIds, droppedIds]
      rfl

theorem r4_contributes : Gives (r4 link) (Contributes .r4) := by
  unfold r4
  apply gives_then
  intro world
  apply gives_then
  intro number
  split
  · apply gives_then
    intro unpaired
    cases unpaired with
    | ok _ => exact gives_afterwards _ (judge_unpaired_gives link _ _)
    | error error =>
        dsimp only
        split
        · exact gives_pure _ (not_reached_step _ _)
        · exact gives_throw _
  · exact gives_pure _ (not_reached_step _ _)

theorem run_injected_reports (options : SuiteOptions) : Reports [.u4] (runInjected link options) := by
  unfold runInjected
  split
  · exact run_step_reports link none (u4_contributes link)
  · exact reports_report (contributes_of_ids (Suite.not_run_ids _ _ _))

theorem unpaired_steps_report (options : SuiteOptions) :
    Reports [.u1, .u2, .u4, .u3] (unpairedSteps link options) := by
  unfold unpairedSteps
  apply reports_bind (run_step_reports link none (u1_contributes link))
  intro _
  apply reports_bind (run_step_reports link (some .human) (u2_contributes link))
  intro _
  apply reports_bind (run_injected_reports link options)
  intro _
  exact run_step_reports link (some .human) (u3_contributes link)

omit [UnicodeData] in
theorem reports_current : Reports [] (Program.current : Reporting (List Finding × World)) :=
  reports_none fun _ => keeps_current

theorem unpaired_reports (options : SuiteOptions) : Reports [.u1, .u2, .u4, .u3] (unpaired link options) := by
  unfold unpaired
  apply reports_bind reports_current
  intro world
  exact reports_afterwards _ (unpaired_steps_report link options)

omit [UnicodeData] in
theorem run_offered_reports {step : Step} (offered : Bool) (method : String) {run : Action (List Finding)}
    (contributes : Gives run (Contributes step)) : Reports [step] (runOffered link step offered method run) := by
  unfold runOffered
  split
  · exact run_step_reports link none contributes
  · exact reports_report (not_reached_step _ _)

theorem pairing_reports : Reports pairingSteps (pairing link) := by
  unfold pairing
  apply reports_bind reports_current
  intro state
  dsimp only
  split
  · exact reports_each pairingSteps _ fun step => not_reached_step step _
  · apply reports_bind (run_offered_reports link _ _ (dynamic_contributes link .qrCode _))
    intro _
    apply reports_bind (run_offered_reports link _ _ (p1_contributes link))
    intro _
    apply reports_bind (run_offered_reports link _ _ (dynamic_contributes link .digits _))
    intro _
    apply reports_bind (run_offered_reports link _ _ (static_contributes link))
    intro _
    apply reports_bind (run_offered_reports link _ _ (cancel_contributes link _))
    intro _
    apply reports_bind (run_offered_reports link _ _ (timeout_contributes link _))
    intro _
    exact run_offered_reports link _ _ (lockout_contributes link)

theorem post_pairing_reports : Reports [.r1, .r3, .r5, .r4] (postPairing link) := by
  unfold postPairing
  apply reports_bind reports_current
  intro state
  split
  · exact reports_each _ _ fun step => not_reached_step step _
  · apply reports_bind (run_step_reports link none (r1_contributes link))
    intro _
    apply reports_bind (run_step_reports link none (r3_contributes link))
    intro _
    apply reports_bind (run_step_reports link (some .human) (r5_contributes link))
    intro _
    exact run_step_reports link none (r4_contributes link)

def suiteSteps : Suite → List Step
  | .unpaired => [.u1, .u2, .u4, .u3]
  | .pairing => pairingSteps
  | .postPairing => [.r1, .r3, .r5, .r4]

-- The steps of a suite, where it is selected.
def stepsOf (options : SuiteOptions) (suite : Suite) : List Step :=
  if options.suites.contains suite then suiteSteps suite else []

def selectedSteps (options : SuiteOptions) : List Step :=
  stepsOf options .unpaired ++ (stepsOf options .pairing ++ stepsOf options .postPairing)

omit [UnicodeData] in
theorem run_selected_reports (options : SuiteOptions) (suite : Suite) {steps : Reporting Unit}
    (reports : Reports (suiteSteps suite) steps) : Reports (stepsOf options suite) (runSelected options suite steps) := by
  unfold runSelected stepsOf
  split
  · exact reports
  · exact reports_none fun _ => keeps_pure ()

theorem run_reports (options : SuiteOptions) : Reports (selectedSteps options) (run link options) := by
  unfold run
  apply reports_bind (run_selected_reports options .unpaired (unpaired_reports link options))
  intro _
  apply reports_bind (run_selected_reports options .pairing (pairing_reports link))
  intro _
  exact run_selected_reports options .postPairing (post_pairing_reports link)

-- Each of the step's checks is reported once, and nothing else is.
def ReportsOnce (step : Step) (findings : List Finding) : Prop :=
  ∀ checkId, (idsOf findings).count checkId = if checkId ∈ step.checks then 1 else 0

omit [UnicodeData] in
theorem once_of_contributes {step : Step} {findings : List Finding} (contributed : Contributes step findings) :
    ReportsOnce step findings := by
  intro checkId
  rw [List.Perm.count_eq contributed, (checks_distinct step).count]

-- The run function of a step, for what the client's hello says of its pairing methods.
def stepRun (methods descriptor : Fields) : Step → Action (List Finding)
  | .u1 => u1 link
  | .u2 => u2 link
  | .u3 => u3 link
  | .u4 => u4 link
  | .p1 => p1 link
  | .p2Qr => dynamic link .qrCode descriptor
  | .p2 => dynamic link .digits descriptor
  | .p3 => static link
  | .p4Cancel => cancel link methods
  | .p4Timeout => timeout link methods
  | .p3Lockout => lockout link
  | .r1 => r1 link
  | .r3 => r3 link
  | .r4 => r4 link
  | .r5 => r5 link

theorem step_run_contributes (methods descriptor : Fields) (step : Step) :
    Gives (stepRun link methods descriptor step) (Contributes step) := by
  cases step with
  | u1 => exact u1_contributes link
  | u2 => exact u2_contributes link
  | u3 => exact u3_contributes link
  | u4 => exact u4_contributes link
  | p1 => exact p1_contributes link
  | p2Qr => exact dynamic_contributes link .qrCode descriptor
  | p2 => exact dynamic_contributes link .digits descriptor
  | p3 => exact static_contributes link
  | p4Cancel => exact cancel_contributes link methods
  | p4Timeout => exact timeout_contributes link methods
  | p3Lockout => exact lockout_contributes link
  | r1 => exact r1_contributes link
  | r3 => exact r3_contributes link
  | r4 => exact r4_contributes link
  | r5 => exact r5_contributes link

-- A step whose run function returns, from any state, reports each of its checks once. And however a
-- run of the selected suites ends, its report is made of such blocks, one for each of the first of
-- its steps, in order; of all its steps, where it returns.
theorem every_check_reported_once :
    (∀ methods descriptor step world findings last,
        (stepRun link methods descriptor step).from world = some (.ok findings, last) → ReportsOnce step findings) ∧
      ∀ options world ended reported last, (run link options).from ([], world) = some (ended, (reported, last)) →
        ∃ steps blocks, steps <+: selectedSteps options ∧ (ended = .ok () → steps = selectedSteps options) ∧
          reported = blocks.flatten ∧ List.Forall₂ ReportsOnce steps blocks := by
  apply And.intro
  · intro methods descriptor step world findings last ran
    exact once_of_contributes (step_run_contributes link methods descriptor step world _ last trivial ran)
  · intro options world ended reported last ran
    obtain ⟨⟨done, some_done, blocks, grown, contributed⟩, all⟩ := run_reports link options _ _ _ ran
    cases ended with
    | ok value =>
        obtain ⟨whole, grownWhole, contributedWhole⟩ := all value rfl
        refine ⟨selectedSteps options, whole, List.prefix_rfl, fun _ => rfl, grownWhole, ?_⟩
        exact contributedWhole.imp fun _ _ => once_of_contributes
    | error raised =>
        refine ⟨done, blocks, some_done, ?_, grown, contributed.imp fun _ _ => once_of_contributes⟩
        intro returned
        cases returned

-- A run of the unpaired and post-pairing suites with a client that never connected: U1 is asked for
-- twice, U2 is skipped, and the input ends at U3.
def silentLink : Link := ⟨"client", none, [], fun _ => .notJson ""⟩

def silentOptions : SuiteOptions := ⟨[.unpaired, .postPairing], false⟩

def silentWorld : World :=
  { script := [.yesNo ⟨.retry, none⟩, .yesNo ⟨.answered, some true⟩, .yesNo ⟨.skip, none⟩, .raised ⟨"EOFError", ""⟩] }

-- The token of P1 is not entered.
def skippingWorld : World := { script := [.text ⟨.skip, none⟩] }

omit [UnicodeData] in
theorem silent_run_reported :
    (∃ findings last, (@stepRun noUnicode silentLink [] [] .p1).from skippingWorld = some (.ok findings, last) ∧
        ReportsOnce .p1 findings) ∧
      ∃ ended reported last,
        (@run noUnicode silentLink silentOptions).from ([], silentWorld) = some (ended, (reported, last)) ∧
          idsOf reported = ["UNPAIRED-001", "UNPAIRED-002", "UNPAIRED-004"] ∧
          ∃ steps blocks, steps <+: selectedSteps silentOptions ∧ reported = blocks.flatten ∧
            List.Forall₂ ReportsOnce steps blocks := by
  apply And.intro
  · exact ⟨_, _, rfl, (@every_check_reported_once noUnicode silentLink).1 [] [] .p1 skippingWorld _ _ rfl⟩
  · refine ⟨_, _, _, rfl, rfl, ?_⟩
    obtain ⟨steps, blocks, some_done, _, split, matched⟩ :=
      (@every_check_reported_once noUnicode silentLink).2 silentOptions silentWorld _ _ _ rfl
    exact ⟨steps, blocks, some_done, split, matched⟩

end Conformance.Validator.SuiteRunner
