import SendspinConformance.Validator.ChecksNamed
import SendspinConformance.Validator.CodePairingSteps

set_option autoImplicit false

namespace Conformance.Validator.CodePairing

open Python Protocol Base

-- One finding for each of the step's checks, and no other.
def Contributes (step : Step) (findings : List Finding) : Prop := (idsOf findings).Perm step.checks

theorem contributes_of_ids {step : Step} {findings : List Finding} (named : idsOf findings = step.checks) :
    Contributes step findings := by
  rw [Contributes, named]

theorem gives_named {σ : Type} {step : Step} {judged : Py (List Finding)} (named : Names step.checks judged) :
    Gives (Program.outcome judged : Program σ PyError (List Finding)) (Contributes step) := by
  apply gives_outcome
  intro findings returned
  exact contributes_of_ids (named findings returned)

theorem not_reached_contributes (step : Step) (why : String) : Contributes step (naNotReached step why) :=
  contributes_of_ids (all_not_applicable_ids _ _)

theorem checks_distinct (step : Step) : step.checks.Nodup := by
  cases step <;> simp [Step.checks, numbered, dynamicName, dynamicQrName, staticName, controlName]

-- Adding what is missing of a list without repetitions gives that list, in another order.
theorem completed_perm {α : Type} [DecidableEq α] {found all : List α} (distinct : found.Nodup)
    (known : ∀ item ∈ found, item ∈ all) (apart : all.Nodup) :
    (found ++ all.filter fun item => !found.contains item).Perm all := by
  have missing : (found ++ all.filter fun item => !found.contains item).Nodup := by
    rw [List.nodup_append]
    refine ⟨distinct, apart.filter _, ?_⟩
    intro early earlyIn late lateIn same
    rw [List.mem_filter, ← same] at lateIn
    simp [earlyIn] at lateIn
  rw [List.perm_ext_iff_of_nodup missing apart]
  intro item
  by_cases reported : item ∈ found
  · simp [reported, known item reported]
  · simp [reported]

-- A step is complete whose last checks may be reported, each once, after its first ones.
theorem complete_contributes {step : Step} {front last : List String} (split : step.checks = front ++ last)
    {findings own : List Finding} (named : idsOf findings = front) (distinct : (idsOf own).Nodup)
    (known : ∀ checkId ∈ idsOf own, checkId ∈ last) : Contributes step (complete step (findings ++ own)) := by
  have apart := checks_distinct step
  rw [split, List.nodup_append] at apart
  have ids : idsOf (complete step (findings ++ own)) =
      (front ++ idsOf own) ++ step.checks.filter fun checkId => !(front ++ idsOf own).contains checkId := by
    rw [complete, ids_append (findings ++ own), all_not_applicable_ids, ids_append, named, ← named]
    simp only [idsOf, List.map_append]
  rw [Contributes, ids]
  apply completed_perm
  · rw [List.nodup_append]
    refine ⟨apart.1, distinct, ?_⟩
    intro early earlyIn late lateIn
    exact apart.2.2 early earlyIn late (known late lateIn)
  · intro checkId member
    rw [List.mem_append] at member
    rw [split, List.mem_append]
    exact member.imp_right (known checkId)
  · exact checks_distinct step

theorem names_then {ids : List String} {judged : Py (List Finding)} {next : List Finding → Py (List Finding)}
    {holds : List Finding → Prop} (first : Names ids judged)
    (rest : ∀ findings, idsOf findings = ids → ∀ all, next findings = .ok all → holds all) :
    ∀ all, (judged >>= next) = .ok all → holds all := by
  cases judged with
  | error raised =>
      intro all returned
      cases returned
  | ok findings => exact rest findings (first findings rfl)

section

variable (link : Link)

section

variable {ρ : Type} {held : ρ → Prop}

theorem keeps_forever {α : Type} {turn : Program (ρ × World) PyError (Option α)} (kept : Keeps held turn) :
    Keeps held (forever turn) := by
  intro before ended after started ran
  exact keeps_repeated kept (before.2.script.length + 1) before ended after started ran

theorem attempt_turn_keeps (number : Nat) {provide : Program (ρ × World) PyError String} (meanwhile : ρ → Bool)
    (kept : Keeps held provide) : Keeps held (attemptTurn link number provide meanwhile) := by
  unfold attemptTurn
  apply keeps_bind (keeps_within _)
  intro happening
  cases happening with
  | codeWanted =>
      apply keeps_bind (keeps_settled kept)
      intro _
      exact keeps_pure _
  | returned =>
      apply keeps_bind (keeps_within _)
      intro _
      exact keeps_pure _
  | failed error =>
      apply keeps_bind (keeps_within _)
      intro _
      exact keeps_pure _
  | beside =>
      apply keeps_bind keeps_current
      intro state
      split
      · exact keeps_pure _
      · exact keeps_never
  | _ => exact keeps_never

theorem attempt_keeps (number : Nat) {provide : Program (ρ × World) PyError String} (kept : Keeps held provide) :
    Keeps held (attempt link number provide) := by
  unfold attempt
  apply keeps_bind (keeps_forever (attempt_turn_keeps link number _ kept))
  intro part
  rcases part with error | _
  · exact keeps_pure error
  · exact keeps_never

theorem attempt_beside_keeps (number : Nat) {provide : Program (ρ × World) PyError String} (meanwhile : ρ → Bool)
    {besides : Bool → Program (ρ × World) PyError Unit} (kept : Keeps held provide)
    (quiet : ∀ done, Keeps held (besides done)) : Keeps held (attemptBeside link number provide meanwhile besides) := by
  unfold attemptBeside
  apply keeps_bind (keeps_forever (attempt_turn_keeps link number _ kept))
  intro part
  rcases part with error | _
  · apply keeps_bind (quiet true)
    intro _
    exact keeps_pure error
  · apply keeps_bind (quiet false)
    intro _
    exact attempt_keeps link number kept

end

-- What the providers and the human checks may have found: a digits entry at most that the code
-- was shown again, from round `least` on, and a QR entry at most the judgement of its text.
structure Found (digits : Bool) (least : Nat) (entry : DynamicEntry) : Prop where
  shown : digits = true → idsOf entry.findings = [] ∨ idsOf entry.findings = ["PAIR-DYN-010"] ∧ least ≤ entry.round
  scanned : digits = false → idsOf entry.findings = [] ∨ idsOf entry.findings = ["PAIR-DYN-QR-009"]

namespace DynamicEntry

variable {digits : Bool} {least : Nat}

theorem found_of_same {entry edited : DynamicEntry} (found : Found digits least entry)
    (findings : edited.findings = entry.findings) (round : entry.round ≤ edited.round) : Found digits least edited := by
  constructor
  · rw [findings]
    intro typed
    exact (found.shown typed).imp_right fun again => ⟨again.1, le_trans again.2 round⟩
  · rw [findings]
    exact found.scanned

theorem found_weaken {fewer : Nat} {entry : DynamicEntry} (found : Found digits least entry) (bound : fewer ≤ least) :
    Found digits fewer entry := by
  constructor
  · intro typed
    exact (found.shown typed).imp_right fun again => ⟨again.1, le_trans bound again.2⟩
  · exact found.scanned

theorem edit_then {α : Type} {held : DynamicEntry → Prop} {edited : DynamicEntry → DynamicEntry}
    {next : Unit → Providing α} (kept : ∀ entry, held entry → held (edited entry)) (second : Keeps held (next ())) :
    Keeps held (edit edited >>= next) := by
  apply keeps_bind
  · apply keeps_change
    intro state found
    exact kept state.1 found
  · intro _
    exact second

-- What follows the reading of the entry starts with the entry that was read.
theorem read_then {α : Type} {pre : DynamicEntry → Prop} {next : DynamicEntry → Providing α}
    {post : Except PyError α → DynamicEntry × World → Prop}
    (follows : ∀ entry, pre entry → Meets (fun state => state.1 = entry) (next entry) post) :
    Meets (fun state => pre state.1) (read >>= next) post := by
  intro before ended after started ran
  exact follows before.1 started before ended after rfl ran

theorem read_keeps {held : DynamicEntry → Prop} : Keeps held read := by
  intro before ended after kept ran
  cases ran
  exact kept

theorem found_then {pre : DynamicEntry → Prop} {post : DynamicEntry → Prop} {entry : DynamicEntry} (findings : List Finding)
    (started : pre entry) (kept : pre entry → post { entry with findings := entry.findings ++ findings }) :
    Meets (fun state : DynamicEntry × World => state.1 = entry) (found findings) fun _ state => post state.1 := by
  apply meets_change
  intro state same
  rw [same]
  exact kept started

theorem mark_wrong_keeps (number : Nat) : Keeps (Found digits least) (markWrong number) := by
  unfold markWrong
  apply keeps_bind keeps_current
  intro state
  apply keeps_change
  intro before found
  exact found_of_same found rfl le_rfl

variable [UnicodeData]

theorem judge_token_keeps (right : String) : Keeps (Found false least) (judgeToken right) := by
  refine read_then ?_
  intro entry started
  split
  · rename_i fresh
    refine found_then _ started ?_
    intro _
    constructor
    · intro typed
      cases typed
    · intro _
      right
      rw [List.isEmpty_iff.mp fresh, List.nil_append, qr_token_ids]
  · apply meets_pure
    intro state same
    rw [same]
    exact started

theorem ask_right_keeps : Keeps (Found digits least) (askRight link digits) := by
  unfold askRight
  cases digits with
  | true =>
      apply keeps_bind (keeps_within _)
      intro right
      apply edit_then
      · intro entry found
        exact found_of_same found rfl le_rfl
      · exact keeps_pure right
  | false =>
      apply keeps_bind (keeps_within _)
      intro right
      apply edit_then
      · intro entry found
        exact found_of_same found rfl le_rfl
      · apply keeps_bind (judge_token_keeps right)
        intro _
        exact keeps_pure right

theorem enter_wrong_keeps (number : Nat) (right : String) :
    Keeps (Found digits least) (enterWrong link number digits right) := by
  unfold enterWrong
  split
  · apply keeps_bind (keeps_within _)
    intro wrong
    split
    · apply edit_then
      · intro entry found
        exact found_of_same found rfl le_rfl
      · exact keeps_pure right
    · apply keeps_bind (mark_wrong_keeps number)
      intro _
      exact keeps_pure wrong
  · apply keeps_bind (keeps_within _)
    intro wrong
    apply keeps_bind (mark_wrong_keeps number)
    intro _
    exact keeps_pure wrong

omit [UnicodeData] in
-- That the code was shown again is judged in round 2, before which nothing was found.
theorem judge_again_meets (right again : String) :
    Meets (fun state => Found true 3 state.1) (judgeAgain right again) fun _ state => Found true 2 state.1 := by
  refine read_then ?_
  intro entry started
  split
  · rename_i second
    refine found_then _ started ?_
    intro _
    have fresh : idsOf entry.findings = [] := by
      cases started.shown rfl with
      | inl none => exact none
      | inr late => omega
    constructor
    · intro _
      right
      refine ⟨?_, second.ge⟩
      rw [ids_append, fresh]
      unfold judgeShownAgain
      split <;> simp
    · intro scanned
      cases scanned
  · apply meets_pure
    intro state same
    rw [same]
    exact found_weaken started (by decide)

theorem enter_again_meets (right : String) :
    Meets (fun state => Found true 3 state.1) (enterAgain link right) fun _ state => Found true 2 state.1 := by
  unfold enterAgain
  refine meets_bind (fun _ state => Found true 3 state.1) ?_ ?_
  · refine meets_weaken (keeps_within _) (fun _ found => found) ?_
    intro ended state found
    cases ended with
    | ok again => exact found
    | error raised => exact found_weaken found (by decide)
  · intro again
    refine meets_bind (fun _ state => Found true 2 state.1) ?_ ?_
    · refine meets_weaken (judge_again_meets right again) (fun _ found => found) ?_
      intro ended state found
      cases ended <;> exact found
    · intro _
      apply meets_pure
      intro state found
      exact found

omit [UnicodeData] in
-- A provider's program from an entry that was read, in a round later than the first two.
theorem keeps_from {α : Type} {entry : DynamicEntry} {program : Providing α} (started : Found digits 3 entry)
    (kept : Keeps (Found digits 3) program) :
    Meets (fun state => state.1 = entry) program fun _ state => Found digits 2 state.1 := by
  refine meets_weaken kept ?_ ?_
  · intro state same
    rw [same]
    exact started
  · intro ended state found
    exact found_weaken found (by decide)

theorem provide_keeps (number : Nat) : Keeps (Found digits 2) (provide link number digits) := by
  unfold provide
  refine meets_bind (fun _ state => Found digits 3 state.1) ?_ ?_
  · apply meets_change
    intro state found
    constructor
    · intro typed
      exact (found.shown typed).imp_right fun again => ⟨again.1, Nat.succ_le_succ again.2⟩
    · exact found.scanned
  · intro _
    refine read_then ?_
    intro entry started
    split
    · apply keeps_from started
      apply keeps_bind (ask_right_keeps link)
      intro right
      apply edit_then
      · intro before found
        exact found_of_same found rfl le_rfl
      · exact enter_wrong_keeps link number right
    · split
      · exact keeps_from started (ask_right_keeps link)
      · rename_i right _
        cases digits with
        | true =>
            refine meets_weaken (enter_again_meets link right) ?_ fun _ _ found => found
            intro state same
            rw [same]
            exact started
        | false => exact keeps_from started (keeps_pure right)

-- The last checks of a dynamic step, which its entry reports.
def lastChecks (digits : Bool) : List String :=
  if digits then numbered dynamicName ["009", "010", "011", "012"] else numbered dynamicQrName ["009"]

-- What the entry has found when the step is judged.
def Closing (digits : Bool) (entry : DynamicEntry) : Prop :=
  (idsOf entry.findings).Nodup ∧ ∀ checkId ∈ idsOf entry.findings, checkId ∈ lastChecks digits

omit [UnicodeData] in
theorem closing_of_ids {entry : DynamicEntry} {ids : List String} (named : idsOf entry.findings = ids)
    (distinct : ids.Nodup) (known : ∀ checkId ∈ ids, checkId ∈ lastChecks digits) : Closing digits entry := by
  rw [Closing, named]
  exact ⟨distinct, known⟩

omit [UnicodeData] in
theorem closing_of_found {entry : DynamicEntry} (found : Found digits 2 entry) : Closing digits entry := by
  cases digits with
  | true =>
      cases found.shown rfl with
      | inl none => exact closing_of_ids none (by simp) (by simp)
      | inr again => exact closing_of_ids again.1 (by simp) (by simp [lastChecks, numbered, dynamicName])
  | false =>
      cases found.scanned rfl with
      | inl none => exact closing_of_ids none (by simp) (by simp)
      | inr scanned => exact closing_of_ids scanned (by simp) (by simp [lastChecks, numbered, dynamicQrName])

theorem judge_shown_ids (channels : List Json) (typed : String) : idsOf (judgeShown channels typed) = ["PAIR-DYN-009"] := by
  unfold judgeShown
  split
  · exact presentation_ids _ typed _
  · exact all_not_applicable_ids _ _

omit [UnicodeData] in
theorem ask_spoken_ids (language : String) :
    Gives (askSpoken link language) fun findings => idsOf findings = ["PAIR-DYN-011", "PAIR-DYN-012"] := by
  unfold askSpoken
  apply gives_then
  intro spoke
  apply gives_then
  intro heard
  exact gives_pure _ (by simp)

omit [UnicodeData] in
-- The human checks add those the provider leaves to them.
theorem closing_asked {entry : DynamicEntry} {shown spoken : List Finding} (found : Found true 2 entry)
    (shownIds : idsOf shown = ["PAIR-DYN-009"]) (spokenIds : idsOf spoken = ["PAIR-DYN-011", "PAIR-DYN-012"]) :
    Closing true { entry with findings := entry.findings ++ shown ++ spoken } := by
  cases found.shown rfl with
  | inl none =>
      have named : idsOf (entry.findings ++ shown ++ spoken) = ["PAIR-DYN-009", "PAIR-DYN-011", "PAIR-DYN-012"] := by
        simp [none, shownIds, spokenIds]
      apply closing_of_ids named
      · simp
      · simp [lastChecks, numbered, dynamicName]
  | inr again =>
      have named : idsOf (entry.findings ++ shown ++ spoken) =
          ["PAIR-DYN-010", "PAIR-DYN-009", "PAIR-DYN-011", "PAIR-DYN-012"] := by
        simp [again.1, shownIds, spokenIds]
      apply closing_of_ids named
      · simp
      · simp [lastChecks, numbered, dynamicName]

theorem ask_human_checks_meets (channels : List Json) (language : String) :
    Meets (fun state => Found digits 2 state.1) (askHumanChecks link digits channels language)
      (upon (fun _ state => Closing digits state.1) fun _ _ => True) := by
  unfold askHumanChecks
  refine read_then ?_
  intro entry started
  split
  · rename_i typed _
    let held (before : DynamicEntry) : Prop :=
      before = { entry with findings := entry.findings ++ judgeShown channels typed }
    refine meets_bind (fun _ state => held state.1) ?_ ?_
    · apply meets_change
      intro state same
      rw [same]
      rfl
    · intro _
      split
      · refine meets_bind
          (fun findings state => held state.1 ∧ idsOf findings = ["PAIR-DYN-011", "PAIR-DYN-012"]) ?_ ?_
        · refine meets_weaken (meets_within (ask_spoken_ids link language)) (fun _ same => same) ?_
          intro ended state told
          cases ended with
          | ok findings => exact told
          | error _ => trivial
        · intro findings
          apply meets_change
          intro state same
          rw [same.1]
          exact closing_asked started (judge_shown_ids channels typed) same.2
      · apply meets_change
        intro state same
        rw [same]
        exact closing_asked started (judge_shown_ids channels typed) (all_not_applicable_ids _ _)
  · apply meets_pure
    intro state same
    rw [← same] at started
    exact closing_of_found started

end DynamicEntry

theorem front_checks (digits : Bool) : (dynamicStep digits).checks =
    numbered (walkthrough digits) ["001", "002", "003", "004", "005", "006", "007", "008"] ++
      DynamicEntry.lastChecks digits := by
  cases digits <;> rfl

variable [UnicodeData]

theorem wrong_code_judged_named (entry : DynamicEntry) (name : String) (record : ConnectionRecord) (since : Nat) :
    Names [name ++ "-004"] (judgeWrongCode entry name record since) := by
  unfold judgeWrongCode
  split
  · exact wrong_code_named name record since
  · exact names_ok (all_not_applicable_ids _ _)

omit [UnicodeData] in
theorem stage_ids (digits : Bool) :
    (stageIds (walkthrough digits)).map Prod.snd = numbered (walkthrough digits) ["005", "006", "007", "008"] := by
  cases digits <;> rfl

omit [UnicodeData] in
theorem stages_ordered (name : String) : inStageOrder (stageIds name) = stageIds name := by
  simp [inStageOrder, stageIds, Stage.value]

theorem dynamic_checks_contribute (digits : Bool) (entry : DynamicEntry) (record : ConnectionRecord) (since : Nat)
    (closing : DynamicEntry.Closing digits entry) : ∀ findings, dynamicChecks digits entry record since = .ok findings →
      Contributes (dynamicStep digits) findings := by
  unfold dynamicChecks
  dsimp only
  refine names_then (commit_named _ record since) ?_
  intro commit commitIds
  refine names_then (pairing_index_named _ record since) ?_
  intro index indexIds
  refine names_then (cpace_lengths_named _ record since) ?_
  intro lengths lengthsIds
  refine names_then (wrong_code_judged_named entry _ record since) ?_
  intro wrong wrongIds
  refine names_then (verification_named _ record since (stages_ordered _)) ?_
  intro verified verifiedIds findings same
  cases same
  refine complete_contributes (front_checks digits) ?_ closing.1 closing.2
  rw [stage_ids] at verifiedIds
  simp only [ids_append, commitIds, indexIds, lengthsIds, wrongIds, verifiedIds]
  cases digits <;> rfl

omit [UnicodeData] in
theorem watch_wrong_code_keeps {held : DynamicEntry → Prop} (number : Nat) (done : Bool) :
    Keeps held (watchWrongCode link number done) := by
  unfold watchWrongCode
  apply keeps_bind DynamicEntry.read_keeps
  intro entry
  split
  · apply keeps_bind (keeps_within _)
    intro answered
    split
    · exact keeps_within _
    · exact keeps_pure _
  · exact keeps_pure _

-- What the provider's calls and a fresh attempt keep, the attempts of a step keep.
theorem dynamic_attempt_holds {held : DynamicEntry → Prop} (number : Nat) (digits : Bool)
    (provides : Keeps held (DynamicEntry.provide link number digits))
    (restarts : ∀ entry, held entry → held entry.restart) : Keeps held (dynamicAttempt link number digits) := by
  unfold dynamicAttempt
  apply keeps_bind
  · exact attempt_beside_keeps link number _ provides (watch_wrong_code_keeps link number)
  · intro error
    apply keeps_bind DynamicEntry.read_keeps
    intro entry
    split
    · apply DynamicEntry.edit_then
      · intro before found
        exact restarts before found
      · exact attempt_keeps link number provides
    · exact keeps_pure error

theorem dynamic_attempt_keeps (number : Nat) (digits : Bool) :
    Keeps (Found digits 2) (dynamicAttempt link number digits) := by
  apply dynamic_attempt_holds link number digits (DynamicEntry.provide_keeps link number)
  intro before found
  exact ⟨fun typed => (found.shown typed).imp_right fun again => ⟨again.1, le_rfl⟩, found.scanned⟩

theorem judge_dynamic_meets (number since : Nat) (digits : Bool) :
    Meets (fun state => DynamicEntry.Closing digits state.1) (judgeDynamic number since digits)
      (upon (fun findings _ => Contributes (dynamicStep digits) findings) fun _ _ => True) := by
  unfold judgeDynamic
  apply meets_read
  intro state closing before ended after _ ran
  cases judged : dynamicChecks digits state.1 (Link.record state.2 number) since with
  | error raised =>
      rw [judged] at ran
      cases ran
      trivial
  | ok findings =>
      rw [judged] at ran
      cases ran
      exact dynamic_checks_contribute digits state.1 _ since closing findings judged

theorem dynamic_attempts_meet (number since : Nat) (digits : Bool) (channels : List Json) (language : String) :
    Meets (fun state => Found digits 2 state.1) (dynamicAttempts link number since digits channels language)
      (upon (fun findings _ => Contributes (dynamicStep digits) findings) fun _ _ => True) := by
  unfold dynamicAttempts
  refine meets_bind (fun _ state => Found digits 2 state.1) ?_ ?_
  · refine meets_weaken (dynamic_attempt_keeps link number digits) (fun _ found => found) ?_
    intro ended state found
    cases ended with
    | ok _ => exact found
    | error _ => trivial
  · intro error
    split
    · apply meets_pure
      intro _ _
      exact contributes_of_ids (not_run_ids _ _ _)
    · refine meets_bind (fun _ state => Found digits 2 state.1) ?_ ?_
      · refine meets_weaken (keeps_within _) (fun _ found => found) ?_
        intro ended state found
        cases ended with
        | ok _ => exact found
        | error _ => trivial
      · intro _
        refine meets_bind (fun _ state => DynamicEntry.Closing digits state.1) ?_ ?_
        · exact DynamicEntry.ask_human_checks_meets link channels language
        · intro _
          exact judge_dynamic_meets number since digits

theorem dynamic_contributes (pairingFormat : PairingCodeFormat) (descriptor : Fields) :
    Gives (dynamic link pairingFormat descriptor) (Contributes (dynamicStep (pairingFormat == .digits))) := by
  unfold dynamic
  dsimp only
  apply gives_then
  intro number
  cases number with
  | none => exact gives_pure _ (not_reached_contributes _ _)
  | some connected =>
      apply gives_then
      intro world
      apply gives_opened
      refine meets_weaken (dynamic_attempts_meet link connected _ _ _ _) ?_ fun _ _ contributed => contributed
      intro state same
      rw [same]
      exact ⟨fun _ => Or.inl rfl, fun _ => Or.inl rfl⟩

-- The code's presentation is judged where a code was asked for, and once.
structure Presented (entry : StaticEntry) : Prop where
  unasked : entry.asked = false → entry.findings = []
  judged : idsOf entry.findings = [] ∨ idsOf entry.findings = ["PAIR-STATIC-008"]

theorem provide_static_keeps : Keeps Presented (provideStatic link) := by
  unfold provideStatic
  apply meets_read
  intro state presented
  split
  · intro _ _ _ _ ran
    cases ran
  · rename_i unasked
    let held (entry : StaticEntry) : Prop := entry.asked = true ∧ entry.findings = []
    refine meets_bind (fun _ state => held state.1) ?_ ?_
    · apply meets_change
      intro before same
      rw [same]
      exact ⟨rfl, presented.unasked (Bool.eq_false_iff.mpr unasked)⟩
    · intro _
      refine meets_bind (fun _ state => held state.1) ?_ ?_
      · refine meets_weaken (keeps_within _) (fun _ asked => asked) ?_
        intro ended after asked
        cases ended with
        | ok _ => exact asked
        | error _ => exact ⟨fun _ => asked.2, Or.inl (by rw [asked.2]; rfl)⟩
      · intro code
        refine meets_bind (fun _ state => Presented state.1) ?_ ?_
        · apply meets_change
          intro before asked
          refine ⟨fun never => absurd asked.1 (by simp_all), Or.inr ?_⟩
          rw [asked.2, List.nil_append, presentation_ids]
        · intro _
          exact keeps_pure code

theorem static_checks_contribute (entry : StaticEntry) (presented : Presented entry) (record : ConnectionRecord)
    (since : Nat) : ∀ findings, staticChecks entry.findings record since = .ok findings →
      Contributes .p3 findings := by
  unfold staticChecks
  refine names_then (static_pending_named record since) ?_
  intro pending pendingIds
  refine names_then (pairing_index_named _ record since) ?_
  intro index indexIds
  refine names_then (static_shape_named record since) ?_
  intro shape shapeIds
  refine names_then (static_order_named record since) ?_
  intro order orderIds
  refine names_then (cpace_lengths_named _ record since) ?_
  intro lengths lengthsIds
  refine names_then (verification_named _ record since rfl) ?_
  intro verified verifiedIds findings same
  cases same
  have split : Step.p3.checks =
      numbered staticName ["001", "002", "003", "004", "005", "006", "007"] ++ numbered staticName ["008"] := rfl
  apply complete_contributes split
  · simp only [ids_append, pendingIds, indexIds, shapeIds, orderIds, lengthsIds, verifiedIds]
    rfl
  · cases presented.judged with
    | inl none => simp [none]
    | inr shown => simp [shown]
  · cases presented.judged with
    | inl none => simp [none]
    | inr shown => simp [shown, numbered, staticName]

theorem static_attempt_meets (number since : Nat) :
    Meets (fun state => Presented state.1) (staticAttempt link number since)
      (upon (fun findings _ => Contributes .p3 findings) fun _ _ => True) := by
  unfold staticAttempt
  refine meets_bind (fun _ state => Presented state.1) ?_ ?_
  · refine meets_weaken (attempt_keeps link number (provide_static_keeps link)) (fun _ presented => presented) ?_
    intro ended state presented
    cases ended with
    | ok _ => exact presented
    | error _ => trivial
  · intro error
    split
    · apply meets_pure
      intro _ _
      exact contributes_of_ids (not_run_ids _ _ _)
    · refine meets_bind (fun _ state => Presented state.1) ?_ ?_
      · refine meets_weaken (keeps_within _) (fun _ presented => presented) ?_
        intro ended state presented
        cases ended with
        | ok _ => exact presented
        | error _ => trivial
      · intro _
        unfold judgeStatic
        apply meets_read
        intro state presented before ended after _ ran
        cases judged : staticChecks state.1.findings (Link.record state.2 number) since with
        | error raised =>
            rw [judged] at ran
            cases ran
            trivial
        | ok findings =>
            rw [judged] at ran
            cases ran
            exact static_checks_contribute state.1 presented _ since findings judged

theorem static_contributes : Gives (static link) (Contributes .p3) := by
  unfold static
  apply gives_then
  intro number
  cases number with
  | none => exact gives_pure _ (not_reached_contributes _ _)
  | some connected =>
      apply gives_then
      intro world
      apply gives_opened
      refine meets_weaken (static_attempt_meets link connected _) ?_ fun _ _ contributed => contributed
      intro state same
      rw [same]
      exact ⟨fun _ => rfl, Or.inl rfl⟩

theorem cancel_contributes (methods : Fields) : Gives (cancel link methods) (Contributes .p4Cancel) := by
  unfold cancel
  dsimp only
  apply gives_then
  intro number
  split
  · apply gives_then
    intro world
    apply gives_then
    intro _
    apply gives_then
    intro _
    apply gives_then
    intro last
    exact gives_named (cancel_named _ _)
  · exact gives_pure _ (not_reached_contributes _ _)

theorem timeout_contributes (methods : Fields) : Gives (timeout link methods) (Contributes .p4Timeout) := by
  unfold timeout
  dsimp only
  apply gives_then
  intro number
  split
  · apply gives_then
    intro world
    apply gives_then
    intro _
    apply gives_then
    intro _
    apply gives_then
    intro last
    exact gives_named (timeout_named _ _)
  · exact gives_pure _ (not_reached_contributes _ _)

theorem lockout_contributes : Gives (lockout link) (Contributes .p3Lockout) := by
  unfold lockout
  apply gives_then
  intro number
  cases number with
  | none => exact gives_pure _ (not_reached_contributes _ _)
  | some connected =>
      apply gives_then
      intro world
      apply gives_then
      intro _
      apply gives_then
      intro _
      apply gives_then
      intro last
      exact gives_named (lockout_named _ _)

end

end Conformance.Validator.CodePairing
