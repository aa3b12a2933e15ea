import Mathlib.Data.List.Dedup
import SendspinConformance.Python.Text

set_option autoImplicit false

namespace Conformance.Harness

open Python

-- What the comparison reads of a published result row. A row published before the
-- field existed carries no scenario revision.
structure ResultRow where
  environmentId : String
  scenarioId : String
  serverImpl : String
  clientImpl : String
  status : String
  scenarioRevision : Option Int
deriving DecidableEq, Repr

def ResultRow.passed (row : ResultRow) : Bool := row.status == "passed"

abbrev CaseKey := String × String × String

def caseKey (result : ResultRow) : CaseKey := (result.scenarioId, result.serverImpl, result.clientImpl)

-- The row a cell has in _baseline_passed_index: of the rows that passed, the last one.
def baselinePassed (baseline : List ResultRow) (key : CaseKey) : Option ResultRow :=
  (baseline.filter ResultRow.passed).reverse.find? fun result => caseKey result == key

def baselineStampsRevisions (baseline : List ResultRow) : Bool :=
  baseline.any fun result => result.scenarioRevision.isSome

def requireScenarioRevisions (current : List ResultRow) : Py Unit :=
  let missing := sorted ((current.filter fun result => result.scenarioRevision.isNone).map ResultRow.scenarioId).dedup
  if missing.isEmpty then .ok ()
  else .error ⟨"ValueError", "Local results carry no integer scenario_revision for: " ++ joinWith ", " missing ++
    ". Every scenario must declare one; see ScenarioSpec.scenario_revision."⟩

def predatesStamping : String := "baseline predates scenario revision stamping"

def revisionChanged : String := "scenario revision changed since the baseline"

def exemptionReason (baselineResult currentResult : ResultRow) (baselineIsStamped : Bool) : Py (Option String) :=
  match baselineResult.scenarioRevision, currentResult.scenarioRevision with
  | none, _ => .ok (if baselineIsStamped then none else some predatesStamping)
  | some _, none => .error ⟨"KeyError", "'scenario_revision'"⟩
  | some old, some new => .ok (if old ≠ new then some revisionChanged else none)

-- The rows a loop over the results appends something for.
def gathered {α : Type} (judge : ResultRow → Py (Option α)) : List ResultRow → Py (List α)
  | [] => .ok []
  | result :: rest =>
      match judge result, gathered judge rest with
      | .error raised, _ => .error raised
      | .ok _, .error raised => .error raised
      | .ok found, .ok others => .ok (found.toList ++ others)

def regressionOf (baseline : List ResultRow) (result : ResultRow) : Py (Option ResultRow) :=
  match baselinePassed baseline (caseKey result) with
  | none => .ok none
  | some baselineResult =>
      (exemptionReason baselineResult result (baselineStampsRevisions baseline)).map fun reason =>
        if reason.isSome then none else if result.passed then none else some result

def detectRegressions (baseline current : List ResultRow) : Py (List ResultRow) :=
  gathered (regressionOf baseline) current

def exemptionOf (baseline : List ResultRow) (result : ResultRow) : Py (Option (ResultRow × String)) :=
  match baselinePassed baseline (caseKey result) with
  | none => .ok none
  | some baselineResult =>
      if result.passed then .ok none
      else (exemptionReason baselineResult result (baselineStampsRevisions baseline)).map fun reason =>
        reason.map fun why => (result, why)

def exemptCases (baseline current : List ResultRow) : Py (List (ResultRow × String)) :=
  gathered (exemptionOf baseline) current

-- The two rows were produced by one revision of the scenario, or the baseline stamps
-- revisions and its row lacks one.
def Comparable (baseline : List ResultRow) (baselineResult result : ResultRow) : Prop :=
  baselineResult.scenarioRevision = result.scenarioRevision ∨
    (baselineResult.scenarioRevision = none ∧ baselineStampsRevisions baseline = true)

theorem gathered_ok {α : Type} (judge : ResultRow → Py (Option α)) (found : ResultRow → Option α)
    (current : List ResultRow) (judged : ∀ result ∈ current, judge result = .ok (found result)) :
    gathered judge current = .ok (current.filterMap found) := by
  induction current with
  | nil => rfl
  | cons result rest ih =>
      have first := judged result List.mem_cons_self
      have others := ih fun other member => judged other (List.mem_cons_of_mem result member)
      rw [gathered, first, others, List.filterMap_cons]
      cases found result <;> rfl

-- Rows a loop picks, in the order of the loop.
theorem picked_sublist {α β : Type} (pick : α → Option β) (row : β → α) (rows : List α)
    (own : ∀ one picked, pick one = some picked → row picked = one) : List.Sublist ((rows.filterMap pick).map row) rows := by
  induction rows with
  | nil => exact List.Sublist.slnil
  | cons one rest ih =>
      cases picks : pick one with
      | none =>
          rw [List.filterMap_cons_none picks]
          exact ih.cons one
      | some picked =>
          rw [List.filterMap_cons_some picks, List.map_cons, own one picked picks]
          exact ih.cons_cons one

theorem baseline_passed_some (baseline : List ResultRow) (key : CaseKey) (result : ResultRow)
    (found : baselinePassed baseline key = some result) :
    result ∈ baseline ∧ result.passed = true ∧ caseKey result = key := by
  have member := List.mem_of_find?_eq_some found
  have sameKey := List.find?_some found
  rw [List.mem_reverse, List.mem_filter] at member
  exact ⟨member.1, member.2, by simpa using sameKey⟩

theorem baseline_passed_exists (baseline : List ResultRow) (result : ResultRow) (member : result ∈ baseline)
    (passed : result.passed = true) : ∃ last, baselinePassed baseline (caseKey result) = some last := by
  rw [← Option.isSome_iff_exists, baselinePassed, List.find?_isSome]
  refine ⟨result, ?_, by simp⟩
  rw [List.mem_reverse, List.mem_filter]
  exact ⟨member, passed⟩

theorem require_revisions_ok (current : List ResultRow) (stamped : requireScenarioRevisions current = .ok ())
    (result : ResultRow) (member : result ∈ current) : ∃ revision, result.scenarioRevision = some revision := by
  cases revision : result.scenarioRevision with
  | some number => exact ⟨number, rfl⟩
  | none =>
      have isMissing : result.scenarioId ∈
          sorted ((current.filter fun row => row.scenarioRevision.isNone).map ResultRow.scenarioId).dedup := by
        rw [sorted, (List.perm_insertionSort _ _).mem_iff, List.mem_dedup, List.mem_map]
        exact ⟨result, List.mem_filter.mpr ⟨member, by rw [revision]; rfl⟩, rfl⟩
      have notEmpty := List.ne_nil_of_mem isMissing
      simp [requireScenarioRevisions, notEmpty] at stamped

-- A stamped row is compared without an error, and is exempt unless the rows are comparable.
theorem exemption_answers (baseline : List ResultRow) (baselineResult result : ResultRow)
    (stamped : ∃ revision, result.scenarioRevision = some revision) :
    ∃ reason, exemptionReason baselineResult result (baselineStampsRevisions baseline) = .ok reason ∧
      (reason = none ↔ Comparable baseline baselineResult result) := by
  obtain ⟨revision, isStamped⟩ := stamped
  rw [exemptionReason, Comparable, isStamped]
  cases baselineResult.scenarioRevision with
  | none =>
      refine ⟨_, rfl, ?_⟩
      cases baselineStampsRevisions baseline <;> simp
  | some old =>
      refine ⟨_, rfl, ?_⟩
      by_cases same : old = revision <;> simp [same]

-- Where a row goes: nowhere, among the regressions, or among the exempt with a reason.
def placed (baseline : List ResultRow) (result : ResultRow) : Option (Option String) :=
  match baselinePassed baseline (caseKey result) with
  | none => none
  | some baselineResult =>
      if result.passed then none
      else
        match exemptionReason baselineResult result (baselineStampsRevisions baseline) with
        | .ok reason => some reason
        | .error _ => none

theorem placed_regression (baseline : List ResultRow) (result : ResultRow)
    (stamped : ∃ revision, result.scenarioRevision = some revision) :
    regressionOf baseline result = .ok (if placed baseline result = some none then some result else none) := by
  rw [regressionOf, placed]
  cases baselinePassed baseline (caseKey result) with
  | none => simp
  | some baselineResult =>
      obtain ⟨reason, answers, _⟩ := exemption_answers baseline baselineResult result stamped
      cases passed : result.passed <;> cases reason <;> simp [answers, Except.map]

theorem placed_exemption (baseline : List ResultRow) (result : ResultRow)
    (stamped : ∃ revision, result.scenarioRevision = some revision) :
    exemptionOf baseline result = .ok ((placed baseline result).bind fun reason => reason.map (result, ·)) := by
  rw [exemptionOf, placed]
  cases baselinePassed baseline (caseKey result) with
  | none => simp
  | some baselineResult =>
      obtain ⟨reason, answers, _⟩ := exemption_answers baseline baselineResult result stamped
      cases passed : result.passed <;> cases reason <;> simp [answers, Except.map]

theorem placed_passed (baseline : List ResultRow) (result : ResultRow) (passed : result.passed = true) :
    placed baseline result = none := by
  rw [placed]
  cases baselinePassed baseline (caseKey result) with
  | none => rfl
  | some baselineResult => simp [passed]

theorem placed_unmatched (baseline : List ResultRow) (result : ResultRow)
    (unmatched : ∀ row ∈ baseline, row.passed = true → caseKey row ≠ caseKey result) : placed baseline result = none := by
  rw [placed]
  cases found : baselinePassed baseline (caseKey result) with
  | none => rfl
  | some last =>
      obtain ⟨member, passed, sameKey⟩ := baseline_passed_some baseline _ last found
      exact absurd sameKey (unmatched last member passed)

theorem placed_compared (baseline : List ResultRow) (result baselineResult : ResultRow)
    (stamped : ∃ revision, result.scenarioRevision = some revision) (failed : result.passed = false)
    (compared : baselinePassed baseline (caseKey result) = some baselineResult) :
    ∃ reason, placed baseline result = some reason ∧ (reason = none ↔ Comparable baseline baselineResult result) := by
  obtain ⟨reason, answers, exempt⟩ := exemption_answers baseline baselineResult result stamped
  exact ⟨reason, by simp [placed, compared, failed, answers], exempt⟩

theorem regressed_iff (baseline current : List ResultRow) (result : ResultRow) :
    result ∈ current.filterMap (fun row => if placed baseline row = some none then some row else none) ↔
      result ∈ current ∧ placed baseline result = some none := by
  simp only [List.mem_filterMap, Option.ite_none_right_eq_some, Option.some.injEq]
  apply Iff.intro
  · intro found
    obtain ⟨row, member, here, same⟩ := found
    exact ⟨same ▸ member, same ▸ here⟩
  · intro found
    exact ⟨result, found.1, found.2, rfl⟩

theorem exempt_iff (baseline current : List ResultRow) (result : ResultRow) (why : String) :
    (result, why) ∈ current.filterMap (fun row => (placed baseline row).bind fun reason => reason.map (row, ·)) ↔
      result ∈ current ∧ placed baseline result = some (some why) := by
  simp only [List.mem_filterMap, Option.bind_eq_some_iff, Option.map_eq_some_iff, Prod.mk.injEq]
  apply Iff.intro
  · intro found
    obtain ⟨row, member, reason, here, text, isText, same, sameText⟩ := found
    subst same sameText isText
    exact ⟨member, here⟩
  · intro found
    exact ⟨result, found.1, some why, found.2, why, rfl, rfl, rfl⟩

-- Every current row against the last passed baseline row of its cell, in whatever
-- environment; where all of the cell's passed rows carry the revision of the row's
-- own, that is its own row.
theorem regressions_judged (baseline current : List ResultRow) (stamped : requireScenarioRevisions current = .ok ()) :
    ∃ regressions exempt, detectRegressions baseline current = .ok regressions ∧
      exemptCases baseline current = .ok exempt ∧
      List.Sublist regressions current ∧ List.Sublist (exempt.map Prod.fst) current ∧
      (∀ result ∈ current, result.passed = true → result ∉ regressions ∧ ∀ why, (result, why) ∉ exempt) ∧
      (∀ result ∈ current, (∀ row ∈ baseline, row.passed = true → caseKey row ≠ caseKey result) →
        result ∉ regressions ∧ ∀ why, (result, why) ∉ exempt) ∧
      (∀ result ∈ current, result.passed = false → ∀ last, baselinePassed baseline (caseKey result) = some last →
        (result ∈ regressions ↔ Comparable baseline last result) ∧
        ((∃ why, (result, why) ∈ exempt) ↔ ¬ Comparable baseline last result)) ∧
      (∀ result ∈ current, result.passed = false → ∀ own ∈ baseline, own.passed = true →
        caseKey own = caseKey result →
        (∀ row ∈ baseline, row.passed = true → caseKey row = caseKey own →
          row.scenarioRevision = own.scenarioRevision) →
        (result ∈ regressions ↔ Comparable baseline own result) ∧
        ((∃ why, (result, why) ∈ exempt) ↔ ¬ Comparable baseline own result)) ∧
      ((∀ row ∈ current, ∀ result ∈ current, caseKey row = caseKey result → row.passed = result.passed) →
        detectRegressions current current = .ok []) := by
  have revisions := require_revisions_ok current stamped
  have detected (rows : List ResultRow) : detectRegressions rows current =
      .ok (current.filterMap fun row => if placed rows row = some none then some row else none) :=
    gathered_ok _ _ current fun result member => placed_regression rows result (revisions result member)
  have exempted : exemptCases baseline current =
      .ok (current.filterMap fun row => (placed baseline row).bind fun reason => reason.map (row, ·)) :=
    gathered_ok _ _ current fun result member => placed_exemption baseline result (revisions result member)
  have compared (result : ResultRow) (member : result ∈ current) (failed : result.passed = false) (last : ResultRow)
      (found : baselinePassed baseline (caseKey result) = some last) :
      (result ∈ current.filterMap (fun row => if placed baseline row = some none then some row else none) ↔
        Comparable baseline last result) ∧
      ((∃ why, (result, why) ∈
        current.filterMap fun row => (placed baseline row).bind fun reason => reason.map (row, ·)) ↔
        ¬ Comparable baseline last result) := by
    obtain ⟨reason, here, exempt⟩ :=
      placed_compared baseline result last (revisions result member) failed found
    simp only [regressed_iff, exempt_iff, here, member, true_and, Option.some.injEq]
    refine ⟨exempt, ?_⟩
    rw [← exempt, ← ne_eq, Option.ne_none_iff_exists']
  have neither (result : ResultRow) (nowhere : placed baseline result = none) :
      result ∉ current.filterMap (fun row => if placed baseline row = some none then some row else none) ∧
      ∀ why, (result, why) ∉
        current.filterMap fun row => (placed baseline row).bind fun reason => reason.map (row, ·) := by
    refine ⟨?_, fun why => ?_⟩
    · rw [regressed_iff, nowhere]
      exact fun found => absurd found.2 (by decide)
    · rw [exempt_iff, nowhere]
      exact fun found => absurd found.2 (by simp)
  refine ⟨_, _, detected baseline, exempted, ?_, ?_, ?_, ?_, compared, ?_, ?_⟩
  · rw [← List.map_id (current.filterMap _)]
    exact picked_sublist _ id current (by simp)
  · refine picked_sublist _ Prod.fst current ?_
    intro row picked picks
    simp only [Option.bind_eq_some_iff, Option.map_eq_some_iff] at picks
    obtain ⟨_, _, _, _, rfl⟩ := picks
    rfl
  · exact fun result _ passed => neither result (placed_passed baseline result passed)
  · exact fun result _ unmatched => neither result (placed_unmatched baseline result unmatched)
  · intro result member failed own inBaseline ownPassed sameCell sameRevision
    obtain ⟨last, found⟩ := baseline_passed_exists baseline own inBaseline ownPassed
    obtain ⟨lastIn, lastPassed, lastCell⟩ := baseline_passed_some baseline _ last found
    have revision := sameRevision last lastIn lastPassed lastCell
    have asLast := compared result member failed last (sameCell ▸ found)
    rw [Comparable, revision] at asLast
    exact asLast
  · intro agree
    rw [detected current]
    congr 1
    rw [List.filterMap_eq_nil_iff]
    intro result member
    cases found : baselinePassed current (caseKey result) with
    | none => simp [placed, found]
    | some last =>
        obtain ⟨lastIn, lastPassed, lastCell⟩ := baseline_passed_some current _ last found
        have passed : result.passed = true := by rw [← agree last lastIn result member lastCell, lastPassed]
        simp [placed_passed current result passed]

def linuxRow : ResultRow := ⟨"linux", "pcm", "aiosendspin", "sendspin-rs", "passed", some 1⟩

def macosRow : ResultRow := ⟨"macos", "pcm", "aiosendspin", "sendspin-rs", "failed", some 1⟩

theorem one_stamped_row : ∃ regressions exempt, detectRegressions [linuxRow] [macosRow] = .ok regressions ∧
    exemptCases [linuxRow] [macosRow] = .ok exempt ∧ macosRow ∈ regressions := by
  obtain ⟨regressions, exempt, detected, exempted, _, _, _, _, compared, _⟩ :=
    regressions_judged [linuxRow] [macosRow] (by decide)
  exact ⟨regressions, exempt, detected, exempted, (compared macosRow (by decide) (by decide) linuxRow (by decide)).1.mpr
    (Or.inl rfl)⟩

-- One environment's failure is a regression against another's pass in the same list.
theorem failure_regresses_beside_a_pass : detectRegressions [linuxRow, macosRow] [linuxRow, macosRow] = .ok [macosRow] := by
  decide

end Conformance.Harness
