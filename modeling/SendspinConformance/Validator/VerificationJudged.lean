import SendspinConformance.Validator.CodePairingChecks

set_option autoImplicit false

namespace Conformance.Validator.CodePairing

open Python Protocol Suite

def allStages : List Stage := [.clientKc, .commit, .binding, .unwrap]

def sharedStages : List Stage := [.clientKc, .unwrap]

-- A check map: an id for each of the stages it judges.
def checkMap (stages : List Stage) (ids : Stage → String) : List (Stage × String) := stages.map fun stage => (stage, ids stage)

-- The first item of a list with a property, and the last one.
def IsFirst {α : Type} (holds : α → Prop) (items : List α) (item : α) : Prop :=
  holds item ∧ ∃ front back, items = front ++ item :: back ∧ ∀ other ∈ front, ¬holds other

def IsLast {α : Type} (holds : α → Prop) (items : List α) (item : α) : Prop :=
  holds item ∧ ∃ front back, items = front ++ item :: back ∧ ∀ other ∈ back, ¬holds other

def Confirms (since : Nat) (frame : RecordedFrame) : Prop := since < frame.id ∧ isIn "client/pair-confirm" frame = true

-- After its last confirm the client was not refused, was sent server/pair-finalize, and the
-- first keying after that was by the long-term PSK.
def Verified (record : ConnectionRecord) (since : Nat) : Prop :=
  ∃ confirm, IsLast (Confirms since) record.frames confirm ∧
    (∀ frame ∈ record.frames, confirm.id < frame.id → codeMismatch frame = false) ∧
    ∃ finalize, IsFirst (fun frame => confirm.id < frame.id ∧ isOut "server/pair-finalize" frame = true)
        record.frames finalize ∧
      ∃ keying, IsFirst (fun event => event.kind = .keyed ∧ finalize.id < placeOf event) record.events keying ∧
        keying.pskCategory = some longTerm

-- A run of passes, then at most one failure, and after it only checks that were not reached.
def Staged (verdicts : List Verdict) : Prop :=
  ∃ passes, verdicts = List.replicate passes .pass ∨
    ∃ unreached, verdicts = List.replicate passes .pass ++ .fail :: List.replicate unreached .notApplicable

theorem find_first {α : Type} (holds : α → Bool) (items : List α) (item : α) :
    items.find? holds = some item ↔ IsFirst (fun other => holds other = true) items item := by
  rw [List.find?_eq_some_iff_append, IsFirst]
  simp

theorem find_last {α : Type} (holds : α → Bool) (items : List α) (item : α) :
    items.reverse.find? holds = some item ↔ IsLast (fun other => holds other = true) items item := by
  rw [List.find?_eq_some_iff_append, IsLast]
  refine and_congr_right fun _ => ⟨?_, ?_⟩
  · rintro ⟨front, back, split, absent⟩
    refine ⟨back.reverse, front.reverse, ?_, ?_⟩
    · rw [← List.reverse_reverse items, split]
      simp
    · intro other isOther
      simpa using absent other (List.mem_reverse.mp isOther)
  · rintro ⟨front, back, split, absent⟩
    refine ⟨back.reverse, front.reverse, ?_, ?_⟩
    · rw [split]
      simp
    · intro other isOther
      simpa using absent other (List.mem_reverse.mp isOther)

theorem first_congr {α : Type} (holds other : α → Prop) (items : List α) (item : α)
    (same : ∀ entry, holds entry ↔ other entry) : IsFirst holds items item ↔ IsFirst other items item := by
  rw [show holds = other from funext fun entry => propext (same entry)]

theorem last_confirm (record : ConnectionRecord) (since : Nat) (confirm : RecordedFrame) :
    lastIn record since "client/pair-confirm" = some confirm ↔ IsLast (Confirms since) record.frames confirm := by
  have same : Confirms since =
      fun frame => (decide (since < frame.id) && isIn "client/pair-confirm" frame) = true := by
    funext frame
    simp [Confirms]
  rw [lastIn, find_last, same]

theorem no_confirm (record : ConnectionRecord) (since : Nat) :
    lastIn record since "client/pair-confirm" = none ↔ ∀ frame ∈ record.frames, ¬Confirms since frame := by
  rw [lastIn, List.find?_eq_none]
  simp [Confirms]

theorem promoted_iff (record : ConnectionRecord) (finalize : RecordedFrame) :
    promotionFailure record finalize = none ↔
      ∃ keying, IsFirst (fun event => event.kind = .keyed ∧ finalize.id < placeOf event) record.events keying ∧
        keying.pskCategory = some longTerm := by
  have found : keyedAfter record finalize =
      record.events.find? fun event => event.kind == .keyed && decide (finalize.id < placeOf event) := by
    rw [keyedAfter, keyedEvents, List.find?_filter]
    refine congrArg (fun holds => record.events.find? holds) (funext fun event => ?_)
    rw [Bool.decide_and, Bool.decide_coe, Bool.decide_coe]
  rw [promotionFailure, found]
  have first : ∀ keying, (record.events.find? fun event => event.kind == .keyed && decide (finalize.id < placeOf event)) =
      some keying ↔ IsFirst (fun event => event.kind = .keyed ∧ finalize.id < placeOf event) record.events keying := by
    intro keying
    rw [find_first]
    exact first_congr _ _ _ _ fun event => by simp
  cases keyed : record.events.find? fun event => event.kind == .keyed && decide (finalize.id < placeOf event) with
  | none =>
      refine iff_of_false (by simp [isLongTerm]) ?_
      rintro ⟨keying, isFirst, _⟩
      rw [(first keying).mpr isFirst] at keyed
      cases keyed
  | some event =>
      have isFirst := (first event).mp keyed
      apply Iff.intro
      · intro promoted
        refine ⟨event, isFirst, ?_⟩
        by_contra other
        simp [isLongTerm, other] at promoted
      · rintro ⟨keying, isKeying, category⟩
        have same : event = keying := Option.some.inj (keyed.symm.trans ((first keying).mpr isKeying))
        rw [same]
        simp [isLongTerm, category]

-- What the checks of a confirm find: nothing to judge, nothing to tell, or the stage that failed.
def stageVerdict (failed : Option Stage) (stage : Stage) : Verdict :=
  match failed with
  | none => .pass
  | some failedStage =>
      if stage.value < failedStage.value then .pass else if stage = failedStage then .fail else .notApplicable

theorem stage_finding_verdict (confirm : RecordedFrame) (failed : Option Stage) (message : String)
    (frames : List RecordedFrame) (check : Stage × String) :
    (stageFinding confirm failed message frames check).verdict = stageVerdict failed check.1 ∧
      (stageFinding confirm failed message frames check).id = check.2 := by
  cases failed with
  | none => exact ⟨rfl, rfl⟩
  | some stage =>
      simp only [stageFinding, stageVerdict]
      split
      · exact ⟨rfl, rfl⟩
      · split <;> exact ⟨rfl, rfl⟩

theorem staged_verdicts (failed : Option Stage) : Staged (allStages.map (stageVerdict failed)) := by
  cases failed with
  | none => exact ⟨4, Or.inl rfl⟩
  | some stage =>
      cases stage with
      | clientKc => exact ⟨0, Or.inr ⟨3, rfl⟩⟩
      | commit => exact ⟨1, Or.inr ⟨2, rfl⟩⟩
      | binding => exact ⟨2, Or.inr ⟨1, rfl⟩⟩
      | unwrap => exact ⟨3, Or.inr ⟨0, rfl⟩⟩

-- The verdict the checks give a stage, and the stage that failed where one is known.
def verdictAt (record : ConnectionRecord) (since : Nat) (stage : Stage) : Verdict :=
  match lastIn record since "client/pair-confirm" with
  | none => .notApplicable
  | some confirm =>
      match verification record confirm with
      | .judged failed _ _ => stageVerdict failed stage
      | .untold _ => .toolError

theorem mapped_findings (stages : List Stage) (ids : Stage → String) (give : Stage × String → Finding)
    (verdict : Stage → Verdict) (each : ∀ check, (give check).verdict = verdict check.1 ∧ (give check).id = check.2) :
    ((checkMap stages ids).map give).map Finding.id = stages.map ids ∧
      ((checkMap stages ids).map give).map Finding.verdict = stages.map verdict := by
  simp only [checkMap, List.map_map]
  apply And.intro
  · exact List.map_congr_left fun stage _ => (each (stage, ids stage)).2
  · exact List.map_congr_left fun stage _ => (each (stage, ids stage)).1

theorem checked_map (stages : List Stage) (inOrder : ∀ ids, inStageOrder (checkMap stages ids) = checkMap stages ids)
    (ids : Stage → String) (record : ConnectionRecord) (since : Nat) :
    ∃ findings, checkVerification (checkMap stages ids) record since = .ok findings ∧
      findings.map Finding.id = stages.map ids ∧ findings.map Finding.verdict = stages.map (verdictAt record since) := by
  cases last : lastIn record since "client/pair-confirm" with
  | none =>
      have verdicts : ∀ stage, verdictAt record since stage = .notApplicable := fun stage => by simp [verdictAt, last]
      simp only [checkVerification, last]
      exact ⟨_, rfl, mapped_findings stages ids _ _ fun check => ⟨(verdicts check.1).symm, rfl⟩⟩
  | some confirm =>
      cases told : verification record confirm with
      | untold message =>
          have verdicts : ∀ stage, verdictAt record since stage = .toolError := fun stage => by
            simp [verdictAt, last, told]
          simp only [checkVerification, last, told]
          exact ⟨_, rfl, mapped_findings stages ids _ _ fun check => ⟨(verdicts check.1).symm, rfl⟩⟩
      | judged failed message frames =>
          have verdicts : ∀ stage, verdictAt record since stage = stageVerdict failed stage := fun stage => by
            simp [verdictAt, last, told]
          simp only [checkVerification, last, told, inOrder]
          refine ⟨_, rfl, mapped_findings stages ids _ _ fun check => ?_⟩
          rw [verdicts]
          exact stage_finding_verdict confirm failed message frames check

theorem first_after_first (record : ConnectionRecord) (since : Nat) (holds : RecordedFrame → Bool)
    (frame : RecordedFrame) :
    firstAfter record since holds = some frame ↔
      IsFirst (fun other => since < other.id ∧ holds other = true) record.frames frame := by
  rw [firstAfter, find_first]
  exact first_congr _ _ _ _ fun other => by simp

theorem verdicts_passed (failed : Option Stage) : (∀ stage, stageVerdict failed stage = .pass) ↔ failed = none := by
  cases failed with
  | none => exact iff_of_true (fun _ => rfl) rfl
  | some stage =>
      refine iff_of_false (fun passed => ?_) (by simp)
      have own := passed stage
      simp [stageVerdict] at own

-- A judged confirm passed every check where it was neither refused nor left without promotion.
theorem verification_passed (record : ConnectionRecord) (confirm : RecordedFrame) :
    (∃ message frames, verification record confirm = .judged none message frames) ↔
      (∀ frame ∈ record.frames, confirm.id < frame.id → codeMismatch frame = false) ∧
      ∃ finalize, IsFirst (fun frame => confirm.id < frame.id ∧ isOut "server/pair-finalize" frame = true)
        record.frames finalize ∧ promotionFailure record finalize = none := by
  have refused : firstAfter record confirm.id codeMismatch = none ↔
      ∀ frame ∈ record.frames, confirm.id < frame.id → codeMismatch frame = false := by
    rw [firstAfter, List.find?_eq_none]
    simp
  simp only [← refused, ← first_after_first, verification]
  cases firstAfter record confirm.id codeMismatch with
  | some abort => simp
  | none =>
      cases firstAfter record confirm.id (isOut "server/pair-finalize") with
      | some finalize => simp
      | none => cases failureStage ((failureAfter record confirm).bind RecordedEvent.detail) <;> simp

theorem all_pass_iff (record : ConnectionRecord) (since : Nat) :
    (∀ stage, verdictAt record since stage = .pass) ↔ Verified record since := by
  have onlyLast : ∀ confirm, lastIn record since "client/pair-confirm" = some confirm →
      ∀ other, IsLast (Confirms since) record.frames other → other = confirm := by
    intro confirm isLast other isOther
    exact Option.some.inj (((last_confirm record since other).mpr isOther).symm.trans isLast)
  cases last : lastIn record since "client/pair-confirm" with
  | none =>
      refine iff_of_false (fun passed => ?_) ?_
      · have first := passed .clientKc
        simp [verdictAt, last] at first
      · rintro ⟨confirm, isLast, _⟩
        rw [(last_confirm record since confirm).mpr isLast] at last
        cases last
  | some confirm =>
      have verified : Verified record since ↔
          (∀ frame ∈ record.frames, confirm.id < frame.id → codeMismatch frame = false) ∧
          ∃ finalize, IsFirst (fun frame => confirm.id < frame.id ∧ isOut "server/pair-finalize" frame = true)
              record.frames finalize ∧ promotionFailure record finalize = none := by
        simp only [promoted_iff]
        apply Iff.intro
        · rintro ⟨other, isLast, rest⟩
          rw [onlyLast confirm last other isLast] at rest
          exact rest
        · exact fun rest => ⟨confirm, (last_confirm record since confirm).mp last, rest⟩
      rw [verified, ← verification_passed]
      cases told : verification record confirm with
      | untold message =>
          refine iff_of_false (fun passed => ?_) (by simp)
          have first := passed .clientKc
          simp [verdictAt, last, told] at first
      | judged failed message frames =>
          simp only [verdictAt, last, told, verdicts_passed]
          simp

theorem not_reached_iff (record : ConnectionRecord) (since : Nat) :
    (∀ stage, verdictAt record since stage = .notApplicable) ↔ ∀ frame ∈ record.frames, ¬Confirms since frame := by
  rw [← no_confirm]
  cases last : lastIn record since "client/pair-confirm" with
  | none => simp [verdictAt, last]
  | some confirm =>
      refine iff_of_false (fun unreached => ?_) (by simp)
      have first := unreached .clientKc
      cases told : verification record confirm with
      | untold message => simp [verdictAt, last, told] at first
      | judged failed message frames =>
          simp only [verdictAt, last, told] at first
          cases failed with
          | none => cases first
          | some stage => cases stage <;> cases first

theorem verdicts_shaped (record : ConnectionRecord) (since : Nat) :
    (∀ stage, verdictAt record since stage = .notApplicable) ∨ (∀ stage, verdictAt record since stage = .toolError) ∨
      Staged (allStages.map (verdictAt record since)) := by
  cases last : lastIn record since "client/pair-confirm" with
  | none => exact Or.inl fun stage => by simp [verdictAt, last]
  | some confirm =>
      cases told : verification record confirm with
      | untold message => exact Or.inr (Or.inl fun stage => by simp [verdictAt, last, told])
      | judged failed message frames =>
          have same : verdictAt record since = stageVerdict failed := by
            funext stage
            simp [verdictAt, last, told]
          rw [same]
          exact Or.inr (Or.inr (staged_verdicts failed))

theorem every_stage (holds : Stage → Prop) : (∀ stage ∈ allStages, holds stage) ↔ ∀ stage, holds stage := by
  refine ⟨fun each stage => each stage ?_, fun each stage _ => each stage⟩
  cases stage <;> simp [allStages]

-- The findings of the four checks of a confirm, and of the two a static flow has of them.
theorem verification_findings (record : ConnectionRecord) (since : Nat) (ids staticIds : Stage → String) :
    ∃ findings static, checkVerification (checkMap allStages ids) record since = .ok findings ∧
      checkVerification (checkMap sharedStages staticIds) record since = .ok static ∧
      findings.map Finding.id = allStages.map ids ∧ static.map Finding.id = sharedStages.map staticIds ∧
      ((∀ finding ∈ findings, finding.verdict = .notApplicable) ∨ (∀ finding ∈ findings, finding.verdict = .toolError) ∨
        Staged (findings.map Finding.verdict)) ∧
      ((∀ finding ∈ findings, finding.verdict = .notApplicable) ↔ ∀ frame ∈ record.frames, ¬Confirms since frame) ∧
      ((∀ finding ∈ findings, finding.verdict = .pass) ↔ Verified record since) ∧
      ∃ verdict : Stage → Verdict, findings.map Finding.verdict = allStages.map verdict ∧
        static.map Finding.verdict = sharedStages.map verdict := by
  obtain ⟨findings, checked, ids, verdicts⟩ := checked_map allStages (fun _ => rfl) ids record since
  obtain ⟨static, staticChecked, staticIds, staticVerdicts⟩ := checked_map sharedStages (fun _ => rfl) staticIds record since
  have every : ∀ verdict : Verdict, (∀ finding ∈ findings, finding.verdict = verdict) ↔
      ∀ stage, verdictAt record since stage = verdict := by
    intro verdict
    have listed : (∀ finding ∈ findings, finding.verdict = verdict) ↔
        ∀ given ∈ findings.map Finding.verdict, given = verdict := by simp
    rw [listed, verdicts, List.forall_mem_map]
    exact every_stage _
  refine ⟨findings, static, checked, staticChecked, ids, staticIds, ?_, ?_, ?_, _, verdicts, staticVerdicts⟩
  · rw [every, every, verdicts]
    exact verdicts_shaped record since
  · rw [every]
    exact not_reached_iff record since
  · rw [every]
    exact all_pass_iff record since

end Conformance.Validator.CodePairing
