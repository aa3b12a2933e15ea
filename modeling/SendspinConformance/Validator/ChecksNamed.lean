import SendspinConformance.Validator.StepChecks

set_option autoImplicit false

namespace Conformance.Validator

open Python

def idsOf (findings : List Finding) : List String := findings.map Finding.id

-- Where the check returns, these are the ids it reports, in this order.
def Names (ids : List String) (judged : Py (List Finding)) : Prop := ∀ findings, judged = .ok findings → idsOf findings = ids

@[simp] theorem ids_nil : idsOf [] = [] := rfl

@[simp] theorem ids_cons (finding : Finding) (rest : List Finding) : idsOf (finding :: rest) = finding.id :: idsOf rest := rfl

@[simp] theorem ids_append (front back : List Finding) : idsOf (front ++ back) = idsOf front ++ idsOf back :=
  List.map_append

theorem names_ok {ids : List String} {findings : List Finding} (named : idsOf findings = ids) :
    Names ids (.ok findings) := by
  intro found same
  cases same
  exact named

theorem names_error {ids : List String} (raised : PyError) : Names ids (.error raised) := by
  intro found same
  cases same

theorem names_map {α : Type} {ids : List String} (told : Py α) (findings : α → List Finding)
    (named : ∀ value, idsOf (findings value) = ids) : Names ids (told.map findings) := by
  cases told with
  | error raised => exact names_error raised
  | ok value => exact names_ok (named value)

namespace Suite

@[simp] theorem finding_id (checkId : String) (verdict : Verdict) (message : String) (frames : List RecordedFrame) :
    (finding checkId verdict message frames).id = checkId := rfl

@[simp] theorem not_applicable_id (checkId message : String) : (notApplicable checkId message).id = checkId := rfl

@[simp] theorem not_reached_id (checkId : String) : (notReached checkId).id = checkId := rfl

theorem not_run_ids (checkIds : List String) (verdict : Verdict) (message : String) :
    idsOf (notRun checkIds verdict message) = checkIds := by
  simp [idsOf, notRun, Function.comp_def]

variable [UnicodeData]

theorem pairing_token_ids (token : String) (clientId : Option String) :
    idsOf (checkPairingToken token clientId) = ["PAIR-PSK-001", "PAIR-PSK-002"] := by
  unfold checkPairingToken
  cases decodePskToken token with
  | error raised => simp
  | ok decoded =>
      cases clientId with
      | none => simp
      | some connected =>
          dsimp only
          split <;> simp

theorem unkeyed_named (record : ConnectionRecord) (checkId expected : String) :
    Names [checkId] (unkeyed record checkId expected) := by
  unfold unkeyed
  split
  · apply names_map
    intro name
    split <;> simp
  · exact names_ok (by simp)

theorem judge_keying_named (record : ConnectionRecord) (checkId expected passed : String) (kept : Option String) :
    Names [checkId] (judgeKeying record checkId expected passed kept) := by
  unfold judgeKeying
  split
  · exact unkeyed_named record checkId expected
  · dsimp only
    split
    · exact names_ok (by simp)
    · apply names_map
      intro told
      simp

theorem judge_goodbye_id (checkId reason : String) (activation goodbye : RecordedFrame) :
    (judgeGoodbye checkId reason activation goodbye).id = checkId := by
  unfold judgeGoodbye
  split <;> simp

theorem judge_refusal_ids (record : ConnectionRecord) (checkId : String) (activation : RecordedFrame) (reason : String) :
    idsOf (judgeRefusal record checkId activation reason) = [checkId] := by
  unfold judgeRefusal
  split
  · simp [judge_goodbye_id]
  · split
    · simp
    · split <;> simp

theorem pairing_required_named (record : ConnectionRecord) : Names Step.u2.checks (checkPairingRequired record) := by
  unfold checkPairingRequired
  split
  · exact names_ok (by simp [Step.checks])
  · split
    · exact names_ok (by simp [Step.checks])
    · exact names_ok (judge_refusal_ids record _ _ _)

theorem unpaired_playback_named (record : ConnectionRecord) : Names Step.u3.checks (checkUnpairedPlayback record) := by
  unfold checkUnpairedPlayback unansweredPlayback
  split
  · exact names_ok (by simp [Step.checks])
  · split
    · exact names_ok (by simp [Step.checks])
    · split
      · split
        · exact names_ok (by simp [Step.checks])
        · apply names_map
          intro roles
          simp [Step.checks]
      · split
        · exact names_ok (by simp [Step.checks])
        · exact names_ok (by simp [Step.checks])

theorem judge_abort_ids (record : ConnectionRecord) (activation : RecordedFrame) :
    idsOf (judgeAbort record activation) = ["UNPAIRED-004"] := by
  unfold judgeAbort judgeAbortReason
  split
  · simp
  · split
    · split
      · simp
      · split <;> simp
    · simp

theorem inadmissible_activation_named (record : ConnectionRecord) :
    Names Step.u4.checks (checkInadmissibleActivation record) := by
  unfold checkInadmissibleActivation
  split
  · exact names_ok (by simp [Step.checks])
  · exact names_ok (judge_refusal_ids record _ _ _)
  · exact names_ok (judge_abort_ids record _)
  · exact names_ok (by simp [Step.checks])

omit [UnicodeData] in
theorem pairing_rehandshake_named (record : ConnectionRecord) (since : Nat) :
    Names ["PAIR-PSK-003"] (checkPairingRehandshake record since) := by
  unfold checkPairingRehandshake
  split
  · exact names_ok (by simp)
  · split
    · split
      · exact names_ok (by simp)
      · exact names_ok (by simp)
    · split
      · exact names_error _
      · exact names_ok (by simp)
      · split
        · exact names_ok (by simp)
        · exact names_ok (by simp)

theorem judge_pair_init_id (activation response : RecordedFrame) (expected : Nat) :
    (judgePairInit activation response expected).id = "PAIR-PSK-004" := by
  unfold judgePairInit
  split <;> simp

theorem pair_init_named (record : ConnectionRecord) (since : Nat) :
    Names ["PAIR-PSK-004"] (checkPairInit record since) := by
  unfold checkPairInit
  split
  · exact names_error _
  · exact names_ok (by simp)
  · split
    · split
      · exact names_ok (by simp)
      · exact names_ok (by simp)
    · split
      · exact names_ok (by simp [judge_pair_init_id])
      · exact names_ok (by simp)

theorem unfinalized_ids (record : ConnectionRecord) (pairInit : RecordedFrame) (answer : Option RecordedFrame) :
    idsOf (unfinalized record pairInit answer) = ["PAIR-PSK-005"] := by
  unfold unfinalized
  split
  · split <;> simp
  · simp

omit [UnicodeData] in
theorem judge_finalize_id (record : ConnectionRecord) (pairInit finalize : RecordedFrame) :
    (judgeFinalize record pairInit finalize).id = "PAIR-PSK-005" := by
  unfold judgeFinalize
  split
  · simp
  · split <;> simp

theorem pair_finalize_named (record : ConnectionRecord) (since : Nat) :
    Names ["PAIR-PSK-005"] (checkPairFinalize record since) := by
  unfold checkPairFinalize
  split
  · exact names_ok (by simp)
  · split
    · exact names_ok (unfinalized_ids record _ _)
    · split
      · exact names_ok (by simp [judge_finalize_id])
      · exact names_ok (unfinalized_ids record _ _)

omit [UnicodeData] in
theorem promotion_named (record : ConnectionRecord) (since : Nat) :
    Names ["PAIR-PSK-006"] (checkPromotion record since) := by
  unfold checkPromotion
  split
  · exact names_ok (by simp)
  · split
    · exact names_ok (by simp)
    · split
      · split
        · exact names_ok (by simp)
        · exact names_ok (by simp)
      · split
        · exact names_ok (by simp)
        · exact names_ok (by simp)

theorem paired_activation_named (record : ConnectionRecord) (since : Nat) :
    Names ["PAIR-PSK-007"] (checkPairedActivation record since) := by
  unfold checkPairedActivation
  split
  · exact names_ok (by simp)
  · split
    · exact names_ok (by simp)
    · split
      · exact names_ok (by simp)
      · exact names_ok (by simp)

theorem forgotten_reconnect_named (record : ConnectionRecord) :
    Names Step.r3.checks (checkForgottenReconnect record) := by
  unfold checkForgottenReconnect
  split
  · exact names_ok (by simp [Step.checks])
  · exact judge_keying_named record _ _ _ _

theorem unpair_goodbye_named (record : ConnectionRecord) : Names ["POSTPAIR-003"] (checkUnpairGoodbye record) := by
  unfold checkUnpairGoodbye
  split
  · exact names_ok (by simp)
  · split
    · exact names_ok (by simp)
    · split
      · exact names_ok (by simp)
      · split
        · exact names_ok (by simp)
        · exact names_ok (by simp)

omit [UnicodeData] in
theorem judge_delay_id (echo state : RecordedFrame) (commanded : Int) :
    (judgeDelay echo state commanded).id = "POSTPAIR-006" := by
  unfold judgeDelay
  dsimp only
  split <;> simp

omit [UnicodeData] in
theorem output_delay_named (before after : ConnectionRecord) (delay : Option Int) :
    Names ["POSTPAIR-006"] (checkRestartKeepsOutputDelay before after delay) := by
  unfold checkRestartKeepsOutputDelay
  split
  · exact names_ok (by simp)
  · split
    · exact names_error _
    · split
      · exact names_ok (by simp)
      · exact names_ok (by simp [judge_delay_id])

end Suite

namespace CodePairing

@[simp] theorem finding_id (checkId : String) (verdict : Verdict) (message : String) (frames : List RecordedFrame) :
    (finding checkId verdict message frames).id = checkId := rfl

@[simp] theorem not_applicable_id (checkId message : String) : (notApplicable checkId message).id = checkId := rfl

@[simp] theorem not_reached_id (checkId : String) : (notReached checkId).id = checkId := rfl

@[simp] theorem human_id (checkId : String) (verdict : Verdict) (message : String) :
    (human checkId verdict message).id = checkId := rfl

@[simp] theorem unanswered_id (record : ConnectionRecord) (checkId what : String) :
    (unanswered record checkId what).id = checkId := by
  unfold unanswered
  split <;> simp

theorem not_run_ids (checkIds : List String) (verdict : Verdict) (message : String) :
    idsOf (notRun checkIds verdict message) = checkIds := by
  simp [idsOf, notRun, Function.comp_def]

theorem all_not_applicable_ids (checkIds : List String) (message : String) :
    idsOf (allNotApplicable checkIds message) = checkIds := not_run_ids checkIds _ message

theorem judge_commit_id (record : ConnectionRecord) (since : Nat) (checkId : String) (pairInit : RecordedFrame) :
    (judgeCommit record since checkId pairInit).id = checkId := by
  unfold judgeCommit
  split
  · split <;> simp
  · simp

theorem commit_named (walkthrough : String) (record : ConnectionRecord) (since : Nat) :
    Names [walkthrough ++ "-001"] (checkCommit walkthrough record since) := by
  unfold checkCommit
  dsimp only
  split
  · exact names_ok (by simp)
  · split
    · split
      · exact names_ok (by simp)
      · exact names_ok (by simp [judge_commit_id])
    · exact names_ok (by simp)
    · exact names_ok (by simp)

theorem wrong_length_id (checkId : String) (sent : SentField) [UnicodeData] : (wrongLength checkId sent).id = checkId := by
  simp [wrongLength]

theorem static_order_named (record : ConnectionRecord) (since : Nat) :
    Names ["PAIR-STATIC-004"] (checkStaticOrder record since) := by
  have started (auths : List RecordedFrame) (pairInit : Option RecordedFrame) :
      (judgeStaticStart record auths pairInit).id = "PAIR-STATIC-004" := by
    cases pairInit with
    | none => simp [judgeStaticStart]
    | some first => simp [judgeStaticStart]
  unfold checkStaticOrder
  dsimp only
  split
  · split
    · exact names_ok (by simp)
    · exact names_ok (by simp [started])
  · exact names_ok (by simp [started])

theorem static_shape_named (record : ConnectionRecord) (since : Nat) :
    Names ["PAIR-STATIC-003"] (checkStaticShape record since) := by
  unfold checkStaticShape
  split
  · exact names_ok (by simp)
  · split
    · exact names_ok (by simp)
    · exact names_ok (by simp)

theorem judge_leave_id (record : ConnectionRecord) (abort : RecordedFrame) :
    (judgeLeave record abort).id = "PAIR-CTL-001" := by
  unfold judgeLeave
  split <;> simp

theorem unanswered_timeout_id (record : ConnectionRecord) (pairInit : RecordedFrame) :
    (unansweredTimeout record pairInit).id = "PAIR-CTL-002" := by
  unfold unansweredTimeout
  split
  · simp
  · split <;> simp

theorem stage_finding_id (confirm : RecordedFrame) (failed : Option Stage) (message : String)
    (frames : List RecordedFrame) (check : Stage × String) :
    (stageFinding confirm failed message frames check).id = check.2 := by
  unfold stageFinding
  split
  · simp
  · split
    · simp
    · split <;> simp

variable [UnicodeData]

theorem indexes_judged_id (record : ConnectionRecord) (checkId : String) (activations : List (RecordedFrame × Option Nat))
    (judged : List RecordedFrame) : (indexesJudged record checkId activations judged).id = checkId := by
  induction activations generalizing judged with
  | nil =>
      unfold indexesJudged
      split <;> simp
  | cons span rest ih =>
      unfold indexesJudged
      split
      · exact ih judged
      · dsimp only
        split
        · simp
        · exact ih _

theorem pairing_index_named (checkId : String) (record : ConnectionRecord) (since : Nat) :
    Names [checkId] (checkPairingIndex checkId record since) := by
  unfold checkPairingIndex
  split
  · exact names_error _
  · exact names_ok (by simp [indexes_judged_id])

theorem cpace_lengths_named (checkId : String) (record : ConnectionRecord) (since : Nat) :
    Names [checkId] (checkCpaceLengths checkId record since) := by
  unfold checkCpaceLengths
  dsimp only
  split
  · exact names_ok (by simp)
  · split
    · exact names_ok (by simp [wrong_length_id])
    · split
      · exact names_ok (by simp)
      · exact names_ok (by simp)

theorem wrong_code_named (walkthrough : String) (record : ConnectionRecord) (since : Nat) :
    Names [walkthrough ++ "-004"] (checkWrongCode walkthrough record since) := by
  unfold checkWrongCode
  dsimp only
  split
  · exact names_ok (by simp)
  · split
    · split
      · exact names_ok (by simp)
      · exact names_ok (by simp)
    · exact names_ok (by simp)

omit [UnicodeData] in
theorem verification_named (checkIds : List (Stage × String)) (record : ConnectionRecord) (since : Nat)
    (ordered : inStageOrder checkIds = checkIds) :
    Names (checkIds.map Prod.snd) (checkVerification checkIds record since) := by
  unfold checkVerification
  split
  · exact names_ok (by simp [idsOf, Function.comp_def])
  · split
    · rw [ordered]
      exact names_ok (by simp [idsOf, Function.comp_def, stage_finding_id])
    · exact names_ok (by simp [idsOf, Function.comp_def])

theorem static_pending_named (record : ConnectionRecord) (since : Nat) :
    Names ["PAIR-STATIC-001"] (checkStaticPending record since) := by
  have pending (activation answer : RecordedFrame) : (judgePending activation answer).id = "PAIR-STATIC-001" := by
    unfold judgePending
    split
    · simp
    · split <;> simp
  unfold checkStaticPending
  split
  · exact names_ok (by simp)
  · split
    · exact names_ok (by simp)
    · exact names_ok (by simp [pending])

theorem unclean_attempt_ids (record : ConnectionRecord) (number : Nat) (spans : List (RecordedFrame × Option Nat))
    (findings : List Finding) (unclean : uncleanAttempt record number spans = some findings) :
    idsOf findings = ["PAIR-STATIC-009", "PAIR-STATIC-010"] := by
  induction spans generalizing number with
  | nil => cases unclean
  | cons span rest ih =>
      unfold uncleanAttempt at unclean
      split at unclean
      · exact ih _ unclean
      · cases unclean
        simp

theorem judge_sixth_id (record : ConnectionRecord) (sixth : RecordedFrame) :
    (judgeSixth record sixth).id = "PAIR-STATIC-010" := by
  unfold judgeSixth
  dsimp only
  split <;> simp

theorem lockout_named (record : ConnectionRecord) (since : Nat) : Names Step.p3Lockout.checks (checkLockout record since) := by
  unfold checkLockout
  dsimp only
  split
  · rename_i findings unclean
    exact names_ok (unclean_attempt_ids record _ _ findings unclean)
  · split
    · exact names_ok (by simp [Step.checks, numbered, staticName])
    · split
      · exact names_ok (by simp [Step.checks, numbered, staticName])
      · exact names_ok (by simp [Step.checks, numbered, staticName, judge_sixth_id])

theorem timeout_named (record : ConnectionRecord) (since : Nat) :
    Names Step.p4Timeout.checks (checkTimeout record since) := by
  unfold checkTimeout
  split
  · exact names_ok (by simp [Step.checks, numbered, controlName])
  · split
    · exact names_ok (by simp [Step.checks, numbered, controlName, unanswered_timeout_id])
    · split
      · exact names_ok (by simp [Step.checks, numbered, controlName])
      · exact names_ok (by simp [Step.checks, numbered, controlName])

theorem cancel_named (record : ConnectionRecord) (since : Nat) : Names Step.p4Cancel.checks (checkCancel record since) := by
  unfold checkCancel
  split
  · exact names_ok (by simp [Step.checks, numbered, controlName])
  · dsimp only
    split
    · exact names_ok (by simp [Step.checks, numbered, controlName])
    · exact names_ok (by simp [Step.checks, numbered, controlName, judge_leave_id])

theorem qr_token_ids (text : String) : idsOf (checkQrToken text) = ["PAIR-DYN-QR-009"] := by
  unfold checkQrToken
  split
  · simp
  · split <;> simp

theorem presentation_ids (checkId typed : String) (digits : Nat) :
    idsOf (checkPresentation checkId typed digits) = [checkId] := by
  unfold checkPresentation
  dsimp only
  split <;> simp

end CodePairing

end Conformance.Validator
