import SendspinConformance.Validator.RenumberedSuites

set_option autoImplicit false

namespace Conformance.Validator.CodePairing

open Python Base Suite

section

variable (f : Nat → Nat)

@[simp] theorem finding_renumbered (checkId : String) (verdict : Verdict) (message : String)
    (frames : List RecordedFrame) :
    renumber f (finding checkId verdict message frames) = finding checkId verdict message (frames.map (renumber f)) :=
  cite_renumbered f specRefs checkId verdict message frames

@[simp] theorem not_applicable_renumbered (checkId message : String) :
    renumber f (notApplicable checkId message) = notApplicable checkId message := by
  simp [notApplicable]

@[simp] theorem not_reached_renumbered (checkId : String) : renumber f (notReached checkId) = notReached checkId := by
  simp [notReached]

@[simp] theorem unanswered_renumbered (record : ConnectionRecord) (checkId what : String) :
    unanswered (renumber f record) checkId what = renumber f (unanswered record checkId what) := by
  simp only [unanswered, renumber_rejected]
  split <;> simp [*]

@[simp] theorem carries_index_renumbered (frame : RecordedFrame) (expected : Nat) :
    carriesIndex (renumber f frame) expected = carriesIndex frame expected := rfl

@[simp] theorem below_renumbered (frame : RecordedFrame) (expected : Nat) :
    below (renumber f frame) expected = below frame expected := rfl

@[simp] theorem reason_is_renumbered (frame : RecordedFrame) (reason : String) :
    reasonIs (renumber f frame) reason = reasonIs frame reason := rfl

theorem wrong_answer_renumbered (answers : List RecordedFrame) (expected : Nat) :
    wrongAnswer (answers.map (renumber f)) expected = renumber f (wrongAnswer answers expected) := by
  simp only [wrongAnswer, List.find?_map, List.any_map, Function.comp_def, carries_index_renumbered,
    below_renumbered, List.head?_map]
  cases answers.find? fun answer => !carriesIndex answer expected && !below answer expected with
  | some wrong => rfl
  | none =>
      simp only [Option.map_none]
      split
      · rfl
      · rfl

-- Spans end where the next activation begins, so they move with the activations.
def spanRenumbered (span : RecordedFrame × Option Nat) : RecordedFrame × Option Nat :=
  (renumber f span.1, span.2.map f)

theorem spans_renumbered (activations : List RecordedFrame) :
    spans (activations.map (renumber f)) = (spans activations).map (spanRenumbered f) := by
  induction activations with
  | nil => rfl
  | cons activation rest ih =>
      cases rest with
      | nil => rfl
      | cons next others =>
          simp only [List.map_cons, spans] at ih ⊢
          rw [ih]
          rfl

theorem sent_fields_renumbered (frame : RecordedFrame) :
    sentFields (renumber f frame) = (sentFields frame).map fun sent => { sent with frame := renumber f sent.frame } := by
  simp [sentFields, Function.comp_def]

variable (mono : StrictMono f)
include mono

theorem pairing_activations_renumbered (record : ConnectionRecord) (since : Nat) :
    pairingActivations (renumber f record) (f since) = (pairingActivations record since).map (renumber f) := by
  simp only [pairingActivations, renumber_frames, List.filter_map, Function.comp_def, renumber_id, mono.lt_iff_lt,
    activates_pairing_renumbered]

theorem last_in_renumbered (record : ConnectionRecord) (since : Nat) (messageType : String) :
    lastIn (renumber f record) (f since) messageType = renumber f (lastIn record since messageType) := by
  simp only [lastIn, renumber_frames, ← List.map_reverse, List.find?_map, Function.comp_def, renumber_id,
    mono.lt_iff_lt, is_in_renumbered]
  rfl

theorem ends_before_renumbered (frame : RecordedFrame) (last : Option Nat) :
    endsBefore (renumber f frame) (last.map f) = endsBefore frame last := by
  cases last with
  | none => rfl
  | some place => simp [endsBefore, mono.lt_iff_lt]

theorem answers_to_renumbered (record : ConnectionRecord) (span : RecordedFrame × Option Nat) :
    answersTo (renumber f record) (spanRenumbered f span) = (answersTo record span).map (renumber f) := by
  simp only [answersTo, spanRenumbered, renumber_frames, List.filter_map, Function.comp_def, renumber_id,
    mono.lt_iff_lt, ends_before_renumbered f mono, renumber_inbound, renumber_type_in]

theorem first_by_id_renumbered (frames : List RecordedFrame) :
    firstById (frames.map (renumber f)) = (firstById frames).map (renumber f) := by
  induction frames with
  | nil => rfl
  | cons frame rest ih =>
      have other : ∀ next : RecordedFrame, ((renumber f next).id != (renumber f frame).id) = (next.id != frame.id) := by
        intro next
        simp [bne, mono.injective.eq_iff, beq_eq_decide]
      simp only [List.map_cons, firstById, ih, List.filter_map, Function.comp_def, other]

theorem sent_since_renumbered (record : ConnectionRecord) (since : Nat) :
    sentSince (renumber f record) (f since) =
      (sentSince record since).map fun sent => { sent with frame := renumber f sent.frame } := by
  simp only [sentSince, renumber_frames, List.filter_map, Function.comp_def, renumber_id, mono.lt_iff_lt,
    renumber_inbound, List.flatMap_map, sent_fields_renumbered, List.map_flatMap]

theorem abort_in_renumbered (record : ConnectionRecord) (span : RecordedFrame × Option Nat) :
    abortIn (renumber f record) (spanRenumbered f span) = renumber f (abortIn record span) := by
  simp only [abortIn, firstAfter, spanRenumbered, renumber_frames, List.find?_map, Function.comp_def, renumber_id,
    mono.lt_iff_lt, ends_before_renumbered f mono, is_in_renumbered]
  rfl

end

theorem judge_commit_renumbered (f : Nat → Nat) (mono : StrictMono f) (record : ConnectionRecord) (since : Nat)
    (checkId : String) (pairInit : RecordedFrame) :
    judgeCommit (renumber f record) (f since) checkId (renumber f pairInit) =
      renumber f (judgeCommit record since checkId pairInit) := by
  simp only [judgeCommit, first_out_renumbered f mono]
  cases firstAfter record since (isOut "server/pair-init") with
  | none => simp
  | some serverInit =>
      simp only [renumber_some, renumber_id, mono.lt_iff_lt]
      split <;> simp [*]

theorem commit_commutes (walkthrough : String) : Commutes (checkCommit walkthrough) := by
  rw [commutes_iff]
  intro f mono _ record since
  simp only [checkCommit, first_in_renumbered f mono]
  cases firstAfter record since (isIn "client/pair-init") with
  | none => simp
  | some pairInit =>
      simp only [renumber_some, renumber_fields, judge_commit_renumbered f mono]
      cases getKey pairInit.fields "commit_B" with
      | str commit =>
          dsimp only
          split <;> simp [*]
      | _ => simp

variable [UnicodeData]

theorem indexes_judged_renumbered (f : Nat → Nat) (mono : StrictMono f) (record : ConnectionRecord) (checkId : String)
    (rest : List (RecordedFrame × Option Nat)) (judged : List RecordedFrame) :
    indexesJudged (renumber f record) checkId (rest.map (spanRenumbered f)) (judged.map (renumber f)) =
      renumber f (indexesJudged record checkId rest judged) := by
  induction rest generalizing judged with
  | nil =>
      simp only [List.map_nil, indexesJudged, List.isEmpty_map, unanswered_renumbered]
      split <;> simp [*]
  | cons span others ih =>
      simp only [List.map_cons, indexesJudged, answers_to_renumbered f mono]
      cases answersTo record span with
      | nil => exact ih judged
      | cons first later =>
          have count : pairingActivationsSinceHandshake (renumber f record) (spanRenumbered f span).1 =
              pairingActivationsSinceHandshake record span.1 :=
            activations_since_handshake_renumbered f mono record span.1
          have wrong := wrong_answer_renumbered f (first :: later)
          rw [List.map_cons] at wrong
          simp only [List.map_cons, count, wrong]
          cases wrongAnswer (first :: later) (pairingActivationsSinceHandshake record span.1) with
          | some answer => simp [spanRenumbered]
          | none =>
              have next := ih (judged ++ [first])
              rw [List.map_append] at next
              exact next

theorem pairing_index_commutes (checkId : String) : Commutes (checkPairingIndex checkId) := by
  rw [commutes_iff]
  intro f mono _ record since
  simp only [checkPairingIndex, pairing_activations_renumbered f mono]
  cases pairingActivations record since with
  | nil => rfl
  | cons activation rest =>
      have spanned := spans_renumbered f (activation :: rest)
      rw [List.map_cons] at spanned
      simp only [List.map_cons, spanned]
      exact congrArg (fun answer => Except.ok [answer]) (indexes_judged_renumbered f mono record checkId _ [])

theorem cpace_lengths_commutes (checkId : String) : Commutes (checkCpaceLengths checkId) := by
  rw [commutes_iff]
  intro f mono _ record since
  have auth : ((sentSince (renumber f record) (f since)).any fun sent => sent.frame.typed "client/pair-auth") =
      (sentSince record since).any fun sent => sent.frame.typed "client/pair-auth" := by
    simp only [sent_since_renumbered f mono, List.any_map, Function.comp_def, renumber_typed]
  have wrong : (sentSince (renumber f record) (f since)).find? isWrongLength =
      ((sentSince record since).find? isWrongLength).map fun sent => { sent with frame := renumber f sent.frame } := by
    rw [sent_since_renumbered f mono, List.find?_map]
    rfl
  have lacking : ((renumber f record).frames.any fun frame => f since < frame.id && lacksPakeMessage frame) =
      record.frames.any fun frame => since < frame.id && lacksPakeMessage frame := by
    simp only [renumber_frames, List.any_map, Function.comp_def, renumber_id, mono.lt_iff_lt]
    rfl
  have sent : (sentSince (renumber f record) (f since)).map SentField.field =
      (sentSince record since).map SentField.field := by
    simp only [sent_since_renumbered f mono, List.map_map, Function.comp_def]
  have frames : (sentSince (renumber f record) (f since)).map SentField.frame =
      ((sentSince record since).map SentField.frame).map (renumber f) := by
    simp only [sent_since_renumbered f mono, List.map_map, Function.comp_def]
  simp only [checkCpaceLengths, auth, wrong, lacking, sent, frames, first_by_id_renumbered f mono,
    unanswered_renumbered]
  split
  · simp
  · cases (sentSince record since).find? isWrongLength with
    | some field =>
        have told : wrongLength checkId { field with frame := renumber f field.frame } =
            renumber f (wrongLength checkId field) := by
          simp only [wrongLength, finding_renumbered]
          rfl
        simp [told]
    | none =>
        simp only [Option.map_none]
        split <;> simp [*]

theorem wrong_code_commutes (walkthrough : String) : Commutes (checkWrongCode walkthrough) := by
  rw [commutes_iff]
  intro f mono _ record since
  simp only [checkWrongCode, first_out_renumbered f mono]
  cases firstAfter record since (isOut "server/pair-confirm") with
  | none => simp
  | some confirm =>
      simp only [renumber_some, first_inbound_renumbered f mono, renumber_rejected, renumber_closed]
      cases firstInbound record confirm (some ("client/pair-retry" :: "client/pair-confirm" :: refusals)) with
      | none =>
          simp only [renumber_none]
          split <;> simp [*]
      | some answer =>
          have told : wrongCodeVerdict (renumber f answer) = wrongCodeVerdict answer := rfl
          simp [told]

omit [UnicodeData] in
theorem failure_after_renumbered (f : Nat → Nat) (mono : StrictMono f) (zero : f 0 = 0) (record : ConnectionRecord)
    (confirm : RecordedFrame) :
    failureAfter (renumber f record) (renumber f confirm) = renumber f (failureAfter record confirm) := by
  simp only [failureAfter, renumber_events, List.find?_map, Function.comp_def, renumber_kind, renumber_id,
    place_renumbered f zero, mono.le_iff_le]
  rfl

def verificationRenumbered (f : Nat → Nat) : Verification → Verification
  | .judged failed message frames => .judged failed message (frames.map (renumber f))
  | .untold message => .untold message

omit [UnicodeData] in
theorem verification_renumbered (f : Nat → Nat) (mono : StrictMono f) (zero : f 0 = 0) (record : ConnectionRecord)
    (confirm : RecordedFrame) :
    verification (renumber f record) (renumber f confirm) = verificationRenumbered f (verification record confirm) := by
  have mismatch : firstAfter (renumber f record) (f confirm.id) codeMismatch =
      renumber f (firstAfter record confirm.id codeMismatch) :=
    first_after_renumbered f mono record confirm.id _ fun _ => rfl
  simp only [verification, renumber_id, mismatch, first_out_renumbered f mono, failure_after_renumbered f mono zero]
  cases firstAfter record confirm.id codeMismatch with
  | some abort => rfl
  | none =>
      cases firstAfter record confirm.id (isOut "server/pair-finalize") with
      | some acknowledged =>
          have promoted : promotionFailure (renumber f record) (renumber f acknowledged) =
              promotionFailure record acknowledged := by
            simp only [promotionFailure, keyed_after_renumbered f mono zero, long_term_renumbered]
          simp only [renumber_none, renumber_some, promoted]
          rfl
      | none =>
          have detail : (renumber f (failureAfter record confirm)).bind RecordedEvent.detail =
              (failureAfter record confirm).bind RecordedEvent.detail := by
            cases failureAfter record confirm <;> rfl
          have told : detailText (renumber f (failureAfter record confirm)) =
              detailText (failureAfter record confirm) := by
            cases failureAfter record confirm <;> rfl
          simp only [renumber_none, detail, told]
          cases failureStage ((failureAfter record confirm).bind RecordedEvent.detail) <;> rfl

omit [UnicodeData] in
theorem stage_finding_renumbered (f : Nat → Nat) (confirm : RecordedFrame) (failed : Option Stage) (message : String)
    (frames : List RecordedFrame) (check : Stage × String) :
    stageFinding (renumber f confirm) failed message (frames.map (renumber f)) check =
      renumber f (stageFinding confirm failed message frames check) := by
  cases failed with
  | none => simp [stageFinding]
  | some stage =>
      simp only [stageFinding]
      by_cases earlier : check.1.value < stage.value
      · simp [earlier]
      · by_cases same : check.1 = stage
        · simp [same]
        · simp [earlier, same]

omit [UnicodeData] in
theorem verification_commutes (checkIds : List (Stage × String)) : Commutes (checkVerification checkIds) := by
  rw [commutes_iff]
  intro f mono zero record since
  simp only [checkVerification, last_in_renumbered f mono]
  cases lastIn record since "client/pair-confirm" with
  | none =>
      simp only [renumber_none, renumber_ok, renumber_list, List.map_map, Function.comp_def,
        not_applicable_renumbered]
  | some confirm =>
      simp only [renumber_some, verification_renumbered f mono zero]
      cases verification record confirm with
      | judged failed message frames =>
          simp only [verificationRenumbered, renumber_ok, renumber_list, List.map_map]
          exact congrArg Except.ok (List.map_congr_left fun check _ =>
            stage_finding_renumbered f confirm failed message frames check)
      | untold message =>
          simp only [verificationRenumbered, renumber_ok, renumber_list, List.map_map, Function.comp_def,
            finding_renumbered, List.map_cons, List.map_nil]

theorem static_pending_commutes : Commutes checkStaticPending := by
  rw [commutes_iff]
  intro f mono _ record since
  simp only [checkStaticPending, pairing_activations_renumbered f mono, List.head?_map]
  cases (pairingActivations record since).head? with
  | none => simp
  | some activation =>
      simp only [Option.map_some, first_inbound_renumbered f mono]
      cases firstInbound record activation (some (pairingStarts ++ refusals)) with
      | none => simp
      | some answer =>
          have told : judgePending (renumber f activation) (renumber f answer) =
              renumber f (judgePending activation answer) := by
            simp only [judgePending, renumber_typed, describe_renumbered]
            by_cases pending : answer.typed "client/pair-pending" = true
            · simp [pending]
            · by_cases started : answer.typed "client/pair-init" = true
              · simp [pending, started]
              · simp [pending, started]
          simp [told]

omit [UnicodeData] in
theorem static_shape_commutes : Commutes checkStaticShape := by
  rw [commutes_iff]
  intro f mono _ record since
  have misplaced : firstAfter (renumber f record) (f since) misplacedInStatic =
      renumber f (firstAfter record since misplacedInStatic) :=
    first_after_renumbered f mono record since _ fun _ => rfl
  simp only [checkStaticShape, first_in_renumbered f mono, misplaced]
  cases firstAfter record since (isIn "client/pair-init") with
  | none => simp
  | some pairInit => cases firstAfter record since misplacedInStatic <;> simp

omit [UnicodeData] in
theorem static_order_commutes : Commutes checkStaticOrder := by
  rw [commutes_iff]
  intro f mono _ record since
  have started : ∀ (auths : List RecordedFrame) (pairInit : Option RecordedFrame),
      judgeStaticStart (renumber f record) (auths.map (renumber f)) (renumber f pairInit) =
        renumber f (judgeStaticStart record auths pairInit) := by
    intro auths pairInit
    cases pairInit <;> simp [judgeStaticStart]
  simp only [checkStaticOrder, first_in_renumbered f mono, first_out_renumbered f mono]
  cases firstAfter record since (isOut "server/pair-auth") with
  | none =>
      have none := started [] (firstAfter record since (isIn "client/pair-init"))
      simpa using none
  | some auth =>
      have before : sentBefore (renumber f auth) (renumber f (firstAfter record since (isIn "client/pair-init"))) =
          sentBefore auth (firstAfter record since (isIn "client/pair-init")) := by
        cases firstAfter record since (isIn "client/pair-init") with
        | none => rfl
        | some pairInit => simp [sentBefore, mono.lt_iff_lt]
      have one := started [auth] (firstAfter record since (isIn "client/pair-init"))
      simp only [renumber_some, before]
      split
      · simp [*]
      · simpa using one

theorem described_renumbered (f : Nat → Nat) (absent : String) (frame : Option RecordedFrame) :
    describedOr absent (renumber f frame) = describedOr absent frame := by
  cases frame <;> rfl

theorem unclean_attempt_renumbered (f : Nat → Nat) (mono : StrictMono f) (record : ConnectionRecord)
    (attempts : List (RecordedFrame × Option Nat)) (number : Nat) :
    uncleanAttempt (renumber f record) number (attempts.map (spanRenumbered f)) =
      renumber f (uncleanAttempt record number attempts) := by
  induction attempts generalizing number with
  | nil => rfl
  | cons span rest ih =>
      have clean : failsCleanly (renumber f record) (spanRenumbered f span) = failsCleanly record span := by
        simp only [failsCleanly, abort_in_renumbered f mono]
        cases abortIn record span <;> rfl
      have frames : (spanRenumbered f span).1 :: (renumber f (abortIn record span)).toList =
          (span.1 :: (abortIn record span).toList).map (renumber f) := by
        cases abortIn record span <;> rfl
      simp only [List.map_cons, uncleanAttempt, clean, ih, abort_in_renumbered f mono, described_renumbered, frames]
      split <;> simp [*]

theorem judge_sixth_renumbered (f : Nat → Nat) (mono : StrictMono f) (record : ConnectionRecord)
    (sixth : RecordedFrame) :
    judgeSixth (renumber f record) (renumber f sixth) = renumber f (judgeSixth record sixth) := by
  simp only [judgeSixth, first_inbound_renumbered f mono]
  cases firstInbound record sixth (some (pairingStarts ++ refusals)) with
  | none => simp [describedOr]
  | some answer =>
      simp only [renumber_some, Option.any_some, renumber_typed, describedOr, describe_renumbered]
      split <;> simp [*]

theorem lockout_commutes : Commutes checkLockout := by
  rw [commutes_iff]
  intro f mono _ record since
  simp only [checkLockout, pairing_activations_renumbered f mono, spans_renumbered, ← List.map_take,
    unclean_attempt_renumbered f mono, List.length_map, List.getElem?_map]
  cases uncleanAttempt record 1 ((spans (pairingActivations record since)).take lockoutAttempts) with
  | some findings => rfl
  | none =>
      simp only [renumber_none]
      split
      · simp [*]
      · cases (pairingActivations record since)[lockoutAttempts]? with
        | none => simp
        | some sixth => simp [judge_sixth_renumbered f mono]

omit [UnicodeData] in
theorem judge_leave_renumbered (f : Nat → Nat) (mono : StrictMono f) (record : ConnectionRecord)
    (abort : RecordedFrame) :
    judgeLeave (renumber f record) (renumber f abort) = renumber f (judgeLeave record abort) := by
  have leave : firstAfter (renumber f record) (f abort.id) leavesPairing =
      renumber f (firstAfter record abort.id leavesPairing) :=
    first_after_renumbered f mono record abort.id _ fun _ => rfl
  simp only [judgeLeave, renumber_id, leave]
  cases firstAfter record abort.id leavesPairing <;> simp

theorem cancel_commutes : Commutes checkCancel := by
  rw [commutes_iff]
  intro f mono _ record since
  have cancelled : firstAfter (renumber f record) (f since) cancels =
      renumber f (firstAfter record since cancels) :=
    first_after_renumbered f mono record since _ fun _ => rfl
  simp only [checkCancel, cancelled]
  cases firstAfter record since cancels with
  | none => simp
  | some abort =>
      simp only [renumber_some, first_inbound_renumbered f mono, renumber_closed, renumber_rejected,
        judge_leave_renumbered f mono, described_renumbered]
      cases firstInbound record abort (some ["client/goodbye"]) with
      | some goodbye => simp
      | none =>
          simp only [renumber_none]
          split <;> simp [*]

omit [UnicodeData] in
theorem unanswered_timeout_renumbered (f : Nat → Nat) (mono : StrictMono f) (zero : f 0 = 0)
    (record : ConnectionRecord) (pairInit : RecordedFrame) :
    unansweredTimeout (renumber f record) (renumber f pairInit) = renumber f (unansweredTimeout record pairInit) := by
  have gaveUp : serverGaveUp (renumber f record) (renumber f pairInit) = serverGaveUp record pairInit := by
    simp only [serverGaveUp, renumber_events, List.any_map, Function.comp_def, renumber_kind, renumber_id,
      place_renumbered f zero, mono.le_iff_le]
    rfl
  simp only [unansweredTimeout, renumber_closed, gaveUp]
  by_cases closed : record.closed = true
  · simp [closed]
  · by_cases expired : serverGaveUp record pairInit = true
    · simp [closed, expired]
    · simp [closed, expired]

theorem timeout_commutes : Commutes checkTimeout := by
  rw [commutes_iff]
  intro f mono zero record since
  simp only [checkTimeout, first_in_renumbered f mono]
  cases firstAfter record since (isIn "client/pair-init") with
  | none => simp
  | some pairInit =>
      simp only [renumber_some, renumber_id, first_in_renumbered f mono]
      cases firstAfter record pairInit.id (isIn "pair/abort") with
      | none => simp [unanswered_timeout_renumbered f mono zero]
      | some abort =>
          simp only [renumber_some, reason_is_renumbered]
          split <;> simp [*]

end Conformance.Validator.CodePairing
