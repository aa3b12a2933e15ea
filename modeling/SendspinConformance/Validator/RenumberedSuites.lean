import SendspinConformance.Validator.Renumbering

set_option autoImplicit false

namespace Conformance.Validator

open Python Base

-- A check of a step: the connection it ran on, and the last frame recorded before it.
abbrev StepCheck := ConnectionRecord → Nat → Py (List Finding)

def Commutes (check : StepCheck) : Prop :=
  Anchored fun step : ConnectionRecord × Nat => check step.1 step.2

theorem commutes_iff (check : StepCheck) :
    Commutes check ↔ ∀ f, StrictMono f → f 0 = 0 → ∀ record since,
      check (renumber f record) (f since) = renumber f (check record since) := by
  apply Iff.intro
  · intro commutes f mono zero record since
    exact commutes f mono zero (record, since)
  · intro commutes f mono zero step
    exact commutes f mono zero step.1 step.2

namespace Suite

section

variable (f : Nat → Nat)

@[simp] theorem finding_renumbered (checkId : String) (verdict : Verdict) (message : String)
    (frames : List RecordedFrame) :
    renumber f (finding checkId verdict message frames) = finding checkId verdict message (frames.map (renumber f)) :=
  cite_renumbered f specRefs checkId verdict message frames

@[simp] theorem not_applicable_renumbered (checkId message : String) :
    renumber f (notApplicable checkId message) = notApplicable checkId message := by
  simp [notApplicable]

@[simp] theorem not_reached_renumbered (checkId : String) : renumber f (notReached checkId) = notReached checkId := by
  simp [notReached]

@[simp] theorem is_in_renumbered (messageType : String) (frame : RecordedFrame) :
    isIn messageType (renumber f frame) = isIn messageType frame := rfl

@[simp] theorem is_out_renumbered (messageType : String) (frame : RecordedFrame) :
    isOut messageType (renumber f frame) = isOut messageType frame := rfl

@[simp] theorem activates_pairing_renumbered (frame : RecordedFrame) :
    activatesPairing (renumber f frame) = activatesPairing frame := rfl

@[simp] theorem type_text_renumbered (frame : RecordedFrame) : typeText (renumber f frame) = typeText frame := rfl

@[simp] theorem describe_renumbered [UnicodeData] (frame : RecordedFrame) :
    describe (renumber f frame) = describe frame := rfl

theorem keyed_events_renumbered (record : ConnectionRecord) :
    keyedEvents (renumber f record) = (keyedEvents record).map (renumber f) := by
  simp only [keyedEvents, renumber_events, List.filter_map, Function.comp_def, renumber_kind]

theorem initial_keying_renumbered (record : ConnectionRecord) :
    initialKeying (renumber f record) = initialKeying record := by
  simp only [initialKeying, keyed_events_renumbered, List.head?_map, renumber_events, List.any_map, Function.comp_def,
    renumber_kind]
  cases (keyedEvents record).head? with
  | none => rfl
  | some keyed => rfl

theorem unpaired_access_renumbered (record : ConnectionRecord) :
    unpairedAccess (renumber f record) = unpairedAccess record := by
  simp only [unpairedAccess, clientHello, inbound_renumbered, List.head?_map]
  cases (record.inbound "client/hello").head? with
  | none => rfl
  | some hello => rfl

theorem first_outbound_activation_renumbered (record : ConnectionRecord) (holds : Fields → Bool) :
    firstOutboundActivation (renumber f record) holds = renumber f (firstOutboundActivation record holds) := by
  simp only [firstOutboundActivation, outbound_renumbered, List.find?_map, Function.comp_def, renumber_fields]
  rfl

theorem pairing_count_renumbered (frames : List RecordedFrame) (count : Nat) :
    (frames.map (renumber f)).foldl pairingCount count = frames.foldl pairingCount count := by
  rw [List.foldl_map]
  rfl

variable (mono : StrictMono f)
include mono

theorem first_after_renumbered (record : ConnectionRecord) (since : Nat) (holds : RecordedFrame → Bool)
    (blind : ∀ frame, holds (renumber f frame) = holds frame) :
    firstAfter (renumber f record) (f since) holds = renumber f (firstAfter record since holds) := by
  simp only [firstAfter, renumber_frames, List.find?_map, Function.comp_def, renumber_id, mono.lt_iff_lt, blind]
  rfl

theorem first_in_renumbered (record : ConnectionRecord) (since : Nat) (messageType : String) :
    firstAfter (renumber f record) (f since) (isIn messageType) =
      renumber f (firstAfter record since (isIn messageType)) :=
  first_after_renumbered f mono record since _ fun _ => rfl

theorem first_out_renumbered (record : ConnectionRecord) (since : Nat) (messageType : String) :
    firstAfter (renumber f record) (f since) (isOut messageType) =
      renumber f (firstAfter record since (isOut messageType)) :=
  first_after_renumbered f mono record since _ fun _ => rfl

theorem first_inbound_renumbered (record : ConnectionRecord) (after : RecordedFrame) (types : Option (List String)) :
    firstInbound (renumber f record) (renumber f after) types = renumber f (firstInbound record after types) :=
  first_after_renumbered f mono record after.id _ fun _ => rfl

theorem activations_since_handshake_renumbered (record : ConnectionRecord) (activation : RecordedFrame) :
    pairingActivationsSinceHandshake (renumber f record) (renumber f activation) =
      pairingActivationsSinceHandshake record activation := by
  simp only [pairingActivationsSinceHandshake, renumber_frames, List.takeWhile_map, Function.comp_def, renumber_id,
    mono.le_iff_le, pairing_count_renumbered]

omit mono in
theorem find_renumbered (holds : RecordedFrame → Py Bool) (blind : ∀ frame, holds (renumber f frame) = holds frame)
    (frames : List RecordedFrame) :
    Py.find holds (frames.map (renumber f)) = renumber f (Py.find holds frames) := by
  induction frames with
  | nil => rfl
  | cons frame rest ih =>
      simp only [List.map_cons, Py.find, blind]
      cases holds frame with
      | error raised => rfl
      | ok answer =>
          cases answer with
          | true => rfl
          | false => exact ih

theorem pairing_activation_renumbered (record : ConnectionRecord) (since : Nat) :
    pairingActivation (renumber f record) (f since) = renumber f (pairingActivation record since) := by
  simp only [pairingActivation, renumber_frames, List.filter_map, Function.comp_def, renumber_id, mono.lt_iff_lt]
  exact find_renumbered f pairsWithPsk (fun _ => rfl) _

omit mono in
theorem place_renumbered (zero : f 0 = 0) (event : RecordedEvent) : placeOf (renumber f event) = f (placeOf event) := by
  cases placed : event.afterFrame with
  | none => simp [placeOf, renumber, placed, zero]
  | some place => simp [placeOf, renumber, placed]

theorem keyed_after_renumbered (zero : f 0 = 0) (record : ConnectionRecord) (frame : RecordedFrame) :
    keyedAfter (renumber f record) (renumber f frame) = renumber f (keyedAfter record frame) := by
  simp only [keyedAfter, keyed_events_renumbered, List.find?_map, Function.comp_def, renumber_id,
    place_renumbered f zero, mono.lt_iff_lt]
  rfl

theorem keyed_before_renumbered (zero : f 0 = 0) (record : ConnectionRecord) (frame : RecordedFrame) :
    keyedBefore (renumber f record) (renumber f frame) = renumber f (keyedBefore record frame) := by
  simp only [keyedBefore, keyed_events_renumbered, List.filter_map, Function.comp_def, renumber_id,
    place_renumbered f zero, mono.lt_iff_lt, List.getLast?_map]
  rfl

omit mono in
theorem long_term_renumbered (keyed : Option RecordedEvent) : isLongTerm (renumber f keyed) = isLongTerm keyed := by
  cases keyed <;> rfl

theorem paired_activation_renumbered (record : ConnectionRecord) (since : Nat) :
    pairedActivation (renumber f record) (f since) = renumber f (pairedActivation record since) := by
  simp only [pairedActivation, first_out_renumbered f mono]
  cases firstAfter record since (isOut "server/pair-finalize") with
  | none => rfl
  | some acknowledged =>
      simp only [renumber_some, Option.bind_some, renumber_id, first_in_renumbered f mono]
      cases firstAfter record acknowledged.id (isIn "noise/handshake") with
      | none => rfl
      | some message2 => exact first_out_renumbered f mono record message2.id _

end

variable [UnicodeData]

theorem unkeyed_renumbered (f : Nat → Nat) (record : ConnectionRecord) (checkId expected : String) :
    unkeyed (renumber f record) checkId expected = renumber f (unkeyed record checkId expected) := by
  have moved : (renumber f record).frames.any RecordedFrame.transported =
      record.frames.any RecordedFrame.transported := by
    simp only [renumber_frames, List.any_map, Function.comp_def, renumber_transported]
  simp only [unkeyed, outbound_renumbered, inbound_renumbered, List.head?_map, renumber_rejected, moved]
  cases (record.outbound "noise/handshake" .cleartext).head? with
  | none => rfl
  | some message1 =>
      cases record.rejected || record.frames.any RecordedFrame.transported with
      | true => rfl
      | false =>
          cases keyingName expected with
          | error raised => rfl
          | ok name => cases (record.inbound "noise/handshake" .cleartext).head? <;> rfl

theorem judge_keying_renumbered (f : Nat → Nat) (record : ConnectionRecord) (checkId expected passed : String)
    (kept : Option String) :
    judgeKeying (renumber f record) checkId expected passed kept =
      renumber f (judgeKeying record checkId expected passed kept) := by
  simp only [judgeKeying, initial_keying_renumbered, unkeyed_renumbered, outbound_renumbered]
  cases initialKeying record with
  | none => rfl
  | some keying =>
      simp only [← List.map_take]
      split
      · simp
      · cases miskeyed expected kept keying with
        | error raised => rfl
        | ok told => simp [Except.map]

theorem keying_commutes (checkId expected passed : String) (kept : Option String) :
    Commutes fun record _ => judgeKeying record checkId expected passed kept := by
  rw [commutes_iff]
  intro f _ _ record _
  exact judge_keying_renumbered f record checkId expected passed kept

theorem judge_goodbye_renumbered (f : Nat → Nat) (checkId reason : String) (activation goodbye : RecordedFrame) :
    judgeGoodbye checkId reason (renumber f activation) (renumber f goodbye) =
      renumber f (judgeGoodbye checkId reason activation goodbye) := by
  simp only [judgeGoodbye, renumber_fields]
  split <;> simp [*]

section

variable (f : Nat → Nat) (mono : StrictMono f)
include mono

theorem judge_refusal_renumbered (record : ConnectionRecord) (checkId : String) (activation : RecordedFrame)
    (reason : String) :
    judgeRefusal (renumber f record) checkId (renumber f activation) reason =
      renumber f (judgeRefusal record checkId activation reason) := by
  simp only [judgeRefusal, first_inbound_renumbered f mono, renumber_rejected, renumber_closed]
  cases firstInbound record activation (some ["client/goodbye"]) with
  | some goodbye => simp [judge_goodbye_renumbered]
  | none =>
      simp only [renumber_none]
      by_cases rejected : record.rejected = true
      · simp [rejected]
      · cases firstInbound record activation none with
        | none => simp [rejected]
        | some answer => simp [rejected]

theorem judge_abort_renumbered (record : ConnectionRecord) (activation : RecordedFrame) :
    judgeAbort (renumber f record) (renumber f activation) = renumber f (judgeAbort record activation) := by
  simp only [judgeAbort, first_inbound_renumbered f mono]
  cases firstInbound record activation (some ["pair/abort", "client/goodbye"]) with
  | none => rfl
  | some response =>
      simp only [renumber_some, renumber_typed, judgeAbortReason, renumber_fields, renumber_closed]
      split
      · split
        · rfl
        · split <;> rfl
      · simp

end

theorem pairing_required_commutes : Commutes fun record _ => checkPairingRequired record := by
  rw [commutes_iff]
  intro f mono _ record _
  simp only [checkPairingRequired, unpaired_access_renumbered, first_outbound_activation_renumbered]
  split
  · simp
  · cases firstOutboundActivation record (declares "playback") with
    | none => simp
    | some activation => simp [judge_refusal_renumbered f mono]

theorem unpaired_playback_commutes : Commutes fun record _ => checkUnpairedPlayback record := by
  rw [commutes_iff]
  intro f mono _ record _
  simp only [checkUnpairedPlayback, unpaired_access_renumbered, first_outbound_activation_renumbered]
  split
  · simp
  · cases firstOutboundActivation record fun payload => (getKey payload "active_roles").truthy with
    | none => simp
    | some activation =>
        simp only [renumber_some, first_inbound_renumbered f mono]
        cases firstInbound record activation (some ("client/state" :: refusals)) with
        | none =>
            simp only [renumber_none, unansweredPlayback, renumber_rejected, renumber_fields]
            split
            · simp
            · cases iterated (getKey activation.fields "active_roles") with
              | error raised => rfl
              | ok roles => simp [Except.map]
        | some response =>
            simp only [renumber_some, renumber_typed]
            split <;> simp [*]

theorem inadmissible_activation_commutes : Commutes fun record _ => checkInadmissibleActivation record := by
  rw [commutes_iff]
  intro f mono _ record _
  simp only [checkInadmissibleActivation, unpaired_access_renumbered, first_outbound_activation_renumbered]
  cases firstOutboundActivation record (declares "pairing") with
  | none => simp
  | some activation =>
      cases unpairedAccess record with
      | none => simp
      | some enabled =>
          cases enabled with
          | true => simp [judge_abort_renumbered f mono]
          | false => simp [judge_refusal_renumbered f mono]

omit [UnicodeData] in
theorem pairing_rehandshake_commutes : Commutes checkPairingRehandshake := by
  rw [commutes_iff]
  intro f mono _ record since
  simp only [checkPairingRehandshake, first_out_renumbered f mono]
  cases firstAfter record since (isOut "noise/handshake") with
  | none => simp
  | some message1 =>
      simp only [renumber_some, renumber_id, first_in_renumbered f mono, renumber_rejected]
      cases firstAfter record message1.id (isIn "noise/handshake") with
      | none =>
          simp only [renumber_none]
          split <;> simp [*]
      | some message2 =>
          simp only [renumber_some, renumber_id, pairing_activation_renumbered f mono]
          cases pairingActivation record message2.id with
          | error raised => rfl
          | ok found =>
              cases found with
              | some activation => simp
              | none =>
                  simp only [renumber_ok, renumber_none]
                  split <;> simp [*]

theorem judge_pair_init_renumbered (f : Nat → Nat) (activation response : RecordedFrame) (expected : Nat) :
    judgePairInit (renumber f activation) (renumber f response) expected =
      renumber f (judgePairInit activation response expected) := by
  simp only [judgePairInit, renumber_fields]
  split <;> simp [*]

theorem pair_init_commutes : Commutes checkPairInit := by
  rw [commutes_iff]
  intro f mono _ record since
  simp only [checkPairInit, pairing_activation_renumbered f mono]
  cases pairingActivation record since with
  | error raised => rfl
  | ok found =>
      cases found with
      | none => simp
      | some activation =>
          simp only [renumber_ok, renumber_some, first_inbound_renumbered f mono, renumber_rejected,
            activations_since_handshake_renumbered f mono]
          cases firstInbound record activation
              (some ("client/pair-init" :: "client/pair-finalize" :: refusals)) with
          | none =>
              simp only [renumber_none]
              split <;> simp [*]
          | some response =>
              simp only [renumber_some, renumber_typed, judge_pair_init_renumbered]
              split <;> simp [*]

omit [UnicodeData] in
theorem judge_finalize_renumbered (f : Nat → Nat) (mono : StrictMono f) (record : ConnectionRecord)
    (pairInit finalize : RecordedFrame) :
    judgeFinalize (renumber f record) (renumber f pairInit) (renumber f finalize) =
      renumber f (judgeFinalize record pairInit finalize) := by
  simp only [judgeFinalize, renumber_fields, renumber_id, first_out_renumbered f mono]
  by_cases problems : finalizeProblems finalize.fields = []
  · simp only [problems, ne_eq, not_true_eq_false, if_false]
    cases firstAfter record finalize.id (isOut "server/pair-finalize") <;> simp
  · simp [problems]

theorem pair_finalize_commutes : Commutes checkPairFinalize := by
  rw [commutes_iff]
  intro f mono _ record since
  simp only [checkPairFinalize, first_in_renumbered f mono]
  cases firstAfter record since (isIn "client/pair-init") with
  | none => simp
  | some pairInit =>
      simp only [renumber_some, first_inbound_renumbered f mono]
      cases firstInbound record pairInit (some ("client/pair-finalize" :: (pairingMessages ++ refusals))) with
      | none =>
          simp only [renumber_none, unfinalized, renumber_rejected]
          split <;> simp [*]
      | some answer =>
          simp only [renumber_some, renumber_typed, unfinalized, describe_renumbered,
            judge_finalize_renumbered f mono]
          split <;> simp [*]

omit [UnicodeData] in
theorem promotion_commutes : Commutes checkPromotion := by
  rw [commutes_iff]
  intro f mono zero record since
  simp only [checkPromotion, first_out_renumbered f mono]
  cases firstAfter record since (isOut "server/pair-finalize") with
  | none => simp
  | some acknowledged =>
      simp only [renumber_some, renumber_id, first_out_renumbered f mono]
      cases firstAfter record acknowledged.id (isOut "noise/handshake") with
      | none => simp
      | some message1 =>
          simp only [renumber_some, renumber_id, first_in_renumbered f mono, renumber_rejected,
            keyed_after_renumbered f mono zero, long_term_renumbered]
          cases firstAfter record message1.id (isIn "noise/handshake") with
          | none =>
              simp only [renumber_none]
              split <;> simp [*]
          | some message2 =>
              simp only [renumber_some]
              split <;> simp [*]

theorem paired_activation_commutes : Commutes checkPairedActivation := by
  rw [commutes_iff]
  intro f mono _ record since
  simp only [checkPairedActivation, paired_activation_renumbered f mono]
  cases pairedActivation record since with
  | none => simp
  | some activation =>
      simp only [renumber_some, first_inbound_renumbered f mono, renumber_closed]
      cases firstInbound record activation (some refusals) with
      | some refusal => simp
      | none =>
          simp only [renumber_none]
          split <;> simp [*]

theorem forgotten_reconnect_commutes : Commutes fun record _ => checkForgottenReconnect record := by
  rw [commutes_iff]
  intro f _ _ record _
  simp only [checkForgottenReconnect, first_outbound_activation_renumbered, judge_keying_renumbered]
  cases firstOutboundActivation record fun payload =>
      declares "playback" payload || (getKey payload "active_roles").truthy with
  | none => simp
  | some declared => simp

theorem unpair_goodbye_commutes : Commutes fun record _ => checkUnpairGoodbye record := by
  rw [commutes_iff]
  intro f mono zero record _
  simp only [checkUnpairGoodbye, outbound_renumbered, List.head?_map]
  cases (record.outbound "server/unpair").head? with
  | none => simp
  | some unpair =>
      simp only [Option.map_some, keyed_before_renumbered f mono zero, long_term_renumbered,
        first_inbound_renumbered f mono]
      split
      · simp
      · cases firstInbound record unpair (some ["client/goodbye"]) with
        | none => simp
        | some goodbye =>
            simp only [renumber_some, renumber_fields]
            split <;> simp [*]

omit [UnicodeData] in
theorem output_delay_renumbered (f : Nat → Nat) (before after : ConnectionRecord) (commanded : Option Int) :
    checkRestartKeepsOutputDelay (renumber f before) (renumber f after) commanded =
      renumber f (checkRestartKeepsOutputDelay before after commanded) := by
  have same : ∀ frame, outputDelay (renumber f frame) = outputDelay frame := fun _ => rfl
  cases commanded with
  | none => simp [checkRestartKeepsOutputDelay]
  | some delay =>
      simp only [checkRestartKeepsOutputDelay, inbound_renumbered, List.find?_map, Function.comp_def, same]
      cases (before.inbound "client/state").find? fun frame => outputDelay frame == some delay with
      | none => rfl
      | some echo =>
          cases (after.inbound "client/state").find? fun frame => (outputDelay frame).isSome with
          | none => simp
          | some state =>
              simp only [Option.map_some, judgeDelay, same]
              split <;> simp [*]

end Suite

end Conformance.Validator
