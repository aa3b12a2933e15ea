import SendspinConformance.Harness.CaseComparison
import SendspinConformance.Harness.ChunksJudged
import SendspinConformance.Harness.EncodedPass
import SendspinConformance.Harness.FormatsPass
import SendspinConformance.Harness.RolesPass
import SendspinConformance.Protocol.GateWiden
import SendspinConformance.Protocol.TimeJudged

set_option autoImplicit false

namespace Conformance.Comparison

open Base Python Harness Conformance.Matrix Protocol

section

variable [UnicodeData]

-- An adapter's evidence holds every assertion to have passed, over one event of its trace or more.
structure Evidenced (assertionIds : List String) (summary : Fields) : Prop where
  evidence : ∃ protocol assertions, getKey summary "protocol" = .obj protocol ∧
    getKey protocol "spec_revision" = .str SPEC_REVISION ∧ getKey protocol "assertions" = .obj assertions ∧
    ∀ assertionId ∈ assertionIds, ∃ result event events, getKey assertions assertionId = .obj result ∧
      getKey result "status" = .str "passed" ∧ getKey result "events" = .arr (event :: events)

omit [UnicodeData] in
theorem assertion_passes (role : String) (assertions : Fields) (assertionId : String) :
    assertionFailure role assertions assertionId = none ↔ ∃ result event events,
      getKey assertions assertionId = .obj result ∧ getKey result "status" = .str "passed" ∧
        getKey result "events" = .arr (event :: events) := by
  rw [assertionFailure]
  cases getKey assertions assertionId with
  | obj result =>
      cases passed : (getKey result "status").eqStr "passed" with
      | false =>
          have differs : getKey result "status" ≠ .str "passed" := by
            rw [ne_eq, ← Json.eq_str_iff, passed]
            exact Bool.false_ne_true
          simp [passed, differs]
      | true =>
          rw [Json.eq_str_iff] at passed
          cases events : getKey result "events" with
          | arr found => cases found <;> simp [passed, events, Json.eqStr]
          | _ => simp [passed, events, Json.eqStr]
  | _ => simp

theorem role_evidence_passes (assertionIds : List String) (role : String) (summary : Fields) :
    roleEvidenceFailure assertionIds (role, summary) = none ↔ Evidenced assertionIds summary := by
  rw [roleEvidenceFailure]
  constructor
  · intro passed
    cases isProtocol : getKey summary "protocol" with
    | obj protocol =>
        simp only [isProtocol] at passed
        cases revision : (getKey protocol "spec_revision").eqStr SPEC_REVISION with
        | false => simp [revision] at passed
        | true =>
            cases isAssertions : getKey protocol "assertions" with
            | obj assertions =>
                simp only [revision, isAssertions, Bool.not_true, Bool.false_eq_true, if_false,
                  List.findSome?_eq_none_iff, assertion_passes] at passed
                exact ⟨protocol, assertions, isProtocol, (Json.eq_str_iff _ _).mp revision, isAssertions, passed⟩
            | _ => simp [revision, isAssertions] at passed
    | _ => simp [isProtocol] at passed
  · rintro ⟨protocol, assertions, isProtocol, revision, isAssertions, passed⟩
    rw [← Json.eq_str_iff] at revision
    simpa [isProtocol, revision, isAssertions, assertion_passes] using passed

-- The evidence of both adapters, over assertions there are
structure EvidencePasses (assertionIds : List String) (serverSummary clientSummary : Fields) : Prop where
  known : ∀ assertionId ∈ assertionIds, assertionId ∈ protocolAssertionIds
  server : Evidenced assertionIds serverSummary
  client : Evidenced assertionIds clientSummary

theorem evidence_passes (assertionIds : List String) (serverSummary clientSummary : Fields) :
    protocolEvidenceFailure serverSummary clientSummary assertionIds = none ↔
      EvidencePasses assertionIds serverSummary clientSummary := by
  have known : (assertionIds.filter fun assertionId => !protocolAssertionIds.contains assertionId).isEmpty = true ↔
      ∀ assertionId ∈ assertionIds, assertionId ∈ protocolAssertionIds := by
    simp [List.isEmpty_iff, List.filter_eq_nil_iff]
  have both : (evidenceRoles serverSummary clientSummary).findSome? (roleEvidenceFailure assertionIds) = none ↔
      Evidenced assertionIds serverSummary ∧ Evidenced assertionIds clientSummary := by
    simp [evidenceRoles, List.findSome?_eq_none_iff, role_evidence_passes]
  simp only [protocolEvidenceFailure]
  by_cases all_known : ∀ assertionId ∈ assertionIds, assertionId ∈ protocolAssertionIds
  · simp only [known.mpr all_known, Bool.not_true, Bool.false_eq_true, if_false, both]
    exact ⟨fun ⟨server, client⟩ => ⟨all_known, server, client⟩, fun passes => ⟨passes.server, passes.client⟩⟩
  · simp only [(Bool.not_eq_true _).mp (mt known.mp all_known), Bool.not_false, if_true, reduceCtorEq, false_iff]
    exact fun passes => all_known passes.known

end

-- The first server/activate, where the server adapter records one, carries what RC1 requires of it.
structure ActivationConforms (serverSummary : Fields) : Prop where
  sent : hasKey serverSummary "activation" = true → getKey serverSummary "activation" ≠ .null
  complete : ∀ activation payload, getKey serverSummary "activation" = .obj activation →
    getKey activation "type" = .str "server/activate" → getKey activation "payload" = .obj payload →
    hasKey payload "activities" = true ∧ isRc1ActivitySet (getKey payload "activities") = true ∧
      hasKey payload "active_roles" = true

theorem activation_defects_none (payload : Fields) :
    activationDefects payload = [] ↔ hasKey payload "activities" = true ∧
      isRc1ActivitySet (getKey payload "activities") = true ∧ hasKey payload "active_roles" = true := by
  rw [activationDefects]
  cases hasKey payload "activities" <;> cases isRc1ActivitySet (getKey payload "activities") <;>
    cases hasKey payload "active_roles" <;> simp

theorem activation_conforms (serverSummary : Fields) :
    activationViolation serverSummary = none ↔ ActivationConforms serverSummary := by
  rw [activationViolation]
  cases recorded : hasKey serverSummary "activation" with
  | false =>
      refine iff_of_true rfl ⟨fun impossible => ?_, fun activation _ isActivation => ?_⟩
      · rw [recorded] at impossible
        cases impossible
      · rw [get_key_absent _ _ recorded] at isActivation
        cases isActivation
  | true =>
      cases isActivation : getKey serverSummary "activation" with
      | null => exact iff_of_false (by simp) fun conforms => conforms.sent recorded isActivation
      | obj activation =>
          cases activates : (getKey activation "type").eqStr "server/activate" with
          | false =>
              refine iff_of_true (by simp [activates]) ⟨by simp [isActivation], fun found payload same type => ?_⟩
              cases isActivation.symm.trans same
              rw [type] at activates
              cases activates
          | true =>
              cases isPayload : getKey activation "payload" with
              | obj payload =>
                  rw [Json.eq_str_iff] at activates
                  trans activationDefects payload = []
                  · simp [activates, Json.eqStr, isPayload]
                  · rw [activation_defects_none]
                    constructor
                    · refine fun complete => ⟨by simp [isActivation], fun found other same _ sent => ?_⟩
                      cases isActivation.symm.trans same
                      cases isPayload.symm.trans sent
                      exact complete
                    · exact fun conforms => conforms.complete activation payload isActivation activates isPayload
              | _ =>
                  refine iff_of_true (by simp [activates, isPayload]) ⟨by simp [isActivation], fun found other same _ sent => ?_⟩
                  cases isActivation.symm.trans same
                  cases isPayload.symm.trans sent
      | _ => exact iff_of_true (by simp) ⟨by simp [isActivation], by simp [isActivation]⟩

-- What RC1 requires of a group/update
def GroupUpdateComplete (groupUpdate : Json) : Prop :=
  ∃ update payload, groupUpdate = .obj update ∧ getKey update "type" = .str "group/update" ∧
    getKey update "payload" = .obj payload ∧ (∃ state ∈ RC1_PLAYBACK_STATES, getKey payload "playback_state" = .str state) ∧
    ∀ name ∈ ["group_id", "group_name"], ∃ text, getKey payload name = .str text

-- The server sent one or more, unless it never activated the connection, and all of them are complete.
def GroupUpdatesConform (serverSummary : Fields) : Prop :=
  (hasKey serverSummary "activation" = true ∧ getKey serverSummary "activation" = .null) ∨
    ∃ groupUpdates, getKey serverSummary "group_updates" = .arr groupUpdates ∧ groupUpdates ≠ [] ∧
      ∀ groupUpdate ∈ groupUpdates, GroupUpdateComplete groupUpdate

theorem text_defect_none (payload : Fields) (name : String) :
    groupTextDefect payload name = none ↔ ∃ text, getKey payload name = .str text := by
  rw [groupTextDefect]
  cases present : hasKey payload name with
  | false => simp [get_key_absent _ _ present]
  | true => cases found : getKey payload name <;> simp [Json.isStr]

theorem state_defect_none (payload : Fields) :
    playbackStateDefect payload = none ↔ ∃ state ∈ RC1_PLAYBACK_STATES, getKey payload "playback_state" = .str state := by
  rw [playbackStateDefect]
  cases present : hasKey payload "playback_state" with
  | false => simp [get_key_absent _ _ present]
  | true =>
      trans RC1_PLAYBACK_STATES.any (getKey payload "playback_state").eqStr = true
      · cases RC1_PLAYBACK_STATES.any (getKey payload "playback_state").eqStr <;> simp
      · simp only [List.any_eq_true, Json.eq_str_iff]

theorem update_defects_none (payload : Json) :
    groupUpdateDefects payload = [] ↔ ∃ fields, payload = .obj fields ∧
      (∃ state ∈ RC1_PLAYBACK_STATES, getKey fields "playback_state" = .str state) ∧
      ∀ name ∈ ["group_id", "group_name"], ∃ text, getKey fields name = .str text := by
  cases payload with
  | obj fields =>
      simp only [groupUpdateDefects, List.append_eq_nil_iff, Option.toList_eq_nil_iff, state_defect_none,
        List.filterMap_eq_nil_iff, text_defect_none, Json.obj.injEq, exists_eq_left']
  | _ => simp [groupUpdateDefects]

theorem loop_passes (total index : Nat) (groupUpdates : List Json) :
    groupUpdateLoop total index groupUpdates = none ↔ ∀ groupUpdate ∈ groupUpdates, GroupUpdateComplete groupUpdate := by
  induction groupUpdates generalizing index with
  | nil => simp [groupUpdateLoop]
  | cons first rest ih =>
      rw [List.forall_mem_cons]
      cases first with
      | obj update =>
          cases typed : (getKey update "type").eqStr "group/update" with
          | false =>
              refine iff_of_false (by simp [groupUpdateLoop, typed]) fun complete => ?_
              obtain ⟨found, payload, same, type, _⟩ := complete.1
              cases same
              rw [type] at typed
              cases typed
          | true =>
              have first_complete : groupUpdateDefects (getKey update "payload") = [] ↔ GroupUpdateComplete (.obj update) := by
                rw [Json.eq_str_iff] at typed
                simp [update_defects_none, GroupUpdateComplete, typed]
              rw [← first_complete, ← ih (index + 1)]
              by_cases complete : groupUpdateDefects (getKey update "payload") = [] <;>
                simp [groupUpdateLoop, typed, complete]
      | _ => exact iff_of_false (by simp [groupUpdateLoop]) fun complete => by obtain ⟨_, _, same, _⟩ := complete.1; cases same

theorem group_updates_conform (serverSummary : Fields) :
    groupUpdateViolation serverSummary = none ↔ GroupUpdatesConform serverSummary := by
  rw [groupUpdateViolation, GroupUpdatesConform, ← is_null_iff, ← Bool.and_eq_true]
  cases hasKey serverSummary "activation" && (getKey serverSummary "activation").isNull with
  | true => simp
  | false =>
      cases isUpdates : getKey serverSummary "group_updates" with
      | arr groupUpdates =>
          by_cases unsent : groupUpdates = [] <;> simp [unsent, loop_passes]
      | _ => simp

section

variable [Host]

-- The frames the server sent are audio chunks with the header and the durations RC1 gives them, and the client received
-- those frames.
def ChunksFramed (serverSummary clientSummary : Fields) : Prop :=
  ∃ serverAudio clientAudio sent received, getKey serverSummary "audio" = .obj serverAudio ∧
    getKey clientSummary "audio" = .obj clientAudio ∧
    transportedFrames (getKey serverAudio "sent_chunk_frames") = some sent ∧
    transportedFrames (getKey clientAudio "received_chunk_frames") = some received ∧
    ServerMeets roundedShortest roundedLongest serverSummary serverAudio sent ∧ ClientAgrees sent received

-- A verdict that passes has read the frames of both sides.
theorem framing_readable (serverSummary clientSummary : Fields)
    (passed : Succeeds (chunkFramingVerdict serverSummary clientSummary)) :
    ∃ serverAudio clientAudio sent received, ServerReadable serverSummary serverAudio sent ∧
      ClientReadable clientSummary clientAudio received := by
  simp only [chunkFramingVerdict, succeeds_unless, Bool.not_eq_true', Bool.not_eq_false, Json.eq_str_iff] at passed
  obtain ⟨serverOk, clientOk, passed⟩ := passed
  cases isServer : getKey serverSummary "audio" with
  | obj serverAudio =>
      rw [isServer] at passed
      simp only at passed
      cases isSent : transportedFrames (getKey serverAudio "sent_chunk_frames") with
      | none =>
          rw [isSent] at passed
          exact absurd passed (succeeds_failed _)
      | some sent =>
          rw [isSent] at passed
          cases sent with
          | nil => exact absurd passed (succeeds_failed _)
          | cons frame frames =>
              obtain ⟨⟨judged, durations⟩, _, passed⟩ := (succeeds_bind _ _).mp passed
              cases judged with
              | false => exact absurd passed (succeeds_failed _)
              | true =>
                  simp only [if_true, clientVerdict] at passed
                  cases isClient : getKey clientSummary "audio" with
                  | obj clientAudio =>
                      rw [isClient] at passed
                      simp only at passed
                      cases isReceived : transportedFrames (getKey clientAudio "received_chunk_frames") with
                      | none =>
                          rw [isReceived] at passed
                          exact absurd passed (succeeds_failed _)
                      | some received =>
                          exact ⟨serverAudio, clientAudio, frame :: frames, received, ⟨serverOk, isServer, isSent⟩,
                            ⟨clientOk, isClient, isReceived⟩⟩
                  | _ => simp [isClient, succeeds_failed] at passed
  | _ => simp [isServer, succeeds_failed] at passed

theorem chunks_framed (serverSummary clientSummary : Fields) :
    Succeeds (chunkFramingVerdict serverSummary clientSummary) ↔
      StatusesOk serverSummary clientSummary ∧ ChunksFramed serverSummary clientSummary := by
  constructor
  · intro passed
    obtain ⟨serverAudio, clientAudio, sent, received, server, client⟩ := framing_readable _ _ passed
    have judged := (framing_verdict _ _ _ server _ _ _ client).passed.mp passed
    exact ⟨⟨server.ok, client.ok⟩, serverAudio, clientAudio, sent, received, server.audio, client.audio, server.frames,
      client.frames, judged⟩
  · rintro ⟨statuses, serverAudio, clientAudio, sent, received, onServer, onClient, isSent, isReceived, judged⟩
    exact (framing_verdict _ _ _ ⟨statuses.1, onServer, isSent⟩ _ _ _ ⟨statuses.2, onClient, isReceived⟩).passed.mpr judged

-- What the mode of a scenario asks of the two summaries
def ModeHolds (scenario : VerifiedScenario) (serverSummary clientSummary : Fields) : Prop :=
  match scenario.verificationMode with
  | .protocol => EvidencePasses scenario.protocolAssertions serverSummary clientSummary
  | .audioPcm => PcmMatches serverSummary clientSummary ∧ ∀ bitDepth, scenario.verifiesStreamBitDepth = some bitDepth →
      StreamedAt serverSummary clientSummary bitDepth
  | .audioEncodedBytes =>
      (scenario.verifiesFormatPriority = true → PriorityHonoured serverSummary scenario.preferredCodec) ∧
      EncodedMatches serverSummary clientSummary scenario.preferredCodec
  | .metadata => MetadataMatches serverSummary clientSummary
  | .controller => ControllerMatches serverSummary clientSummary
  | .artwork => ArtworkMatches serverSummary clientSummary
  | .formatPreference => FormatPreferred scenario.id serverSummary clientSummary
  | .audioChunkFraming => ChunksFramed serverSummary clientSummary

-- What every case asks of the connection the server made
structure ConnectionHolds (scenario : VerifiedScenario) (serverSummary clientSummary : Fields) : Prop where
  activation : ActivationConforms serverSummary
  groupUpdates : GroupUpdatesConform serverSummary
  gate : streams scenario = true → ∃ trace entries, getKey serverSummary "availability_trace" = .arr trace ∧
    trace.mapM gateEntry = some entries ∧ GatePasses entries
  timeExchange : ∃ exchange log, getKey serverSummary "time_exchange" = .arr exchange ∧
    exchange.mapM timeEntry = some log ∧ ∃ pair, Pairing log pair ∧ Unblamed log (Paired log pair)
  formats : DeclaredOnly serverSummary clientSummary

omit [Host] in
theorem unless_passes (violation : Py (Option String)) (otherwise : Py (Bool × String)) :
    Succeeds (unlessViolated violation otherwise) ↔ violation = .ok none ∧ Succeeds otherwise := by
  rw [unlessViolated, succeeds_bind]
  constructor
  · rintro ⟨found, given, passed⟩
    cases found with
    | none => exact ⟨given, passed⟩
    | some reason => exact absurd passed (succeeds_failed _)
  · exact fun ⟨given, passed⟩ => ⟨none, given, passed⟩

theorem pcm_passes (scenario : VerifiedScenario) (serverSummary clientSummary : Fields) :
    Succeeds (pcmVerdict scenario serverSummary clientSummary) ↔
      Succeeds (compareAudioSummaries serverSummary clientSummary) ∧
      ∀ bitDepth, scenario.verifiesStreamBitDepth = some bitDepth →
        StreamedAt serverSummary clientSummary bitDepth := by
  simp only [← bit_depth_kept, pcmVerdict, succeeds_bind]
  constructor
  · rintro ⟨⟨passed, reason⟩, given, succeeds⟩
    cases passed with
    | false => exact absurd succeeds (succeeds_failed _)
    | true =>
        refine ⟨⟨reason, given⟩, fun bitDepth depth => ?_⟩
        simp only [depth, unless_passes] at succeeds
        exact succeeds.1
  · rintro ⟨⟨reason, given⟩, kept⟩
    refine ⟨(true, reason), given, ?_⟩
    cases depth : scenario.verifiesStreamBitDepth with
    | none => exact succeeds_passed _
    | some bitDepth => exact (unless_passes _ _).mpr ⟨kept bitDepth depth, succeeds_passed _⟩

theorem encoded_passes (scenario : VerifiedScenario) (serverSummary clientSummary : Fields) :
    Succeeds (encodedVerdict scenario serverSummary clientSummary) ↔ StatusesOk serverSummary clientSummary ∧
      (scenario.verifiesFormatPriority = true → PriorityHonoured serverSummary scenario.preferredCodec) ∧
      EncodedMatches serverSummary clientSummary scenario.preferredCodec := by
  rw [← priority_honoured, encodedVerdict, unless_passes, compare_encoded_passes, and_left_comm]
  refine and_congr_right fun statuses => and_congr_left fun _ => ?_
  rw [statuses.1]
  cases scenario.verifiesFormatPriority <;> simp [Json.eqStr]

theorem dispatch_passes (scenario : VerifiedScenario) (serverSummary clientSummary : Fields) :
    Succeeds (dispatchComparison scenario serverSummary clientSummary) ↔
      StatusesOk serverSummary clientSummary ∧ ModeHolds scenario serverSummary clientSummary := by
  rw [dispatchComparison, ModeHolds]
  cases scenario.verificationMode with
  | protocol =>
      rw [protocolVerdict, succeeds_statuses, ← evidence_passes]
      refine and_congr_right fun _ => ?_
      cases protocolEvidenceFailure serverSummary clientSummary scenario.protocolAssertions with
      | none => simp [succeeds_passed]
      | some failure => simp [succeeds_failed]
  | audioPcm =>
      rw [← and_assoc, ← compare_audio_passes]
      exact pcm_passes _ _ _
  | audioEncodedBytes => exact encoded_passes _ _ _
  | metadata => exact compare_metadata_passes _ _
  | controller => exact compare_controller_passes _ _
  | artwork => exact compare_artwork_passes _ _
  | formatPreference => exact compare_preference_passes _ _ _
  | audioChunkFraming => exact chunks_framed _ _

theorem connection_passes (scenario : VerifiedScenario) (serverSummary clientSummary : Fields)
    (judged : Py (Bool × String)) :
    Succeeds ((connectionViolations scenario serverSummary clientSummary).foldr unlessViolated judged) ↔
      ConnectionHolds scenario serverSummary clientSummary ∧ Succeeds judged := by
  have gate : (if streams scenario = true then streamStartGateViolation serverSummary else none) = none ↔
      (streams scenario = true → ∃ trace entries, getKey serverSummary "availability_trace" = .arr trace ∧
        trace.mapM gateEntry = some entries ∧ GatePasses entries) := by
    rw [← stream_start_gate_none]
    cases streams scenario <;> simp
  simp only [connectionViolations, List.foldr_cons, List.foldr_nil, unless_passes, Except.ok.injEq,
    activation_conforms, group_updates_conform, gate, exchange_clean, time_run_judged, declared_only]
  constructor
  · rintro ⟨activation, groupUpdates, gate, timeExchange, formats, passed⟩
    exact ⟨⟨activation, groupUpdates, gate, timeExchange, formats⟩, passed⟩
  · rintro ⟨⟨activation, groupUpdates, gate, timeExchange, formats⟩, passed⟩
    exact ⟨activation, groupUpdates, gate, timeExchange, formats, passed⟩

-- Adapters whose summaries are ok have reported nothing.
theorem nothing_reported (serverSummary clientSummary : Fields) (statuses : StatusesOk serverSummary clientSummary) :
    adapterReportedFailures [(.server, serverSummary), (.client, clientSummary)] = none := by
  simp [adapterReportedFailures, reportedFailure, statuses.1, statuses.2, Json.eqStr, joinWith]

theorem fields_pass (scenario : VerifiedScenario) (serverSummary clientSummary : Fields) :
    Succeeds (compareFields scenario serverSummary clientSummary) ↔
      Succeeds (dispatchComparison scenario serverSummary clientSummary) ∧
      ConnectionHolds scenario serverSummary clientSummary := by
  constructor
  · intro passed
    rw [compareFields] at passed
    cases reported : adapterReportedFailures [(.server, serverSummary), (.client, clientSummary)] with
    | some failure =>
        rw [reported] at passed
        exact absurd passed (succeeds_failed _)
    | none =>
        simp only [reported, succeeds_bind] at passed
        obtain ⟨⟨succeeded, reason⟩, given, passed⟩ := passed
        cases succeeded with
        | false => exact absurd passed (succeeds_failed _)
        | true => exact ⟨⟨reason, given⟩, ((connection_passes _ _ _ _).mp passed).1⟩
  · rintro ⟨⟨reason, given⟩, holds⟩
    have statuses := ((dispatch_passes _ _ _).mp ⟨reason, given⟩).1
    simp only [compareFields, nothing_reported _ _ statuses, given]
    exact (connection_passes _ _ _ _).mpr ⟨holds, succeeds_passed _⟩

theorem summaries_pass_iff (scenario : VerifiedScenario) (serverPayload clientPayload : Json) :
    Succeeds (compareSummaries scenario serverPayload clientPayload) ↔ ∃ serverSummary clientSummary,
      serverPayload = .obj serverSummary ∧ clientPayload = .obj clientSummary ∧
      StatusesOk serverSummary clientSummary ∧ ModeHolds scenario serverSummary clientSummary ∧
      ConnectionHolds scenario serverSummary clientSummary := by
  constructor
  · intro passed
    cases serverPayload with
    | obj serverSummary =>
        cases clientPayload with
        | obj clientSummary =>
            obtain ⟨dispatched, holds⟩ := (fields_pass _ _ _).mp passed
            obtain ⟨statuses, mode⟩ := (dispatch_passes _ _ _).mp dispatched
            exact ⟨serverSummary, clientSummary, rfl, rfl, statuses, mode, holds⟩
        | _ => exact absurd passed (succeeds_raised _)
    | _ => exact absurd passed (succeeds_raised _)
  · rintro ⟨serverSummary, clientSummary, rfl, rfl, statuses, mode, holds⟩
    exact (fields_pass _ _ _).mpr ⟨(dispatch_passes _ _ _).mpr ⟨statuses, mode⟩, holds⟩

end

end Conformance.Comparison
