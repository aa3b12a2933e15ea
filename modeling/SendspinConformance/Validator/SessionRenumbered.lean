import SendspinConformance.Validator.RenumberedChecks
import SendspinConformance.Validator.RenumberedCodePairing
import SendspinConformance.Validator.Recorder

set_option autoImplicit false

namespace Conformance.Validator

open Python Base Suite CodePairing

-- What of a session the judged connections recorded.
def ownFrames (connection : Nat) (laterConnections : List Nat) (frames : List RecordedFrame) : List RecordedFrame :=
  frames.filter fun frame => judged connection laterConnections (some frame.connection)

def ownViolations (connection : Nat) (laterConnections : List Nat) (noncompliance : List RecordedNoncompliance) :
    List RecordedNoncompliance :=
  noncompliance.filter fun observation => judged connection laterConnections observation.connection

theorem observed_of_own (connection : Nat) (laterConnections : List Nat) (frames : List RecordedFrame)
    (noncompliance : List RecordedNoncompliance) :
    ConnectionRecord.ofSession connection frames noncompliance =
      .ofSession connection (ownFrames connection laterConnections frames)
        (ownViolations connection laterConnections noncompliance) := by
  have keptFrames : ∀ frame : RecordedFrame, (frame.connection == connection) =
      (judged connection laterConnections (some frame.connection) && frame.connection == connection) := by
    intro frame
    by_cases own : frame.connection = connection
    · simp [judged, own]
    · simp [own]
  have keptViolations : ∀ observation : RecordedNoncompliance, (observation.connection == some connection) =
      (judged connection laterConnections observation.connection && observation.connection == some connection) := by
    intro observation
    by_cases own : observation.connection = some connection
    · simp [judged, own]
    · simp [own]
  simp only [ConnectionRecord.ofSession, ownFrames, ownViolations, List.filter_filter, Bool.and_comm (_ == _),
    ← keptFrames, ← keptViolations]

theorem session_renumbered (f : Nat → Nat) (connection : Nat) (frames : List RecordedFrame)
    (noncompliance : List RecordedNoncompliance) :
    ConnectionRecord.ofSession connection (renumber f frames) (renumber f noncompliance) =
      renumber f (ConnectionRecord.ofSession connection frames noncompliance) := by
  simp only [ConnectionRecord.ofSession, renumber_list, List.filter_map, Function.comp_def]
  rfl

variable [UnicodeData]

theorem strict_finding_renumbered (f : Nat → Nat) (observation : RecordedNoncompliance) :
    strictFinding (renumber f observation) = renumber f (strictFinding observation) := by
  have frames : (renumber f observation).afterFrame.toList = renumber f observation.afterFrame.toList := by
    show (renumber f observation.afterFrame).toList = _
    cases observation.afterFrame <;> rfl
  simp only [strictFinding, renumber_reason, frames]
  cases specRefFor observation.reason with
  | error raised => rfl
  | ok ref => cases ref <;> rfl

theorem noncompliance_renumbered (f : Nat → Nat) (noncompliance : List RecordedNoncompliance) :
    checkNoncompliance (renumber f noncompliance) = renumber f (checkNoncompliance noncompliance) := by
  simp only [checkNoncompliance, renumber_list, List.isEmpty_map, List.filter_map, Function.comp_def, renumber_reason]
  split
  · rfl
  · simp only [List.map_map, Function.comp_def, strict_finding_renumbered]

-- What a session's judged connections are found to have done, whatever the recorder missed.
theorem judge_session_renumbered (f : Nat → Nat) (connection : Nat) (laterConnections : List Nat)
    (txtName : Option String) (frames otherFrames : List RecordedFrame)
    (noncompliance otherNoncompliance : List RecordedNoncompliance)
    (increasing : StrictMonoOn f {place | place ∈ places (ownFrames connection laterConnections frames,
      ownViolations connection laterConnections noncompliance)})
    (sameFrames : ownFrames connection laterConnections otherFrames =
      renumber f (ownFrames connection laterConnections frames))
    (sameViolations : ownViolations connection laterConnections otherNoncompliance =
      renumber f (ownViolations connection laterConnections noncompliance)) :
    judgeSession otherFrames otherNoncompliance [] connection laterConnections txtName =
      renumber f (judgeSession frames noncompliance [] connection laterConnections txtName) := by
  have record := observed_of_own connection laterConnections otherFrames otherNoncompliance
  rw [sameFrames, sameViolations, session_renumbered, ← observed_of_own] at record
  have onRecord : StrictMonoOn f
      {place | place ∈ places (ConnectionRecord.ofSession connection frames noncompliance)} := by
    apply increasing.mono
    intro place member
    rw [observed_of_own connection laterConnections] at member
    simp only [places, ConnectionRecord.ofSession, List.filter_nil, List.flatMap_nil, List.append_nil,
      Set.mem_ofPred_eq, List.mem_append, List.mem_flatMap, List.mem_filter] at member ⊢
    obtain ⟨frame, kept, named⟩ | ⟨observation, kept, named⟩ := member
    · exact Or.inl ⟨frame, kept.1, named⟩
    · exact Or.inr ⟨observation, kept.1, named⟩
  have checked := unanchored_on_places (fun judged => runChecks judged txtName) (run_checks_renumbered txtName) f
    (ConnectionRecord.ofSession connection frames noncompliance) onRecord
  have flagged := noncompliance_renumbered f (ownViolations connection laterConnections noncompliance)
  rw [← sameViolations] at flagged
  simp only [judgeSession, record, checked, renumber_list, List.map_append, List.map_nil, List.append_nil]
  exact congrArg (_ ++ ·) flagged

-- The checks of the suites and of pairing with a code that judge one connection record.
def stepChecks (walkthrough checkId : String) (checkIds : List (Stage × String)) : List StepCheck :=
  [fun record _ => checkSentinelHandshake record,
    fun record _ => checkPairingRequired record,
    fun record _ => checkUnpairedPlayback record,
    fun record _ => checkInadmissibleActivation record,
    checkPairingRehandshake,
    checkPairInit,
    checkPairFinalize,
    checkPromotion,
    checkPairedActivation,
    fun record _ => checkLongTermReconnect record,
    fun record _ => checkForgottenReconnect record,
    fun record _ => checkUnpairGoodbye record,
    fun record _ => checkRecordDropped record,
    fun record _ => checkRestartKeepsPairing record,
    checkCommit walkthrough,
    checkPairingIndex checkId,
    checkCpaceLengths checkId,
    checkWrongCode walkthrough,
    checkVerification checkIds,
    checkStaticPending,
    checkStaticShape,
    checkStaticOrder,
    checkLockout,
    checkCancel,
    checkTimeout]

theorem step_checks_commute (walkthrough checkId : String) (checkIds : List (Stage × String)) :
    ∀ check ∈ stepChecks walkthrough checkId checkIds, Commutes check := by
  simp only [stepChecks, List.forall_mem_cons]
  exact ⟨keying_commutes _ _ _ _, pairing_required_commutes, unpaired_playback_commutes,
    inadmissible_activation_commutes, pairing_rehandshake_commutes, pair_init_commutes, pair_finalize_commutes,
    promotion_commutes, paired_activation_commutes, keying_commutes _ _ _ _, forgotten_reconnect_commutes,
    unpair_goodbye_commutes, keying_commutes _ _ _ _, keying_commutes _ _ _ _, commit_commutes walkthrough,
    pairing_index_commutes checkId, cpace_lengths_commutes checkId, wrong_code_commutes walkthrough,
    verification_commutes checkIds, static_pending_commutes, static_shape_commutes, static_order_commutes,
    lockout_commutes, cancel_commutes, timeout_commutes, by simp⟩

-- Two sessions that agree on the judged connections, up to an increasing renumbering of
-- frame ids, are found the same; only what the recorder could not process is reported as it is.
def SessionsAgree (f : Nat → Nat) (connection : Nat) (laterConnections : List Nat)
    (frames otherFrames : List RecordedFrame) (noncompliance otherNoncompliance : List RecordedNoncompliance) : Prop :=
  StrictMonoOn f {place | place ∈ places (ownFrames connection laterConnections frames,
      ownViolations connection laterConnections noncompliance)} ∧
    ownFrames connection laterConnections otherFrames = renumber f (ownFrames connection laterConnections frames) ∧
    ownViolations connection laterConnections otherNoncompliance =
      renumber f (ownViolations connection laterConnections noncompliance)

-- A renumbering increasing on the places a step's evidence names, which keeps 0 in its place.
def StepRenumbering {α : Type} [Renumbered α] (f : Nat → Nat) (evidence : α) : Prop :=
  f 0 = 0 ∧ StrictMonoOn f {place | place ∈ 0 :: places evidence}

theorem verdicts_follow_own_traffic (f : Nat → Nat) (walkthrough checkId : String)
    (checkIds : List (Stage × String)) :
    (∀ connection laterConnections txtName frames otherFrames noncompliance otherNoncompliance toolErrors
        otherToolErrors,
      SessionsAgree f connection laterConnections frames otherFrames noncompliance otherNoncompliance →
        ∃ shared,
          judgeSession frames noncompliance toolErrors connection laterConnections txtName =
              shared ++ toolErrors.map recorderFinding ∧
            judgeSession otherFrames otherNoncompliance otherToolErrors connection laterConnections txtName =
              renumber f shared ++ otherToolErrors.map recorderFinding) ∧
      (∀ check ∈ stepChecks walkthrough checkId checkIds, ∀ record since, StepRenumbering f (record, since) →
        check (renumber f record) (f since) = renumber f (check record since)) ∧
      ∀ before after commanded, StepRenumbering f (before, after) →
        checkRestartKeepsOutputDelay (renumber f before) (renumber f after) commanded =
          renumber f (checkRestartKeepsOutputDelay before after commanded) := by
  refine ⟨?_, ?_, ?_⟩
  · intro connection laterConnections txtName frames otherFrames noncompliance otherNoncompliance toolErrors
      otherToolErrors agree
    obtain ⟨increasing, sameFrames, sameViolations⟩ := agree
    have shared := judge_session_renumbered f connection laterConnections txtName frames otherFrames noncompliance
      otherNoncompliance increasing sameFrames sameViolations
    refine ⟨judgeSession frames noncompliance [] connection laterConnections txtName, by simp [judgeSession], ?_⟩
    rw [← shared]
    simp [judgeSession]
  · intro check member record since renumbering
    exact anchored_on_places _ (step_checks_commute walkthrough checkId checkIds check member) f (record, since)
      renumbering.1 renumbering.2
  · intro before after commanded renumbering
    exact anchored_on_places
      (fun records : ConnectionRecord × ConnectionRecord => checkRestartKeepsOutputDelay records.1 records.2 commanded)
      (fun g _ _ records => output_delay_renumbered g records.1 records.2 commanded) f (before, after) renumbering.1
      renumbering.2

-- Another client's frame between, and the judged client's ids moved past it.
def otherClientFrame : RecordedFrame := { openingFrame (.str "25519_AESGCM_SHA256") with connection := 7 }

def movedFrame : RecordedFrame := { openingFrame (.str "25519_AESGCM_SHA256") with id := 4 }

omit [UnicodeData] in
theorem other_client_unjudged :
    ∃ shared,
      @judgeSession noUnicode [openingFrame (.str "25519_AESGCM_SHA256")] [] [] 1 [] none =
          shared ++ ([] : List String).map recorderFinding ∧
        @judgeSession noUnicode [otherClientFrame, movedFrame] [] [] 1 [] none =
          renumber (· + 3) shared ++ ([] : List String).map recorderFinding := by
  apply (@verdicts_follow_own_traffic noUnicode (· + 3) "PAIR-DYN" "PAIR-DYN-002" []).1
  refine ⟨?_, rfl, rfl⟩
  intro first _ second _ before
  exact Nat.add_lt_add_right before 3

def integerTooLong : PyError :=
  ⟨"ValueError", "Exceeds the limit (4300 digits) for integer string conversion: value has 4301 digits; " ++
    "use sys.set_int_max_str_digits() to increase the limit"⟩

-- json.loads on a number of 4301 digits, and on the data of the judged client's frame.
def numberLoads (data : List UInt8) : Loaded :=
  if data.length = 4301 then .raised integerTooLong else .value (.obj [("type", .str "client/init")])

def ownData : ObservedFrame :=
  { connection := 1, clientId := none, direction := .inbound, phase := .cleartext, monotonicUs := 0
    data := "\x7b\"type\": \"client/init\"\x7d".toUTF8.toList }

def longNumber : ObservedFrame :=
  { connection := 7, clientId := none, direction := .inbound, phase := .cleartext, monotonicUs := 5
    data := List.replicate 4301 49 }

omit [UnicodeData] in
-- A frame of another connection that the recorder cannot process adds a finding.
theorem unrecorded_frame_reported :
    let alone := observeFrame numberLoads {} ownData
    let crowded := observeFrame numberLoads alone longNumber
    crowded.frames = alone.frames ∧ crowded.noncompliance = alone.noncompliance ∧
      @judgeSession noUnicode crowded.frames crowded.noncompliance crowded.toolErrors 1 [] none ≠
        @judgeSession noUnicode alone.frames alone.noncompliance alone.toolErrors 1 [] none := by
  have tooLong : numberLoads longNumber.data = .raised integerTooLong := if_pos List.length_replicate
  have failed : ∀ recorder, decode numberLoads recorder longNumber = .error integerTooLong := by
    intro recorder
    have unerred : longNumber.error = none := rfl
    have text : jsonText longNumber = some longNumber.data := rfl
    rw [decode, unerred, text]
    dsimp only
    rw [tooLong]
  intro alone crowded
  have kept : crowded = { alone with
      toolErrors := alone.toolErrors ++ [unrecordedError alone longNumber integerTooLong] } := by
    simp only [crowded, observeFrame, failed]
  rw [kept]
  refine ⟨rfl, rfl, ?_⟩
  simp [judgeSession]

end Conformance.Validator
