import SendspinConformance.Validator.ChecksJudged

set_option autoImplicit false

namespace Conformance.Validator

open Python

variable [UnicodeData]

theorem noise_check_unique (txtName : Option String) :
    ∀ check ∈ checks txtName, check.1 = "CORE-NOISE-001" → check.2 = checkNoiseMessage2 := by
  simp [checks]

theorem strict_id_free (txtName : Option String) : ∀ check ∈ checks txtName, check.1 ≠ strictCheckId := by
  simp [checks, strictCheckId]

theorem strict_id (observation : RecordedNoncompliance) : (strictFinding observation).id = strictCheckId := by
  rw [strictFinding]
  split <;> rfl

theorem strict_verdict (observation : RecordedNoncompliance) :
    (strictFinding observation).verdict = .fail ∨ (strictFinding observation).verdict = .toolError := by
  rw [strictFinding]
  split
  · exact Or.inr rfl
  · exact Or.inr rfl
  · exact Or.inl rfl

theorem noise_reason_ruled : specRefFor noisePayloadReason = .ok (some "messaging.md:171") := by rfl

-- No other reason's finding reads like the one a wrong message 2 payload would get.
theorem strict_noise_unique (noise observation : RecordedNoncompliance) (isNoise : noise.reason = noisePayloadReason)
    (same : strictFinding observation = strictFinding noise) : observation.reason = noisePayloadReason := by
  rw [strictFinding, strictFinding, isNoise, noise_reason_ruled] at same
  cases ruled : specRefFor observation.reason with
  | error raised =>
      rw [ruled] at same
      have verdicts : Verdict.toolError = Verdict.fail := congrArg Finding.verdict same
      exact absurd verdicts (by decide)
  | ok ref =>
      cases ref with
      | none =>
          rw [ruled] at same
          have verdicts : Verdict.toolError = Verdict.fail := congrArg Finding.verdict same
          exact absurd verdicts (by decide)
      | some specRef =>
          rw [ruled] at same
          have message := congrArg Finding.message same
          simpa using message

-- A finding of run_checks is the answer, or the failure, of one check under its id.
theorem run_checks_member (connection : ConnectionRecord) (txtName : Option String) (answer : Finding) :
    answer ∈ runChecks connection txtName ↔
      ∃ check ∈ checks txtName, runCheck connection check = [answer] ∧ answer.id = check.1 := by
  rw [runChecks, List.mem_flatMap]
  apply Iff.intro
  · intro found
    obtain ⟨check, member, ran⟩ := found
    obtain ⟨one, only, named⟩ := run_check_named connection check (core_check_answers connection txtName check member)
    rw [only, List.mem_singleton] at ran
    exact ⟨check, member, by rw [only, ran], by rw [ran, named]⟩
  · intro found
    obtain ⟨check, member, ran, _⟩ := found
    exact ⟨check, member, by rw [ran]; exact List.mem_singleton.mpr rfl⟩

-- What the client's Noise message 2 is on a connection.
def IsNoiseMessage2 (connection : Nat) (frame : RecordedFrame) : Prop :=
  frame.connection = connection ∧ frame.inbound = true ∧ frame.phase = .cleartext ∧
    frame.typed "noise/handshake" = true

omit [UnicodeData] in
theorem noise_message_2_seen (connection : Nat) (frames : List RecordedFrame)
    (noncompliance : List RecordedNoncompliance) :
    (noiseMessage2 (.ofSession connection frames noncompliance)).isSome = true ↔
      ∃ frame ∈ frames, IsNoiseMessage2 connection frame := by
  simp [noiseMessage2, ConnectionRecord.inbound, ConnectionRecord.ofSession, IsNoiseMessage2, and_assoc, and_comm,
    and_left_comm]

omit [UnicodeData] in
theorem noise_failing (connection : ConnectionRecord) (answer : Finding)
    (ran : checkNoiseMessage2 connection = .ok [answer]) (fails : answer.verdict = .fail) :
    ∃ message2 rejection, noiseMessage2 connection = some message2 ∧ noiseRejection connection = some rejection ∧
      answer.message = rejection.reason := by
  simp only [checkNoiseMessage2] at ran
  cases seen : noiseMessage2 connection with
  | none =>
      simp only [seen] at ran
      split at ran
      · cases ran
        exact absurd fails (by simp)
      · cases ran
        exact absurd fails (by simp)
  | some message2 =>
      cases rejected : noiseRejection connection with
      | none =>
          simp only [seen, rejected] at ran
          split at ran
          · cases ran
            exact absurd fails (by simp)
          · cases ran
            exact absurd fails (by simp)
      | some rejection =>
          simp only [seen, rejected] at ran
          cases ran
          exact ⟨message2, rejection, rfl, rfl, rfl⟩

-- The finding that accounts for a violation: its own, or CORE-NOISE-001 failing because of it.
def Accounts (answer : Finding) (connection : Nat) (observation : RecordedNoncompliance) : Prop :=
  answer = strictFinding observation ∨
    answer.id = "CORE-NOISE-001" ∧ answer.verdict = .fail ∧ answer.message = observation.reason ∧
      observation.connection = some connection

variable (frames : List RecordedFrame) (noncompliance : List RecordedNoncompliance) (toolErrors : List String)
variable (connection : Nat) (laterConnections : List Nat) (txtName : Option String)

theorem own_finding_iff (observation : RecordedNoncompliance) (member : observation ∈ noncompliance)
    (isJudged : judged connection laterConnections observation.connection = true) :
    strictFinding observation ∈ judgeSession frames noncompliance toolErrors connection laterConnections txtName ↔
      observation.reason ≠ noisePayloadReason := by
  apply Iff.intro
  · intro found isNoise
    simp only [judgeSession, List.mem_append] at found
    obtain (ofCheck | ofStrict) | ofRecorder := found
    · obtain ⟨check, member, _, named⟩ := (run_checks_member _ txtName _).mp ofCheck
      exact strict_id_free txtName check member (named.symm.trans (strict_id observation))
    · simp only [checkNoncompliance] at ofStrict
      split at ofStrict
      · have verdicts := strict_verdict observation
        rw [List.mem_singleton.mp ofStrict] at verdicts
        exact absurd verdicts (by decide)
      · obtain ⟨other, listed, same⟩ := List.mem_map.mp ofStrict
        have kept := (List.mem_filter.mp listed).2
        rw [strict_noise_unique observation other isNoise same] at kept
        exact absurd kept (by simp)
    · obtain ⟨error, _, same⟩ := List.mem_map.mp ofRecorder
      have ids := congrArg Finding.id same
      rw [strict_id] at ids
      exact absurd ids (by simp [recorderFinding, recorderCheckId, strictCheckId])
  · intro kept
    have listed : observation ∈ noncompliance.filter fun other =>
        judged connection laterConnections other.connection := List.mem_filter.mpr ⟨member, isJudged⟩
    simp only [judgeSession, List.mem_append]
    refine Or.inl (Or.inr ?_)
    rw [checkNoncompliance, if_neg (by simpa using List.ne_nil_of_mem listed)]
    exact List.mem_map.mpr ⟨observation, List.mem_filter.mpr ⟨listed, by simpa using kept⟩, rfl⟩

theorem noise_finding_iff (observation : RecordedNoncompliance) (member : observation ∈ noncompliance)
    (isNoise : observation.reason = noisePayloadReason) (own : observation.connection = some connection) :
    (∃ answer ∈ judgeSession frames noncompliance toolErrors connection laterConnections txtName,
        answer.id = "CORE-NOISE-001" ∧ answer.verdict = .fail ∧ answer.message = observation.reason) ↔
      ∃ frame ∈ frames, IsNoiseMessage2 connection frame := by
  rw [← noise_message_2_seen connection frames noncompliance]
  apply Iff.intro
  · intro failed
    obtain ⟨answer, found, named, fails, _⟩ := failed
    simp only [judgeSession, List.mem_append] at found
    obtain (ofCheck | ofStrict) | ofRecorder := found
    · obtain ⟨check, listed, ran, sameId⟩ := (run_checks_member _ txtName _).mp ofCheck
      rw [runCheck, noise_check_unique txtName check listed (sameId.symm.trans named)] at ran
      cases answered : checkNoiseMessage2 (.ofSession connection frames noncompliance) with
      | error raised =>
          simp only [answered, List.cons.injEq, and_true] at ran
          rw [← ran] at fails
          exact absurd fails (by simp [failedCheck])
      | ok findings =>
          simp only [answered] at ran
          obtain ⟨message2, _, seen, _, _⟩ := noise_failing _ answer (answered.trans (congrArg _ ran)) fails
          rw [seen]
          rfl
    · have ids : answer.id = strictCheckId := by
        simp only [checkNoncompliance] at ofStrict
        split at ofStrict
        · rw [List.mem_singleton.mp ofStrict]
        · obtain ⟨other, _, same⟩ := List.mem_map.mp ofStrict
          rw [← same, strict_id]
      exact absurd (ids.symm.trans named) (by simp [strictCheckId])
    · obtain ⟨error, _, same⟩ := List.mem_map.mp ofRecorder
      rw [← same] at fails
      exact absurd fails (by simp [recorderFinding])
  · intro seen
    obtain ⟨message2, isMessage⟩ := Option.isSome_iff_exists.mp seen
    have rejected : (noiseRejection (.ofSession connection frames noncompliance)).isSome = true := by
      simp only [noiseRejection, ConnectionRecord.ofSession, List.find?_isSome, List.mem_filter]
      exact ⟨observation, ⟨member, by simp [own]⟩, by simp [isNoise]⟩
    obtain ⟨rejection, isRejection⟩ := Option.isSome_iff_exists.mp rejected
    have reason : rejection.reason = noisePayloadReason := by simpa using List.find?_some isRejection
    refine ⟨finding "CORE-NOISE-001" .fail rejection.reason [message2], ?_, rfl, rfl, reason.trans isNoise.symm⟩
    simp only [judgeSession, List.mem_append]
    refine Or.inl (Or.inl ((run_checks_member _ txtName _).mpr ?_))
    refine ⟨("CORE-NOISE-001", checkNoiseMessage2), by simp [checks], ?_, rfl⟩
    simp only [runCheck, checkNoiseMessage2, isMessage, isRejection]

theorem violations_accounted :
    (∀ observation ∈ noncompliance, judged connection laterConnections observation.connection = true →
        ∃ answer ∈ judgeSession frames noncompliance toolErrors connection laterConnections txtName,
          (answer.verdict = .fail ∨ answer.verdict = .toolError) ∧ Accounts answer connection observation) ↔
      ∀ observation ∈ noncompliance, judged connection laterConnections observation.connection = true →
        observation.reason = noisePayloadReason →
          observation.connection = some connection ∧ ∃ frame ∈ frames, IsNoiseMessage2 connection frame := by
  apply Iff.intro
  · intro reported observation member isJudged isNoise
    obtain ⟨answer, found, _, accounts⟩ := reported observation member isJudged
    cases accounts with
    | inl same =>
        rw [same] at found
        exact absurd isNoise ((own_finding_iff frames noncompliance toolErrors connection laterConnections txtName
          observation member isJudged).mp found)
    | inr failing =>
        obtain ⟨named, fails, told, own⟩ := failing
        exact ⟨own, (noise_finding_iff frames noncompliance toolErrors connection laterConnections txtName
          observation member isNoise own).mp ⟨answer, found, named, fails, told⟩⟩
  · intro seen observation member isJudged
    by_cases isNoise : observation.reason = noisePayloadReason
    · obtain ⟨own, message2⟩ := seen observation member isJudged isNoise
      obtain ⟨answer, found, named, fails, told⟩ := (noise_finding_iff frames noncompliance toolErrors connection
        laterConnections txtName observation member isNoise own).mpr message2
      exact ⟨answer, found, Or.inl fails, Or.inr ⟨named, fails, told, own⟩⟩
    · exact ⟨strictFinding observation, (own_finding_iff frames noncompliance toolErrors connection laterConnections
        txtName observation member isJudged).mpr isNoise, strict_verdict observation, Or.inl rfl⟩

def laterHandshake : RecordedFrame :=
  { id := 9, connection := 2, clientId := none, direction := .inbound, phase := .cleartext, monotonicUs := 0
    size := 90
    message := some [("type", .str "noise/handshake"), ("payload", .obj [("data", .str "AAAA")])] }

def laterNoiseViolation : RecordedNoncompliance := ⟨some 2, none, noisePayloadReason, 0, some 9⟩

omit [UnicodeData] in
-- On a later connection a wrong message 2 payload is left to CORE-NOISE-001, which reads only the first.
theorem later_noise_violation_lost :
    judged 1 [2] laterNoiseViolation.connection = true ∧
      ¬ ∃ answer ∈ @judgeSession noUnicode [openingFrame (.str "25519_AESGCM_SHA256"), laterHandshake]
          [laterNoiseViolation] [] 1 [2] none,
        (answer.verdict = .fail ∨ answer.verdict = .toolError) ∧ @Accounts noUnicode answer 1 laterNoiseViolation := by
  refine ⟨rfl, ?_⟩
  intro reported
  obtain ⟨answer, found, _, accounts⟩ := reported
  cases accounts with
  | inl same =>
      rw [same] at found
      exact (@own_finding_iff noUnicode _ [laterNoiseViolation] [] 1 [2] none laterNoiseViolation
        (List.mem_singleton.mpr rfl) rfl).mp found rfl
  | inr failing => exact absurd failing.2.2.2 (by simp [laterNoiseViolation])

end Conformance.Validator
