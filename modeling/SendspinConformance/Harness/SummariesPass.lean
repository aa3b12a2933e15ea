import SendspinConformance.Harness.AudioComparison
import SendspinConformance.Harness.RoleComparison

set_option autoImplicit false

namespace Conformance.Comparison

open Python Harness

def Succeeds (judged : Py (Bool × String)) : Prop := ∃ reason, judged = .ok (true, reason)

theorem succeeds_passed (reason : String) : Succeeds (.ok (true, reason)) := ⟨reason, rfl⟩

theorem succeeds_failed (reason : String) : ¬Succeeds (.ok (false, reason)) := by
  rintro ⟨_, impossible⟩
  cases impossible

theorem succeeds_raised (raised : PyError) : ¬Succeeds (.error raised) := by
  rintro ⟨_, impossible⟩
  cases impossible

theorem py_bind_ok {α β : Type} (first : Py α) (next : α → Py β) (answer : β) :
    (first >>= next) = .ok answer ↔ ∃ value, first = .ok value ∧ next value = .ok answer := by
  cases first with
  | error raised => simp [bind, Except.bind]
  | ok value => simp [bind, Except.bind]

theorem succeeds_bind {α : Type} (first : Py α) (next : α → Py (Bool × String)) :
    Succeeds (first >>= next) ↔ ∃ value, first = .ok value ∧ Succeeds (next value) := by
  simp only [Succeeds, py_bind_ok]
  constructor
  · rintro ⟨reason, value, given, passed⟩
    exact ⟨value, given, reason, passed⟩
  · rintro ⟨value, given, reason, passed⟩
    exact ⟨reason, value, given, passed⟩

-- A check that fails the case where it holds
theorem succeeds_unless (fails : Prop) [Decidable fails] (reason : String) (otherwise : Py (Bool × String)) :
    Succeeds (if fails then .ok (false, reason) else otherwise) ↔ ¬fails ∧ Succeeds otherwise := by
  by_cases broken : fails
  · simp [broken, succeeds_failed]
  · simp [broken]

theorem succeeds_if (holds : Prop) [Decidable holds] (passed failed : String) :
    Succeeds (if holds then .ok (true, passed) else .ok (false, failed)) ↔ holds := by
  by_cases kept : holds
  · simp [kept, succeeds_passed]
  · simp [kept, succeeds_failed]

theorem get_field_ok (value : Json) (key : String) (found : Json) :
    getField value key = .ok found ↔ ∃ fields, value = .obj fields ∧ getKey fields key = found := by
  cases value <;> simp [getField]

-- What a section of a summary says under a key.
def Says (summary : Fields) (name key : String) (value : Json) : Prop :=
  ∃ fields, sectionOf summary name = .obj fields ∧ getKey fields key = value

theorem says_iff (summary : Fields) (name key : String) (value : Json) :
    getField (sectionOf summary name) key = .ok value ↔ Says summary name key value := get_field_ok _ _ _

section

variable [UnicodeData]

def StatusesOk (serverSummary clientSummary : Fields) : Prop :=
  getKey serverSummary "status" = .str "ok" ∧ getKey clientSummary "status" = .str "ok"

theorem status_failure_none (serverSummary clientSummary : Fields) :
    statusFailure serverSummary clientSummary = none ↔ StatusesOk serverSummary clientSummary := by
  rw [statusFailure, StatusesOk, ← Json.eq_str_iff, ← Json.eq_str_iff]
  cases (getKey serverSummary "status").eqStr "ok" <;> cases (getKey clientSummary "status").eqStr "ok" <;> simp

theorem succeeds_statuses (serverSummary clientSummary : Fields) (comparison : Py (Bool × String)) :
    Succeeds (afterStatuses serverSummary clientSummary comparison) ↔
      StatusesOk serverSummary clientSummary ∧ Succeeds comparison := by
  rw [← status_failure_none, afterStatuses]
  cases statusFailure serverSummary clientSummary with
  | none => simp
  | some failure => simp [succeeds_failed]

-- A positive number
def Counted (value : Json) : Prop := ∃ count, countIn value = .ok count ∧ 0 < count

-- The client's canonical hash over one chunk or more is that of the source.
def PcmMatches (serverSummary clientSummary : Fields) : Prop :=
  ∃ serverAudio clientAudio source received chunks, getKey serverSummary "audio" = .obj serverAudio ∧
    getKey clientSummary "audio" = .obj clientAudio ∧ serverAudio.lookup "source_pcm_sha256" = some source ∧
    clientAudio.lookup "received_pcm_sha256" = some received ∧ clientAudio.lookup "audio_chunk_count" = some chunks ∧
    chunks.truthy = true ∧ pyEqual source received = true

omit [UnicodeData] in
theorem item_ok (fields : Fields) (key : String) (value : Json) :
    item fields key = .ok value ↔ fields.lookup key = some value := by
  rw [item]
  cases fields.lookup key <;> simp

theorem audio_sections_pass (serverAudio clientAudio : Fields) :
    Succeeds (audioSections serverAudio clientAudio) ↔ ∃ source received chunks,
      serverAudio.lookup "source_pcm_sha256" = some source ∧ clientAudio.lookup "received_pcm_sha256" = some received ∧
      clientAudio.lookup "audio_chunk_count" = some chunks ∧ chunks.truthy = true ∧
      pyEqual source received = true := by
  simp only [audioSections, succeeds_bind, item_ok]
  constructor
  · rintro ⟨source, isSource, received, isReceived, chunks, isChunks, passed⟩
    refine ⟨source, received, chunks, isSource, isReceived, isChunks, ?_⟩
    rw [succeeds_unless] at passed
    obtain ⟨some_chunks, passed⟩ := passed
    cases same : pyEqual source received with
    | true => exact ⟨by simpa using some_chunks, rfl⟩
    | false =>
        simp only [same, Bool.false_eq_true, if_false, succeeds_bind] at passed
        obtain ⟨_, _, passed⟩ := passed
        exact absurd passed (succeeds_failed _)
  · rintro ⟨source, received, chunks, isSource, isReceived, isChunks, some_chunks, same⟩
    refine ⟨source, isSource, received, isReceived, chunks, isChunks, ?_⟩
    simp [some_chunks, same, succeeds_passed]

theorem compare_audio_passes (serverSummary clientSummary : Fields) :
    Succeeds (compareAudioSummaries serverSummary clientSummary) ↔
      StatusesOk serverSummary clientSummary ∧ PcmMatches serverSummary clientSummary := by
  rw [compareAudioSummaries, succeeds_statuses]
  refine and_congr_right fun _ => ?_
  cases serverAudio : getKey serverSummary "audio" with
  | obj server =>
      cases clientAudio : getKey clientSummary "audio" with
      | obj client => simp [PcmMatches, serverAudio, clientAudio, audio_sections_pass]
      | _ => simp [PcmMatches, clientAudio, succeeds_failed]
  | _ => simp [PcmMatches, serverAudio, succeeds_failed]

-- The first state the client saw was not stamped past the clock the server read once it was sent.
def NotScheduled (serverSummary clientSummary : Fields) : Prop :=
  ∀ firstState, Says clientSummary "metadata" "first_object_state" (.obj firstState) →
    hasKey firstState "timestamp_us" = true → getKey firstState "timestamp_us" ≠ .null ∧
      ∀ stampedUs boundUs sent, getKey firstState "timestamp_us" = .int stampedUs →
        Says serverSummary "metadata" "first_state_sent" (.obj sent) → getKey sent "timestamp_us" = .int stampedUs →
        getKey sent "bound_us" = .int boundUs → stampedUs ≤ boundUs

structure MetadataMatches (serverSummary clientSummary : Fields) : Prop where
  received : ∃ expected received, Says serverSummary "metadata" "expected" expected ∧
    Says clientSummary "metadata" "received" received ∧ pyEqual expected received = true
  updates : ∃ count, Says clientSummary "metadata" "update_count" count ∧ Counted count
  notScheduled : NotScheduled serverSummary clientSummary

omit [UnicodeData] in
theorem stamp_passes (stampedUs : Int) (sent : Fields) :
    (∃ outcome, stampVerdict stampedUs sent = .ok outcome ∧ outcome.2 = none) ↔
      ∀ boundUs, getKey sent "timestamp_us" = .int stampedUs → getKey sent "bound_us" = .int boundUs →
        stampedUs ≤ boundUs := by
  rw [stampVerdict]
  cases isStamp : (getKey sent "timestamp_us").asInt with
  | none =>
      refine iff_of_true ⟨_, rfl, rfl⟩ fun boundUs stamp => ?_
      rw [stamp] at isStamp
      cases isStamp
  | some sentUs =>
      cases isBound : (getKey sent "bound_us").asInt with
      | none =>
          refine iff_of_true ⟨_, rfl, rfl⟩ fun boundUs _ bound => ?_
          rw [bound] at isBound
          cases isBound
      | some boundUs =>
          rw [Json.as_int_some] at isStamp isBound
          simp only [isStamp, isBound, Json.int.injEq]
          by_cases same : stampedUs = sentUs
          · subst same
            by_cases later : stampedUs > boundUs
            · simp only [ne_eq, not_true_eq_false, if_false, if_pos later]
              constructor
              · rintro ⟨outcome, given, none⟩
                obtain ⟨text, _, made⟩ := (py_bind_ok _ _ _).mp given
                cases made
                cases none
              · intro bounded
                have := bounded boundUs trivial rfl
                omega
            · simp only [ne_eq, not_true_eq_false, if_false, if_neg later]
              refine iff_of_true ⟨_, rfl, rfl⟩ fun other _ same => ?_
              omega
          · simp only [ne_eq, same, not_false_eq_true, if_true]
            exact iff_of_true ⟨_, rfl, rfl⟩ fun _ impossible => absurd impossible.symm same

omit [UnicodeData] in
theorem says_section (summary : Fields) (name key : String) (fields : Fields)
    (known : sectionOf summary name = .obj fields) (value : Json) :
    Says summary name key value ↔ getKey fields key = value := by
  simp [Says, known]

omit [UnicodeData] in
theorem first_state_passes (serverSummary clientSummary serverMetadata clientMetadata : Fields)
    (onServer : sectionOf serverSummary "metadata" = .obj serverMetadata)
    (onClient : sectionOf clientSummary "metadata" = .obj clientMetadata) :
    (∃ outcome, firstMetadataStateVerdict serverSummary clientSummary = .ok outcome ∧ outcome.2 = none) ↔
      NotScheduled serverSummary clientSummary := by
  rw [firstMetadataStateVerdict, NotScheduled, onServer, onClient]
  simp only [says_section _ _ _ _ onServer, says_section _ _ _ _ onClient, getField, bind, Except.bind]
  cases first : getKey clientMetadata "first_object_state" with
  | obj firstState =>
      simp only [Json.obj.injEq, forall_eq']
      cases stamped : hasKey firstState "timestamp_us" with
      | false => exact iff_of_true ⟨_, rfl, rfl⟩ fun impossible => by cases impossible
      | true =>
          simp only [Bool.not_true, Bool.false_eq_true, if_false, forall_const]
          cases stamp : getKey firstState "timestamp_us" with
          | null =>
              constructor
              · rintro ⟨_, made, none⟩
                cases made
                cases none
              · exact fun never => absurd rfl never.1
          | int stampedUs =>
              simp only [Json.int.injEq, ne_eq, reduceCtorEq, not_false_eq_true, true_and]
              cases sentState : getKey serverMetadata "first_state_sent" with
              | obj sent =>
                  rw [stamp_passes]
                  constructor
                  · rintro bounded _ boundUs _ rfl same isStamp isBound
                    cases same
                    exact bounded boundUs isStamp isBound
                  · exact fun bounded boundUs isStamp isBound => bounded stampedUs boundUs sent rfl rfl isStamp isBound
              | _ => exact iff_of_true ⟨_, rfl, rfl⟩ fun _ _ _ _ impossible => by cases impossible
          | _ => exact iff_of_true ⟨_, rfl, rfl⟩ (by simp)
  | _ => exact iff_of_true ⟨_, rfl, rfl⟩ fun _ impossible => by cases impossible

omit [UnicodeData] in
theorem first_outcome_passes (outcome : Bool × Option String) :
    (firstStateOutcome outcome).1 = true ↔ outcome.2 = none := by
  obtain ⟨checked, violation⟩ := outcome
  cases violation <;> cases checked <;> simp [firstStateOutcome]

theorem compare_metadata_passes (serverSummary clientSummary : Fields) :
    Succeeds (compareMetadataSummaries serverSummary clientSummary) ↔
      StatusesOk serverSummary clientSummary ∧ MetadataMatches serverSummary clientSummary := by
  rw [compareMetadataSummaries, succeeds_statuses]
  refine and_congr_right fun _ => ?_
  simp only [succeeds_bind, says_iff, succeeds_unless]
  constructor
  · rintro ⟨expected, isExpected, received, isReceived, count, isCount, number, counted, some_updates, equal, outcome,
      judged, reason, passed⟩
    have passes : outcome.2 = none := by
      rw [← first_outcome_passes]
      simpa using congrArg Prod.fst (Except.ok.inj passed)
    have ⟨serverMetadata, onServer, _⟩ := isExpected
    have ⟨clientMetadata, onClient, _⟩ := isReceived
    refine ⟨⟨expected, received, isExpected, isReceived, by simpa using equal⟩, ⟨count, isCount, number, counted, by omega⟩, ?_⟩
    exact (first_state_passes _ _ _ _ onServer onClient).mp ⟨outcome, judged, passes⟩
  · rintro ⟨⟨expected, received, isExpected, isReceived, equal⟩, ⟨count, isCount, number, counted, positive⟩, notScheduled⟩
    have ⟨serverMetadata, onServer, _⟩ := isExpected
    have ⟨clientMetadata, onClient, _⟩ := isReceived
    obtain ⟨outcome, judged, passes⟩ := (first_state_passes _ _ _ _ onServer onClient).mpr notScheduled
    refine ⟨expected, isExpected, received, isReceived, count, isCount, number, counted, by omega, by simpa using equal,
      outcome, judged, (firstStateOutcome outcome).2, ?_⟩
    rw [← first_outcome_passes] at passes
    rw [← passes]

-- The artwork frame the client received is the one the server sent, on its channel.
structure ArtworkMatches (serverSummary clientSummary : Fields) : Prop where
  frames : ∃ count, Says clientSummary "artwork" "received_count" count ∧ Counted count
  channels : ∃ sent received, Says serverSummary "artwork" "channel" sent ∧
    Says clientSummary "artwork" "channel" received ∧ pyEqual sent received = true
  bytes : ∃ sent received, Says serverSummary "artwork" "encoded_sha256" sent ∧
    Says clientSummary "artwork" "received_sha256" received ∧ pyEqual sent received = true

theorem compare_artwork_passes (serverSummary clientSummary : Fields) :
    Succeeds (compareArtworkSummaries serverSummary clientSummary) ↔
      StatusesOk serverSummary clientSummary ∧ ArtworkMatches serverSummary clientSummary := by
  rw [compareArtworkSummaries, succeeds_statuses]
  refine and_congr_right fun _ => ?_
  simp only [succeeds_bind, says_iff, succeeds_unless, succeeds_if, Bool.and_eq_true]
  constructor
  · rintro ⟨count, isCount, number, counted, some_frames, sentChannel, isSentChannel, readChannel, isReadChannel,
      sentHash, isSentHash, readHash, isReadHash, channels, hashes⟩
    exact ⟨⟨count, isCount, number, counted, by omega⟩, ⟨_, _, isSentChannel, isReadChannel, channels⟩,
      ⟨_, _, isSentHash, isReadHash, hashes⟩⟩
  · rintro ⟨⟨count, isCount, number, counted, positive⟩, ⟨_, _, isSentChannel, isReadChannel, channels⟩,
      ⟨_, _, isSentHash, isReadHash, hashes⟩⟩
    exact ⟨count, isCount, number, counted, by omega, _, isSentChannel, _, isReadChannel, _, isSentHash, _, isReadHash,
      channels, hashes⟩

end

end Conformance.Comparison
