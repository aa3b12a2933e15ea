import SendspinConformance.Adapters.PlayerStream
import SendspinConformance.Harness.FormatsJoined

set_option autoImplicit false

namespace Conformance.Adapters

open Python Base Harness

-- Some entry equals the format in every field, the bit depth being ignored for opus.
def Listed (advertised : List AudioFormat) (format : AudioFormat) : Prop :=
  ∃ entry ∈ advertised, entry.codec = format.codec ∧ entry.sampleRate = format.sampleRate ∧
    entry.channels = format.channels ∧ (format.codec = "opus" ∨ entry.bitDepth = format.bitDepth)

-- The chunks a stream needs for PLAYER-001 besides its format.
def InOrder (timestamps : List Int) : Prop := timestamps ≠ [] ∧ nonMonotonic timestamps = []

def Passed (assertion : Assertion) : Prop := assertion.status = "passed"

theorem not_failed (assertion : Assertion) (detail : String) : ¬ Passed (assertion.failed detail) := by
  simp [Passed, Assertion.failed]

theorem matches_listed (advertised : List AudioFormat) (format : AudioFormat) :
    advertised.any (Cpp.matchesFormat format) = true ↔ Listed advertised format := by
  rw [List.any_eq_true, Listed]
  apply exists_congr
  intro entry
  apply and_congr_right
  intro _
  simp [Cpp.matchesFormat, and_assoc]

theorem first_backwards (timestamps : List Int) :
    Cpp.firstBackwards timestamps = none ↔ nonMonotonic timestamps = [] := by
  rw [Cpp.firstBackwards, Option.map_eq_none_iff, List.findIdx?_eq_none_iff, nonMonotonic, List.filter_eq_nil_iff]
  simp

theorem cpp_passed (texts : Cpp.JudgeTexts) (advertised : List AudioFormat) (stream : AudioFormat)
    (timestamps : List Int) :
    Passed (Cpp.judge texts advertised (some stream) timestamps) ↔ Listed advertised stream ∧ InOrder timestamps := by
  rw [← matches_listed, InOrder, ← first_backwards]
  cases listed : advertised.any (Cpp.matchesFormat stream) with
  | false =>
      have refused : ¬ Passed (Cpp.judge texts advertised (some stream) timestamps) := by
        simp only [Cpp.judge, listed, Bool.not_false, if_true]
        exact not_failed _ _
      simp [refused]
  | true =>
      cases timestamps with
      | nil =>
          have refused : ¬ Passed (Cpp.judge texts advertised (some stream) []) := by
            simp only [Cpp.judge, listed, Bool.not_true, Bool.false_eq_true, if_false]
            exact not_failed _ _
          simp [refused]
      | cons first rest =>
          obtain ⟨last, isLast⟩ : ∃ last, (first :: rest).getLast? = some last :=
            ⟨_, List.getLast?_eq_some_getLast (List.cons_ne_nil first rest)⟩
          cases backwards : Cpp.firstBackwards (first :: rest) with
          | none =>
              have passed : Passed (Cpp.judge texts advertised (some stream) (first :: rest)) := by
                simp only [Cpp.judge, listed, Bool.not_true, Bool.false_eq_true, if_false, List.head?_cons, isLast,
                  backwards]
                rfl
              simp [passed]
          | some place =>
              have refused : ¬ Passed (Cpp.judge texts advertised (some stream) (first :: rest)) := by
                simp only [Cpp.judge, listed, Bool.not_true, Bool.false_eq_true, if_false, List.head?_cons, isLast,
                  backwards]
                exact not_failed _ _
              simp [refused]

theorem python_passed [UnicodeData] (advertised : List AudioFormat) (negotiated : AudioFormat)
    (timestamps : List Int) :
    Passed (Evidence.recordPlayerStreamEvidence advertised (some negotiated) timestamps.length timestamps) ↔
      advertised.any (Evidence.matchesFormat negotiated) = true ∧ InOrder timestamps := by
  cases listed : advertised.any (Evidence.matchesFormat negotiated) with
  | false =>
      have refused : ¬ Passed (Evidence.recordPlayerStreamEvidence advertised (some negotiated) timestamps.length
          timestamps) := by
        simp only [Evidence.recordPlayerStreamEvidence, listed, Bool.not_false, if_true]
        exact not_failed _ _
      simp [refused]
  | true =>
      cases timestamps with
      | nil =>
          have refused : ¬ Passed (Evidence.recordPlayerStreamEvidence advertised (some negotiated) 0 []) := by
            simp only [Evidence.recordPlayerStreamEvidence, listed, Bool.not_true, Bool.false_eq_true, if_false, if_true]
            exact not_failed _ _
          simp [refused, InOrder]
      | cons first rest =>
          have counted : ¬ (first :: rest).length = 0 := by simp
          cases wrong : nonMonotonic (first :: rest) with
          | nil =>
              have passed : Passed (Evidence.recordPlayerStreamEvidence advertised (some negotiated)
                  (first :: rest).length (first :: rest)) := by
                simp only [Evidence.recordPlayerStreamEvidence, listed, Bool.not_true, Bool.false_eq_true, if_false,
                  counted, wrong, List.isEmpty_nil]
                rfl
              simp only [passed, InOrder, wrong, ne_eq, reduceCtorEq, not_false_eq_true, and_self]
          | cons pair others =>
              have refused : ¬ Passed (Evidence.recordPlayerStreamEvidence advertised (some negotiated)
                  (first :: rest).length (first :: rest)) := by
                simp only [Evidence.recordPlayerStreamEvidence, listed, Bool.not_true, Bool.false_eq_true, if_false,
                  counted, wrong, List.isEmpty_cons, Bool.not_false, if_true]
                exact not_failed _ _
              simp only [refused, InOrder, wrong, reduceCtorEq, and_false]

-- The value is an object that carries the format.
def Carries (value : Json) (format : AudioFormat) : Prop :=
  ∃ fields, value = .obj fields ∧ getKey fields "codec" = .str format.codec ∧
    getKey fields "sample_rate" = .int format.sampleRate ∧ getKey fields "bit_depth" = .int format.bitDepth ∧
    getKey fields "channels" = .int format.channels

section

variable [CaseFolding]

def folded (format : AudioFormat) : AudioFormat := { format with codec := casefold format.codec }

theorem carried_format (value : Json) (format : AudioFormat) (carries : Carries value format) :
    normalizedFormat value = if format.codec = "" then none else some (folded format) := by
  obtain ⟨fields, rfl, codec, rate, depth, channels⟩ := carries
  rw [normalizedFormat, Json.asObj]
  simp only [Option.bind_eq_bind, Option.bind_some, codec, rate, depth, channels, Json.asStr, Json.asInt]
  by_cases empty : format.codec = ""
  · simp [empty]
  · simp [empty, folded]

omit [CaseFolding] in
theorem comparable_listed (first second : AudioFormat) :
    comparableKey first = comparableKey second ↔ first.codec = second.codec ∧ first.sampleRate = second.sampleRate ∧
      first.channels = second.channels ∧ (second.codec = "opus" ∨ first.bitDepth = second.bitDepth) := by
  simp only [comparableKey, Prod.mk.injEq]
  apply Iff.intro
  · intro ⟨codec, rate, depth, channels⟩
    refine ⟨codec, rate, channels, ?_⟩
    by_cases opus : second.codec = "opus"
    · exact Or.inl opus
    · rw [codec, if_neg opus, if_neg opus, Option.some_inj] at depth
      exact Or.inr depth
  · intro ⟨codec, rate, channels, depth⟩
    refine ⟨codec, rate, ?_, channels⟩
    cases depth with
    | inl opus => rw [if_pos opus, if_pos (codec.trans opus)]
    | inr same => rw [codec, same]

-- What the runner reads of a list of carried formats.
theorem entries_read (values : List Json) (advertised : List AudioFormat)
    (carried : List.Forall₂ Carries values advertised) :
    ((readEntries values).2 = [] ↔ ∀ entry ∈ advertised, entry.codec ≠ "") ∧
    (∀ format, format ∈ (readEntries values).1 ↔ ∃ entry ∈ advertised, entry.codec ≠ "" ∧ folded entry = format) := by
  simp only [readEntries, mem_distinct, List.mem_filterMap, List.map_eq_nil_iff, List.filter_eq_nil_iff]
  induction carried with
  | nil => simp
  | @cons value entry values advertised carries _ ih =>
      have read := carried_format value entry carries
      simp only [List.forall_mem_cons, List.exists_mem_cons_iff, ih.1, ih.2, read]
      by_cases empty : entry.codec = "" <;> simp [empty]

-- What the runner reports of a case that negotiated one format.
theorem runner_judged [UnicodeData] (serverSummary clientSummary : Fields) (values : List Json)
    (advertised : List AudioFormat) (negotiated : AudioFormat)
    (listed : supportedFormats serverSummary = .arr values) (carried : List.Forall₂ Carries values advertised)
    (stream : Carries (getKey serverSummary "stream") negotiated)
    (alone : ∀ candidate ∈ candidates serverSummary clientSummary, normalizedFormat candidate.2 = none ∨
      normalizedFormat candidate.2 = normalizedFormat (getKey serverSummary "stream")) :
    undeclaredFormatViolation serverSummary clientSummary = .ok none ↔
      advertised = [] ∨ negotiated.codec = "" ∨ (∃ entry ∈ advertised, entry.codec = "") ∨
        Listed (advertised.map folded) (folded negotiated) := by
  have read : declaredFormats serverSummary = readEntries values := by rw [declaredFormats, listed]
  obtain ⟨unreadable, declared⟩ := entries_read values advertised carried
  rw [no_violation, read]
  by_cases unread : ∃ entry ∈ advertised, entry.codec = ""
  · have some : (readEntries values).2 ≠ [] := by
      intro none
      obtain ⟨entry, member, empty⟩ := unread
      exact unreadable.mp none entry member empty
    simp only [some, unread, ne_eq, not_false_eq_true, true_or, or_true]
  · have codecs : ∀ entry ∈ advertised, entry.codec ≠ "" := by
      intro entry member empty
      exact unread ⟨entry, member, empty⟩
    have none : (readEntries values).2 = [] := unreadable.mpr codecs
    have empty : (readEntries values).1 = [] ↔ advertised = [] := by
      rw [List.eq_nil_iff_forall_not_mem, List.eq_nil_iff_forall_not_mem]
      apply Iff.intro
      · intro nothing entry member
        exact nothing (folded entry) ((declared _).mpr ⟨entry, member, codecs entry member, rfl⟩)
      · intro nothing format member
        obtain ⟨entry, inList, _⟩ := (declared format).mp member
        exact nothing entry inList
    have seen := negotiated_seen serverSummary clientSummary
    have streamRead := carried_format _ negotiated stream
    rw [empty]
    simp only [none, unread, ne_eq, not_true_eq_false, false_or]
    apply or_congr_right
    by_cases unnamed : negotiated.codec = ""
    · -- the negotiated format cannot be read, so none is seen
      simp only [unnamed, true_or, iff_true]
      intro other member
      obtain ⟨candidate, inCase, isRead⟩ := (seen other.format).mp ⟨other, member, rfl⟩
      rw [if_pos unnamed] at streamRead
      cases alone candidate inCase with
      | inl unreadable => rw [unreadable] at isRead; cases isRead
      | inr same => rw [same, streamRead] at isRead; cases isRead
    · rw [if_neg unnamed] at streamRead
      simp only [unnamed, false_or]
      have isListed : Listed (advertised.map folded) (folded negotiated) ↔
          ∃ format ∈ (readEntries values).1, comparableKey format = comparableKey (folded negotiated) := by
        simp only [Listed, List.mem_map, comparable_listed]
        apply Iff.intro
        · rintro ⟨_, ⟨entry, member, rfl⟩, same⟩
          exact ⟨folded entry, (declared _).mpr ⟨entry, member, codecs entry member, rfl⟩, same⟩
        · rintro ⟨format, member, same⟩
          obtain ⟨entry, inList, _, rfl⟩ := (declared format).mp member
          exact ⟨folded entry, ⟨entry, inList, rfl⟩, same⟩
      rw [isListed]
      apply Iff.intro
      · intro all
        have first : ("server.stream", getKey serverSummary "stream") ∈ candidates serverSummary clientSummary :=
          List.mem_append_left _ List.mem_cons_self
        obtain ⟨other, member, same⟩ := (seen (folded negotiated)).mpr ⟨_, first, streamRead⟩
        rw [← same]
        exact all other member
      · intro found other member
        obtain ⟨candidate, inCase, isRead⟩ := (seen other.format).mp ⟨other, member, rfl⟩
        cases alone candidate inCase with
        | inl unreadable => rw [unreadable] at isRead; cases isRead
        | inr same =>
            rw [same, streamRead, Option.some_inj] at isRead
            rwa [← isRead]

theorem listed_folded (advertised : List AudioFormat) (format : AudioFormat) (listed : Listed advertised format) :
    Listed (advertised.map folded) (folded format) := by
  obtain ⟨entry, member, codec, rate, channels, depth⟩ := listed
  refine ⟨folded entry, List.mem_map_of_mem member, congrArg casefold codec, rate, channels, ?_⟩
  cases depth with
  | inl opus => exact Or.inl (by rw [folded, opus]; rfl)
  | inr same => exact Or.inr same

-- Some entry has the format's codec, sample rate and channels, and none also its bit depth where that counts.
def DepthMissed (advertised : List AudioFormat) (format : AudioFormat) : Prop :=
  (∃ entry ∈ advertised, entry.codec = format.codec ∧ entry.sampleRate = format.sampleRate ∧
    entry.channels = format.channels) ∧ ¬Listed advertised format

omit [CaseFolding] in
theorem python_listed (advertised : List AudioFormat) (format : AudioFormat) (depth : ¬DepthMissed advertised format) :
    advertised.any (Evidence.matchesFormat format) = true ↔ Listed advertised format := by
  have shared : advertised.any (Evidence.matchesFormat format) = true ↔ ∃ entry ∈ advertised,
      entry.codec = format.codec ∧ entry.sampleRate = format.sampleRate ∧ entry.channels = format.channels := by
    simp only [List.any_eq_true, Evidence.matchesFormat, Bool.and_eq_true, beq_iff_eq, and_assoc]
  rw [shared]
  apply Iff.intro
  · intro near
    by_contra missed
    exact depth ⟨near, missed⟩
  · intro ⟨entry, member, codec, rate, channels, _⟩
    exact ⟨entry, member, codec, rate, channels⟩

-- The C++ judges take a format for advertised when an entry equals it; the runner reports
-- a format no entry equals with the codecs casefolded, of a list it can read. A stream
-- whose PLAYER-001 passes is not reported.
theorem format_identity_judged [UnicodeData] (serverSummary clientSummary : Fields) (values : List Json)
    (advertised : List AudioFormat) (negotiated : AudioFormat) (timestamps : List Int)
    (listed : supportedFormats serverSummary = .arr values) (carried : List.Forall₂ Carries values advertised)
    (stream : Carries (getKey serverSummary "stream") negotiated)
    (alone : ∀ candidate ∈ candidates serverSummary clientSummary, normalizedFormat candidate.2 = none ∨
      normalizedFormat candidate.2 = normalizedFormat (getKey serverSummary "stream")) :
    (Passed (Cpp.judgeClientStream advertised (some negotiated) timestamps) ↔
      Listed advertised negotiated ∧ InOrder timestamps) ∧
    (Passed (Cpp.judgeServerStream advertised (some negotiated) timestamps) ↔
      Listed advertised negotiated ∧ InOrder timestamps) ∧
    (¬DepthMissed advertised negotiated →
      (Passed (Evidence.recordPlayerStreamEvidence advertised (some negotiated) timestamps.length timestamps) ↔
        Listed advertised negotiated ∧ InOrder timestamps)) ∧
    (undeclaredFormatViolation serverSummary clientSummary = .ok none ↔
      advertised = [] ∨ negotiated.codec = "" ∨ (∃ entry ∈ advertised, entry.codec = "") ∨
        Listed (advertised.map folded) (folded negotiated)) ∧
    (Listed advertised negotiated → undeclaredFormatViolation serverSummary clientSummary = .ok none) := by
  have runner := runner_judged serverSummary clientSummary values advertised negotiated listed carried stream alone
  refine ⟨cpp_passed _ advertised negotiated timestamps, cpp_passed _ advertised negotiated timestamps, ?_, runner, ?_⟩
  · intro depth
    rw [python_passed, python_listed advertised negotiated depth]
  · intro isListed
    exact runner.mpr (Or.inr (Or.inr (Or.inr (listed_folded advertised negotiated isListed))))

-- A case whose client lists the formats given and whose stream is the one given.
def oneCase (advertised : List AudioFormat) (negotiated : AudioFormat) : Fields :=
  [("peer_hello", .obj [("payload", .obj [("player@v1_support",
    .obj [("supported_formats", .arr (advertised.map formatJson))])])]), ("stream", formatJson negotiated)]

omit [CaseFolding] in
theorem pcm_listed : @undeclaredFormatViolation noUnicode noFolding
    (oneCase [⟨"pcm", 48000, 16, 2⟩] ⟨"pcm", 48000, 16, 2⟩) [] = .ok none := by
  have carries : Carries (formatJson ⟨"pcm", 48000, 16, 2⟩) ⟨"pcm", 48000, 16, 2⟩ := ⟨_, rfl, rfl, rfl, rfl, rfl⟩
  have judged := @format_identity_judged noFolding noUnicode
    (oneCase [⟨"pcm", 48000, 16, 2⟩] ⟨"pcm", 48000, 16, 2⟩) [] [formatJson ⟨"pcm", 48000, 16, 2⟩]
    [⟨"pcm", 48000, 16, 2⟩] ⟨"pcm", 48000, 16, 2⟩ [0] rfl (.cons carries .nil) carries (by
      intro candidate member
      have fields : candidates (oneCase [⟨"pcm", 48000, 16, 2⟩] ⟨"pcm", 48000, 16, 2⟩) [] =
          [("server.stream", formatJson ⟨"pcm", 48000, 16, 2⟩), ("client.stream", .null)] := rfl
      rw [fields, List.mem_cons, List.mem_singleton] at member
      cases member with
      | inl isStream => exact Or.inr (congrArg (fun field => @normalizedFormat noFolding field.2) isStream)
      | inr isNull => exact Or.inl (congrArg (fun field => @normalizedFormat noFolding field.2) isNull))
  exact judged.2.2.2.2 ⟨_, List.mem_cons_self, rfl, rfl, rfl, Or.inr rfl⟩

omit [CaseFolding] in
-- A codec in capitals and an empty list: C++ finds neither format advertised, the runner
-- reports neither.
theorem folded_codec_unreported :
    (¬ Passed (Cpp.judgeServerStream [⟨"PCM", 48000, 16, 2⟩] (some ⟨"pcm", 48000, 16, 2⟩) [0]) ∧
      @undeclaredFormatViolation noUnicode noFolding (oneCase [⟨"PCM", 48000, 16, 2⟩] ⟨"pcm", 48000, 16, 2⟩) [] =
        .ok none) ∧
    (¬ Passed (Cpp.judgeServerStream [] (some ⟨"pcm", 48000, 16, 2⟩) [0]) ∧
      @undeclaredFormatViolation noUnicode noFolding (oneCase [] ⟨"pcm", 48000, 16, 2⟩) [] = .ok none) := by
  refine ⟨⟨?_, by decide +kernel⟩, ?_, by decide +kernel⟩
  · rw [Cpp.judgeServerStream, cpp_passed]
    simp [Listed]
  · rw [Cpp.judgeServerStream, cpp_passed]
    simp [Listed]

end

end Conformance.Adapters
