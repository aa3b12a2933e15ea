import SendspinConformance.Harness.FormatsJoined
import SendspinConformance.Harness.StreamFormats
import SendspinConformance.Harness.SummariesPass

set_option autoImplicit false

namespace Conformance.Comparison

open Python Base Harness

variable [CaseFolding]

-- The client listed the format in supported_formats.
def Offers (serverSummary : Fields) (format : AudioFormat) : Prop :=
  ∃ entries, supportedFormats serverSummary = .arr entries ∧ ∃ entry ∈ entries, normalizedFormat entry = some format

-- Nothing the client declared there is unreadable as a format.
def OffersReadably (serverSummary : Fields) : Prop :=
  supportedFormats serverSummary = .null ∨
    ∃ entries, supportedFormats serverSummary = .arr entries ∧ ∀ entry ∈ entries, normalizedFormat entry ≠ none

theorem unreadable_none (serverSummary : Fields) :
    (declaredFormats serverSummary).2 = [] ↔ OffersReadably serverSummary := by
  rw [declaredFormats, OffersReadably]
  cases supportedFormats serverSummary with
  | arr entries => simp [readEntries, List.filter_eq_nil_iff]
  | _ => simp

theorem some_offered (serverSummary : Fields) :
    (declaredFormats serverSummary).1 ≠ [] ↔ ∃ format, Offers serverSummary format := by
  simp only [← List.isEmpty_eq_false_iff, List.isEmpty_eq_false_iff_exists_mem, mem_declared, Offers]

-- Where what the client declared can be read, it holds every format the case negotiated, opus at any depth.
def DeclaredOnly (serverSummary clientSummary : Fields) : Prop :=
  OffersReadably serverSummary → (∃ format, Offers serverSummary format) →
    ∀ candidate ∈ candidates serverSummary clientSummary, ∀ format, normalizedFormat candidate.2 = some format →
      ∃ declared, Offers serverSummary declared ∧ comparableKey declared = comparableKey format

theorem negotiated_declared (serverSummary clientSummary : Fields) :
    (∀ negotiated ∈ negotiatedFormats serverSummary clientSummary,
      ∃ declared ∈ (declaredFormats serverSummary).1, comparableKey declared = comparableKey negotiated.format) ↔
      ∀ candidate ∈ candidates serverSummary clientSummary, ∀ format, normalizedFormat candidate.2 = some format →
        ∃ declared, Offers serverSummary declared ∧ comparableKey declared = comparableKey format := by
  simp only [mem_declared]
  constructor
  · intro declared candidate listed format read
    obtain ⟨negotiated, member, rfl⟩ := (negotiated_seen serverSummary clientSummary format).mpr ⟨candidate, listed, read⟩
    exact declared negotiated member
  · intro declared negotiated member
    obtain ⟨candidate, listed, read⟩ :=
      (negotiated_seen serverSummary clientSummary negotiated.format).mp ⟨negotiated, member, rfl⟩
    exact declared candidate listed negotiated.format read

variable [UnicodeData]

theorem offered_labelled (serverSummary : Fields) :
    (∃ offered, labels (declaredFormats serverSummary).1 = .ok offered) ↔
      ∀ format, Offers serverSummary format → Labelled format := by
  have mapped : (∃ offered, labels (declaredFormats serverSummary).1 = .ok offered) ↔
      ∃ texts, (declaredFormats serverSummary).1.mapM Harness.formatLabel = .ok texts := by
    simp [labels, py_bind_ok]
  rw [mapped, map_steps_total]
  simp only [mem_declared, label_ok, Offers]

-- The server streamed the depth, the client saw no other, and each format the client listed can be labelled.
structure StreamedAt (serverSummary clientSummary : Fields) (bitDepth : Int) : Prop where
  sent : ∃ stream, normalizedFormat (getKey serverSummary "stream") = some stream ∧ stream.bitDepth = bitDepth
  observed : ∀ stream, normalizedFormat (getKey clientSummary "stream") = some stream → stream.bitDepth = bitDepth
  labelled : ∀ format, Offers serverSummary format → Labelled format

theorem bit_depth_kept (serverSummary clientSummary : Fields) (bitDepth : Int) :
    streamBitDepthViolation serverSummary clientSummary bitDepth = .ok none ↔
      StreamedAt serverSummary clientSummary bitDepth := by
  rw [streamBitDepthViolation]
  cases sent : normalizedFormat (getKey serverSummary "stream") with
  | none =>
      refine iff_of_false (by simp) fun streamed => ?_
      obtain ⟨stream, same, _⟩ := streamed.sent
      rw [sent] at same
      cases same
  | some stream =>
      simp only [py_bind_ok]
      constructor
      · rintro ⟨offered, listed, passed⟩
        have labelled := (offered_labelled serverSummary).mp ⟨offered, listed⟩
        by_cases same : stream.bitDepth = bitDepth
        · refine ⟨⟨stream, sent, same⟩, fun observed seen => ?_, labelled⟩
          rw [if_neg (not_not.mpr same), seen] at passed
          by_contra other
          simp [other, py_bind_ok] at passed
        · simp [same, py_bind_ok] at passed
      · intro streamed
        obtain ⟨offered, listed⟩ := (offered_labelled serverSummary).mpr streamed.labelled
        obtain ⟨other, isOther, same⟩ := streamed.sent
        cases sent.symm.trans isOther
        refine ⟨offered, listed, ?_⟩
        rw [if_neg (not_not.mpr same)]
        cases seen : normalizedFormat (getKey clientSummary "stream") with
        | none => rfl
        | some observed => exact if_pos (streamed.observed observed seen)

-- The client's first entry is of the preferred codec with one every player has behind it, and the server streamed the
-- preferred codec or one the client did not list.
structure PriorityHonoured (serverSummary : Fields) (preferredCodec : String) : Prop where
  readable : OffersReadably serverSummary
  first : ∃ entry entries format, supportedFormats serverSummary = .arr (entry :: entries) ∧
    normalizedFormat entry = some format ∧ format.codec = preferredCodec
  mandatory : ∃ format, Offers serverSummary format ∧ format.codec ∈ mandatoryCodecs
  selected : ∀ stream, normalizedFormat (getKey serverSummary "stream") = some stream →
    stream.codec = preferredCodec ∨ ∀ format, Offers serverSummary format → format.codec ≠ stream.codec
  labelled : ∀ format, Offers serverSummary format → Labelled format

omit [UnicodeData] in
theorem first_offered (serverSummary : Fields) (readable : OffersReadably serverSummary) (format : AudioFormat) :
    (declaredFormats serverSummary).1.head? = some format ↔ ∃ entry entries,
      supportedFormats serverSummary = .arr (entry :: entries) ∧ normalizedFormat entry = some format := by
  rcases readable with none | ⟨entries, isArr, readable⟩
  · simp [declaredFormats, none]
  · rw [declaredFormats, isArr]
    cases entries with
    | nil => simp [readEntries, distinct]
    | cons entry rest =>
        obtain ⟨first, read⟩ := Option.ne_none_iff_exists'.mp (readable entry List.mem_cons_self)
        simp only [readEntries, List.filterMap_cons_some read, distinct_head, Option.some.injEq]
        constructor
        · rintro ⟨⟩
          exact ⟨entry, rest, rfl, read⟩
        · rintro ⟨other, others, same, isRead⟩
          cases same
          exact Option.some.inj (read.symm.trans isRead)

theorem selection_kept (preferredCodec : String) (serverSummary : Fields) (offered : String) (stream : Option AudioFormat) :
    selectionViolation preferredCodec ((declaredFormats serverSummary).1.map AudioFormat.codec) offered stream = .ok none ↔
      ∀ found, stream = some found →
        found.codec = preferredCodec ∨ ∀ format, Offers serverSummary format → format.codec ≠ found.codec := by
  cases stream with
  | none => simp [selectionViolation]
  | some found =>
      have listed : found.codec ∈ (declaredFormats serverSummary).1.map AudioFormat.codec ↔
          ∃ format, Offers serverSummary format ∧ format.codec = found.codec := by
        simp only [List.mem_map, mem_declared, Offers]
      simp only [selectionViolation, listed]
      by_cases unpreferred : found.codec = preferredCodec <;>
        by_cases known : ∃ format, Offers serverSummary format ∧ format.codec = found.codec
      all_goals simp_all [py_bind_ok]

theorem priority_honoured (serverSummary : Fields) (preferredCodec : String) :
    formatPriorityViolation serverSummary preferredCodec = .ok none ↔ PriorityHonoured serverSummary preferredCodec := by
  rw [formatPriorityViolation]
  by_cases readable : (declaredFormats serverSummary).2 = []
  swap
  · exact iff_of_false (by simp [readable]) fun honoured => readable ((unreadable_none _).mpr honoured.readable)
  have offers := (unreadable_none serverSummary).mp readable
  simp only [readable, List.isEmpty_nil, Bool.not_true, Bool.false_eq_true, if_false]
  cases codecs : (declaredFormats serverSummary).1.map AudioFormat.codec with
  | nil =>
      refine iff_of_false (by simp) fun honoured => ?_
      obtain ⟨entry, entries, format, isArr, read, _⟩ := honoured.first
      have head := (first_offered serverSummary offers format).mpr ⟨entry, entries, isArr, read⟩
      rw [List.map_eq_nil_iff.mp codecs] at head
      cases head
  | cons codec others =>
      obtain ⟨format, rest, declared, isCodec, _⟩ := List.map_eq_cons_iff.mp codecs
      have head : (declaredFormats serverSummary).1.head? = some format := by rw [declared]; rfl
      have first : codec = preferredCodec ↔ ∃ entry entries format, supportedFormats serverSummary = .arr (entry :: entries) ∧
          normalizedFormat entry = some format ∧ format.codec = preferredCodec := by
        constructor
        · intro same
          obtain ⟨entry, entries, isArr, read⟩ := (first_offered serverSummary offers format).mp head
          exact ⟨entry, entries, format, isArr, read, isCodec.trans same⟩
        · rintro ⟨entry, entries, found, isArr, read, same⟩
          cases head.symm.trans ((first_offered serverSummary offers found).mpr ⟨entry, entries, isArr, read⟩)
          exact isCodec.symm.trans same
      have mandatory : (codec :: others).any mandatoryCodecs.contains = true ↔
          ∃ format, Offers serverSummary format ∧ format.codec ∈ mandatoryCodecs := by
        simp only [← codecs, List.any_map, List.any_eq_true, Function.comp_apply, List.contains_iff_mem, mem_declared, Offers]
      simp only [py_bind_ok, ← codecs] at mandatory ⊢
      constructor
      · rintro ⟨offered, listed, passed⟩
        by_cases isFirst : codec = preferredCodec
        · by_cases held : ((declaredFormats serverSummary).1.map AudioFormat.codec).any mandatoryCodecs.contains = true
          · simp only [isFirst, held, ne_eq, not_true_eq_false, if_false, Bool.not_true, Bool.false_eq_true] at passed
            exact ⟨offers, first.mp isFirst, mandatory.mp held, (selection_kept _ _ _ _).mp passed,
              (offered_labelled _).mp ⟨offered, listed⟩⟩
          · simp [isFirst, held] at passed
        · simp [isFirst] at passed
      · intro honoured
        obtain ⟨offered, listed⟩ := (offered_labelled serverSummary).mpr honoured.labelled
        refine ⟨offered, listed, ?_⟩
        simp only [first.mpr honoured.first, mandatory.mpr honoured.mandatory, ne_eq, not_true_eq_false, if_false,
          Bool.not_true, Bool.false_eq_true]
        exact (selection_kept _ _ _ _).mpr honoured.selected

theorem declared_only (serverSummary clientSummary : Fields) :
    undeclaredFormatViolation serverSummary clientSummary = .ok none ↔ DeclaredOnly serverSummary clientSummary := by
  rw [no_violation, DeclaredOnly, negotiated_declared, ← unreadable_none, ← some_offered]
  by_cases readable : (declaredFormats serverSummary).2 = []
  · by_cases offers : (declaredFormats serverSummary).1 = [] <;> simp [readable, offers]
  · simp [readable]

end Conformance.Comparison
