import SendspinConformance.Base.Runs
import SendspinConformance.Harness.DeclaredFormats

set_option autoImplicit false

namespace Conformance.Harness

open Python Base

variable [UnicodeData] [CaseFolding]

-- The rows that name a case directory.
def named (results : List Fields) : List Fields := results.filter fun result => caseNameOf result != ""

def serverSummary (files : CaseFiles) (row : Fields) : Fields := readSummary files (caseNameOf row) "server-summary.json"

def clientSummary (files : CaseFiles) (row : Fields) : Fields := readSummary files (caseNameOf row) "client-summary.json"

-- The row's client listed the format in supported_formats.
def DeclaresReadably (files : CaseFiles) (row : Fields) (format : AudioFormat) : Prop :=
  ∃ entries, supportedFormats (serverSummary files row) = .arr entries ∧
    ∃ entry ∈ entries, normalizedFormat entry = some format

-- The row's client declared something that cannot be read as a format.
def DeclaresUnreadably (files : CaseFiles) (row : Fields) (entry : Unreadable) : Prop :=
  (∃ entries, supportedFormats (serverSummary files row) = .arr entries ∧ entry.value ∈ entries ∧
    normalizedFormat entry.value = none ∧ entry.reason = notFormat) ∨
  (supportedFormats (serverSummary files row) = entry.value ∧ (∀ entries, entry.value ≠ .arr entries) ∧
    entry.value ≠ .null ∧ entry.reason = notList)

-- The summary fields of the row's case in which the format was seen.
def observedIn (files : CaseFiles) (row : Fields) (format : AudioFormat) : List String :=
  (candidates (serverSummary files row) (clientSummary files row)).filterMap fun candidate =>
    if normalizedFormat candidate.2 = some format then some candidate.1 else none

def referenceOf (files : CaseFiles) (row : Fields) (sources : Option (List String)) : CaseReference :=
  caseReference (caseOf files row) sources

def clientOf (row : Fields) : String := textOf row "client_impl"

omit [UnicodeData] in
theorem mem_declared (serverSummary : Fields) (format : AudioFormat) :
    format ∈ (declaredFormats serverSummary).1 ↔
      ∃ entries, supportedFormats serverSummary = .arr entries ∧ ∃ entry ∈ entries, normalizedFormat entry = some format := by
  rw [declaredFormats]
  cases supportedFormats serverSummary with
  | arr entries => simp [readEntries, mem_distinct]
  | _ => simp

omit [UnicodeData] in
theorem nodup_declared (serverSummary : Fields) : (declaredFormats serverSummary).1.Nodup := by
  rw [declaredFormats]
  cases supportedFormats serverSummary with
  | arr entries => exact nodup_distinct _
  | _ => exact List.nodup_nil

omit [UnicodeData] in
theorem negotiated_seen (serverSummary clientSummary : Fields) (format : AudioFormat) :
    (∃ negotiated ∈ negotiatedFormats serverSummary clientSummary, negotiated.format = format) ↔
      ∃ candidate ∈ candidates serverSummary clientSummary, normalizedFormat candidate.2 = some format := by
  have keys : (negotiatedFormats serverSummary clientSummary).map Negotiated.format =
      distinct (((candidates serverSummary clientSummary).filterMap fun candidate =>
        (normalizedFormat candidate.2).map fun format => (format, candidate.1)).map Prod.fst) := by
    rw [negotiatedFormats, List.map_map, ← grouped_keys]
    rfl
  rw [← List.mem_map, keys, mem_distinct]
  simp only [List.mem_map, List.mem_filterMap, Option.map_eq_some_iff]
  apply Iff.intro
  · rintro ⟨_, ⟨candidate, member, read, isRead, rfl⟩, same⟩
    exact ⟨candidate, member, same ▸ isRead⟩
  · rintro ⟨candidate, member, isRead⟩
    exact ⟨_, ⟨candidate, member, format, isRead, rfl⟩, rfl⟩

-- The runner has nothing to report: no declaration to read, or every format declared.
theorem no_violation (serverSummary clientSummary : Fields) :
    undeclaredFormatViolation serverSummary clientSummary = .ok none ↔
      (declaredFormats serverSummary).1 = [] ∨ (declaredFormats serverSummary).2 ≠ [] ∨
        ∀ negotiated ∈ negotiatedFormats serverSummary clientSummary,
          ∃ declared ∈ (declaredFormats serverSummary).1, comparableKey declared = comparableKey negotiated.format := by
  have all : undeclaredFormats serverSummary clientSummary = [] ↔
      ∀ negotiated ∈ negotiatedFormats serverSummary clientSummary,
        ∃ declared ∈ (declaredFormats serverSummary).1, comparableKey declared = comparableKey negotiated.format := by
    rw [undeclaredFormats, List.filter_eq_nil_iff]
    simp
  rw [← all, undeclaredFormatViolation]
  by_cases readable : (declaredFormats serverSummary).1 = [] ∨ (declaredFormats serverSummary).2 ≠ []
  · have skipped : ((declaredFormats serverSummary).1.isEmpty || !(declaredFormats serverSummary).2.isEmpty) = true := by
      simpa using readable
    simp only [skipped, if_true, true_iff]
    exact or_assoc.mp (Or.inl readable)
  · have judged : ((declaredFormats serverSummary).1.isEmpty || !(declaredFormats serverSummary).2.isEmpty) = false := by
      simpa using readable
    rw [← or_assoc, or_iff_right readable]
    simp only [judged, Bool.false_eq_true, if_false]
    cases undeclared : undeclaredFormats serverSummary clientSummary with
    | nil => simp
    | cons negotiated others =>
        simp only [List.isEmpty_cons, Bool.false_eq_true, if_false, reduceCtorEq, iff_false]
        intro quiet
        simp only [bind, Except.bind] at quiet
        split at quiet
        · cases quiet
        · split at quiet
          · cases quiet
          · cases quiet

theorem mem_unreadable (files : CaseFiles) (row : Fields) (entry : Unreadable) :
    entry ∈ (declaredFormats (serverSummary files row)).2 ↔ DeclaresUnreadably files row entry := by
  have unlisted (other : Json) (notArr : ∀ entries, other ≠ .arr entries) (given : other ≠ .null) :
      entry ∈ [(⟨other, notList⟩ : Unreadable)] ↔
        (∃ entries, other = .arr entries ∧ entry.value ∈ entries ∧ normalizedFormat entry.value = none ∧
          entry.reason = notFormat) ∨
        (other = entry.value ∧ (∀ entries, entry.value ≠ .arr entries) ∧ entry.value ≠ .null ∧
          entry.reason = notList) := by
    rw [List.mem_singleton]
    apply Iff.intro
    · intro same
      exact Or.inr (same ▸ ⟨rfl, notArr, given, rfl⟩)
    · intro cases
      obtain ⟨entries, isArr, _⟩ | ⟨same, _, _, told⟩ := cases
      · exact absurd isArr (notArr entries)
      · rw [same, ← told]
  rw [declaredFormats, DeclaresUnreadably]
  cases supportedFormats (serverSummary files row) with
  | arr entries =>
      simp only [readEntries, List.mem_map, List.mem_filter, Option.isNone_iff_eq_none, Json.arr.injEq]
      apply Iff.intro
      · intro ⟨other, ⟨member, unread⟩, same⟩
        exact Or.inl ⟨entries, rfl, same ▸ ⟨member, unread, rfl⟩⟩
      · intro cases
        obtain ⟨_, rfl, member, unread, told⟩ | ⟨same, notArr, _⟩ := cases
        · exact ⟨entry.value, ⟨member, unread⟩, by rw [← told]⟩
        · exact absurd same.symm (notArr entries)
  | null =>
      apply Iff.intro
      · intro member
        exact absurd member List.not_mem_nil
      · intro cases
        obtain ⟨_, isArr, _⟩ | ⟨same, _, given, _⟩ := cases
        · cases isArr
        · exact absurd same.symm given
  | bool other => exact unlisted _ (fun _ same => by cases same) fun same => by cases same
  | int other => exact unlisted _ (fun _ same => by cases same) fun same => by cases same
  | float other => exact unlisted _ (fun _ same => by cases same) fun same => by cases same
  | str other => exact unlisted _ (fun _ same => by cases same) fun same => by cases same
  | obj other => exact unlisted _ (fun _ same => by cases same) fun same => by cases same

omit [UnicodeData] in
theorem seen_in (fields : List (String × Json)) (format : AudioFormat) :
    valuesOf (fields.filterMap fun field => (normalizedFormat field.2).map fun read => (read, field.1)) format =
      fields.filterMap fun field => if normalizedFormat field.2 = some format then some field.1 else none := by
  induction fields with
  | nil => rfl
  | cons field rest ih =>
      rw [valuesOf] at ih ⊢
      cases read : normalizedFormat field.2 with
      | none =>
          rw [List.filterMap_cons_none (by rw [read]; rfl), List.filterMap_cons_none (by simp [read])]
          exact ih
      | some other =>
          rw [List.filterMap_cons_some (by rw [read]; rfl)]
          by_cases same : other = format
          · rw [List.filter_cons_of_pos (by simpa using same), List.map_cons, ih,
              List.filterMap_cons_some (by rw [read, if_pos (by rw [same])])]
          · have different : ¬ (some other = some format) := fun equal => same (Option.some.inj equal)
            rw [List.filter_cons_of_neg (by simpa using same), ih,
              List.filterMap_cons_none (by rw [read, if_neg different])]

-- What the case negotiated: each format once, with the fields it was seen in.
theorem mem_negotiated (files : CaseFiles) (row : Fields) (negotiated : Negotiated) :
    negotiated ∈ (caseOf files row).negotiated ↔
      observedIn files row negotiated.format ≠ [] ∧ negotiated.sources = observedIn files row negotiated.format := by
  have grouping (format : AudioFormat) (sources : List String) :
      (format, sources) ∈ grouped ((candidates (serverSummary files row) (clientSummary files row)).filterMap
        fun candidate => (normalizedFormat candidate.2).map fun read => (read, candidate.1)) ↔
        observedIn files row format ≠ [] ∧ sources = observedIn files row format := by
    rw [mem_grouped, values_of_some, seen_in]
    rfl
  rw [← grouping, caseOf, negotiatedFormats, List.mem_map]
  apply Iff.intro
  · intro ⟨group, member, same⟩
    rw [← same]
    exact member
  · intro member
    exact ⟨_, member, rfl⟩

theorem nodup_negotiated (files : CaseFiles) (row : Fields) :
    ((caseOf files row).negotiated.map Negotiated.format).Nodup := by
  rw [caseOf, negotiatedFormats, List.map_map]
  have keys := nodup_distinct (((candidates (serverSummary files row) (clientSummary files row)).filterMap
    fun candidate => (normalizedFormat candidate.2).map fun format => (format, candidate.1)).map Prod.fst)
  rw [← grouped_keys] at keys
  exact keys

-- The cases the rows make: those whose summaries hold any format.
theorem mem_cases (files : CaseFiles) (results : List Fields) (item : Case) :
    item ∈ caseDeclarations files results ↔
      ∃ row ∈ named results, item = caseOf files row ∧ (caseOf files row).recorded = true := by
  rw [caseDeclarations, List.mem_insertionSort, List.mem_filter, List.mem_map]
  apply Iff.intro
  · intro ⟨⟨row, member, same⟩, recorded⟩
    exact ⟨row, member, same.symm, same ▸ recorded⟩
  · intro ⟨row, member, same, recorded⟩
    exact ⟨⟨row, member, same.symm⟩, same ▸ recorded⟩

theorem nodup_case_names (files : CaseFiles) (results : List Fields)
    (distinctNames : ((named results).map caseNameOf).Nodup) :
    ((caseDeclarations files results).map Case.caseName).Nodup := by
  have names : ((named results).map (caseOf files)).map Case.caseName = (named results).map caseNameOf := by
    rw [List.map_map]
    rfl
  have all : (((named results).map (caseOf files)).filter Case.recorded |>.map Case.caseName).Nodup := by
    refine List.Nodup.sublist ?_ (names ▸ distinctNames)
    exact List.filter_sublist.map _
  exact ((List.perm_insertionSort _ _).map Case.caseName).nodup_iff.mpr all

section

variable {γ : Type} (listed : Case → List γ) (formatOf : γ → AudioFormat) (refer : Case → γ → CaseReference)

omit [UnicodeData] [CaseFolding] in
-- Where each case lists a format at most once, no case is referred to twice under it.
theorem nodup_references (cases : List Case) (format : AudioFormat)
    (once : ∀ item ∈ cases, ((listed item).map formatOf).Nodup)
    (refers : ∀ item entry, (refer item entry).caseName = item.caseName) (names : (cases.map Case.caseName).Nodup) :
    ((valuesOf (cases.flatMap fun item => (listed item).map fun entry => (formatOf entry, refer item entry))
      format).map CaseReference.caseName).Nodup := by
  induction cases with
  | nil => exact List.nodup_nil
  | cons item rest ih =>
      rw [List.map_cons, List.nodup_cons] at names
      have later := ih (fun other member => once other (List.mem_cons_of_mem item member)) names.2
      rw [List.flatMap_cons, values_of_append, List.map_append, List.nodup_append]
      refine ⟨?_, later, ?_⟩
      · have keys : ((listed item).map fun entry => (formatOf entry, refer item entry)).map Prod.fst =
            (listed item).map formatOf := by
          rw [List.map_map]
          rfl
        have few := values_of_once ((listed item).map fun entry => (formatOf entry, refer item entry)) format
          (keys ▸ once item List.mem_cons_self)
        generalize valuesOf ((listed item).map fun entry => (formatOf entry, refer item entry)) format = found at few
        match found, few with
        | [], _ => exact List.nodup_nil
        | [only], _ => exact List.nodup_singleton _
      · intro first inFirst second inRest
        obtain ⟨reference, member, rfl⟩ := List.mem_map.mp inFirst
        obtain ⟨other, laterMember, rfl⟩ := List.mem_map.mp inRest
        rw [mem_values_of, List.mem_map] at member
        rw [mem_values_of, List.mem_flatMap] at laterMember
        obtain ⟨entry, _, same⟩ := member
        obtain ⟨next, inCases, found⟩ := laterMember
        obtain ⟨entry', _, same'⟩ := List.mem_map.mp found
        rw [← (Prod.mk.inj same).2, ← (Prod.mk.inj same').2, refers, refers]
        intro shared
        exact names.1 (shared ▸ List.mem_map_of_mem inCases)

end

theorem mem_declarations (files : CaseFiles) (results : List Fields) (client : String) (format : AudioFormat)
    (reference : CaseReference) (cases : List Case)
    (ofClient : ∀ item, item ∈ cases ↔ item ∈ caseDeclarations files results ∧ item.clientImpl = client) :
    reference ∈ valuesOf (declarations cases) format ↔
      ∃ row ∈ named results, clientOf row = client ∧ DeclaresReadably files row format ∧
        reference = referenceOf files row none := by
  rw [mem_values_of, declarations, List.mem_flatMap]
  apply Iff.intro
  · intro ⟨item, member, found⟩
    obtain ⟨inCases, isClient⟩ := (ofClient item).mp member
    obtain ⟨row, inRows, rfl, _⟩ := (mem_cases files results item).mp inCases
    obtain ⟨declared, listed, same⟩ := List.mem_map.mp found
    obtain ⟨rfl, rfl⟩ := Prod.mk.inj same
    exact ⟨row, inRows, isClient, (mem_declared _ _).mp listed, rfl⟩
  · intro ⟨row, inRows, isClient, declares, same⟩
    have listed := (mem_declared (serverSummary files row) format).mpr declares
    have recorded : (caseOf files row).recorded = true := by
      have some : (caseOf files row).declared ≠ [] := List.ne_nil_of_mem listed
      simp [Case.recorded, some]
    refine ⟨caseOf files row, (ofClient _).mpr ⟨(mem_cases files results _).mpr ⟨row, inRows, rfl, recorded⟩, isClient⟩,
      List.mem_map.mpr ⟨format, listed, ?_⟩⟩
    rw [same, referenceOf]

theorem mem_observations (files : CaseFiles) (results : List Fields) (client : String) (format : AudioFormat)
    (reference : CaseReference) (cases : List Case)
    (ofClient : ∀ item, item ∈ cases ↔ item ∈ caseDeclarations files results ∧ item.clientImpl = client) :
    reference ∈ valuesOf (observations cases) format ↔
      ∃ row ∈ named results, clientOf row = client ∧ observedIn files row format ≠ [] ∧
        reference = referenceOf files row (some (observedIn files row format)) := by
  rw [mem_values_of, observations, List.mem_flatMap]
  apply Iff.intro
  · intro ⟨item, member, found⟩
    obtain ⟨inCases, isClient⟩ := (ofClient item).mp member
    obtain ⟨row, inRows, rfl, _⟩ := (mem_cases files results item).mp inCases
    obtain ⟨negotiated, listed, same⟩ := List.mem_map.mp found
    obtain ⟨rfl, rfl⟩ := Prod.mk.inj same
    obtain ⟨seen, sources⟩ := (mem_negotiated files row negotiated).mp listed
    exact ⟨row, inRows, isClient, seen, by rw [← sources, referenceOf]⟩
  · intro ⟨row, inRows, isClient, seen, same⟩
    have listed := (mem_negotiated files row ⟨format, observedIn files row format⟩).mpr ⟨seen, rfl⟩
    have recorded : (caseOf files row).recorded = true := by
      have some : (caseOf files row).negotiated ≠ [] := List.ne_nil_of_mem listed
      simp [Case.recorded, some]
    refine ⟨caseOf files row, (ofClient _).mpr ⟨(mem_cases files results _).mpr ⟨row, inRows, rfl, recorded⟩, isClient⟩,
      List.mem_map.mpr ⟨_, listed, ?_⟩⟩
    rw [same, referenceOf]

-- The claims of a client's cases under one identity.
theorem mem_claims (files : CaseFiles) (results : List Fields) (client : String) (key : String) (entry : Unreadable)
    (reference : CaseReference) (cases : List Case)
    (ofClient : ∀ item, item ∈ cases ↔ item ∈ caseDeclarations files results ∧ item.clientImpl = client) :
    (entry, reference) ∈ valuesOf (claims cases) key ↔
      ∃ row ∈ named results, clientOf row = client ∧ DeclaresUnreadably files row entry ∧ identity entry = key ∧
        reference = referenceOf files row none := by
  rw [mem_values_of, claims, List.mem_flatMap]
  apply Iff.intro
  · intro ⟨item, member, found⟩
    obtain ⟨inCases, isClient⟩ := (ofClient item).mp member
    obtain ⟨row, inRows, rfl, _⟩ := (mem_cases files results item).mp inCases
    obtain ⟨other, listed, same⟩ := List.mem_map.mp found
    simp only [Prod.mk.injEq] at same
    obtain ⟨rfl, rfl, rfl⟩ := same
    exact ⟨row, inRows, isClient, (mem_unreadable files row other).mp listed, rfl, rfl⟩
  · intro ⟨row, inRows, isClient, declares, isKey, same⟩
    have listed := (mem_unreadable files row entry).mpr declares
    have recorded : (caseOf files row).recorded = true := by
      have some : (caseOf files row).unreadable ≠ [] := List.ne_nil_of_mem listed
      simp [Case.recorded, some]
    refine ⟨caseOf files row, (ofClient _).mpr ⟨(mem_cases files results _).mpr ⟨row, inRows, rfl, recorded⟩, isClient⟩,
      List.mem_map.mpr ⟨entry, listed, ?_⟩⟩
    rw [same, isKey, referenceOf]

def UnreadableGroup.identity (group : UnreadableGroup) : String := Harness.identity ⟨group.value, group.reason⟩

omit [UnicodeData] [CaseFolding] in
theorem claim_identity (cases : List Case) (key : String) (claim : Unreadable × CaseReference)
    (claimed : claim ∈ valuesOf (claims cases) key) : identity claim.1 = key := by
  rw [mem_values_of, claims, List.mem_flatMap] at claimed
  obtain ⟨item, _, found⟩ := claimed
  obtain ⟨entry, _, same⟩ := List.mem_map.mp found
  simp only [Prod.mk.injEq] at same
  rw [← same.1, ← same.2]

omit [UnicodeData] [CaseFolding] in
-- The group of an identity some case claims.
theorem group_of_claimed (cases : List Case) (key : String) (member : key ∈ (claims cases).map Prod.fst) :
    ∃ group, groupOf (valuesOf (claims cases) key) = some group ∧ group.identity = key ∧
      group.declaredBy = (valuesOf (claims cases) key).map Prod.snd := by
  have some := (values_of_some _ _).mp member
  cases claimed : valuesOf (claims cases) key with
  | nil => exact absurd claimed some
  | cons first rest =>
      refine ⟨_, rfl, ?_, rfl⟩
      exact claim_identity cases key first (by rw [claimed]; exact List.mem_cons_self)

omit [UnicodeData] [CaseFolding] in
theorem rolled_up_identities (cases : List Case) :
    (rolledUpUnreadable cases).map UnreadableGroup.identity = sorted (distinct ((claims cases).map Prod.fst)) := by
  have claimed (key : String) (member : key ∈ sorted (distinct ((claims cases).map Prod.fst))) :
      key ∈ (claims cases).map Prod.fst := by
    rwa [sorted, List.mem_insertionSort, mem_distinct] at member
  rw [rolledUpUnreadable]
  generalize sorted (distinct ((claims cases).map Prod.fst)) = keys at claimed ⊢
  induction keys with
  | nil => rfl
  | cons key rest ih =>
      obtain ⟨group, made, isKey, _⟩ := group_of_claimed cases key (claimed key List.mem_cons_self)
      have later := ih fun other member => claimed other (List.mem_cons_of_mem key member)
      simp only [List.filterMap_cons, made, List.map_cons, isKey, later]

-- A label needs the sample rate in thousands to be a float.
def Labelled (format : AudioFormat) : Prop := |roundTo .binary64 ((format.sampleRate : Rat) / 1000)| < 2 ^ 1024

omit [CaseFolding] in
theorem label_ok (format : AudioFormat) : (∃ label, formatLabel format = .ok label) ↔ Labelled format := by
  rw [formatLabel, thousandth, Labelled]
  by_cases large : 2 ^ 1024 ≤ |roundTo .binary64 ((format.sampleRate : Rat) / 1000)|
  · simp only [if_pos large, not_lt.mpr large, iff_false]
    intro ⟨label, made⟩
    cases made
  · simp only [if_neg large, not_le.mp large, iff_true]
    exact ⟨_, rfl⟩

omit [CaseFolding] in
theorem format_entry_ok (cases : List Case) (format : AudioFormat) (entry : FormatEntry)
    (made : formatEntry cases format = .ok entry) :
    entry.format = format ∧ entry.declaredBy = valuesOf (declarations cases) format ∧
      entry.exercisedBy = valuesOf (observations cases) format ∧
      entry.exercised = !(valuesOf (observations cases) format).isEmpty := by
  rw [formatEntry] at made
  cases label : formatLabel format with
  | error raised => rw [label] at made; cases made
  | ok text =>
      rw [label] at made
      cases made
      exact ⟨rfl, rfl, rfl, rfl⟩

omit [CaseFolding] in
theorem format_entry_total (cases : List Case) (format : AudioFormat) :
    (∃ entry, formatEntry cases format = .ok entry) ↔ Labelled format := by
  rw [← label_ok, formatEntry]
  cases label : formatLabel format with
  | error raised =>
      apply Iff.intro
      · intro ⟨entry, made⟩
        cases made
      · intro ⟨text, made⟩
        cases made
  | ok text => exact ⟨fun _ => ⟨text, rfl⟩, fun _ => ⟨_, rfl⟩⟩

-- What an entry of a client says of its cases.
structure EntryOf (clientImpl : String) (cases : List Case) (entry : ImplementationEntry) : Prop where
  client : entry.implementation = clientImpl
  unreadable : entry.unreadable = rolledUpUnreadable cases
  formats : (entry.formats.map FormatEntry.format).Nodup ∧
    ∀ format, format ∈ entry.formats.map FormatEntry.format ↔ format ∈ (declarations cases).map Prod.fst
  items : ∀ item ∈ entry.formats, item.declaredBy = valuesOf (declarations cases) item.format ∧
    item.exercisedBy = valuesOf (observations cases) item.format ∧
    item.exercised = !(valuesOf (observations cases) item.format).isEmpty

omit [CaseFolding] in
theorem implementation_entry_ok (clientImpl : String) (cases : List Case) (entry : ImplementationEntry)
    (made : implementationEntry clientImpl cases = .ok entry) : EntryOf clientImpl cases entry := by
  rw [implementationEntry] at made
  cases ran : ((distinct ((declarations cases).map Prod.fst)).insertionSort formatLe).mapM (formatEntry cases) with
  | error raised => simp only [ran] at made; cases made
  | ok entries =>
      simp only [ran] at made
      cases made
      have formats : entries.map FormatEntry.format =
          ((distinct ((declarations cases).map Prod.fst)).insertionSort formatLe).map id :=
        map_steps_view _ FormatEntry.format id (fun format item made => (format_entry_ok cases format item made).1) _ _ ran
      rw [List.map_id] at formats
      refine ⟨rfl, rfl, ⟨?_, ?_⟩, ?_⟩
      · rw [formats]
        exact (List.perm_insertionSort _ _).nodup_iff.mpr (nodup_distinct _)
      · intro format
        rw [formats, List.mem_insertionSort, mem_distinct]
      · intro item member
        obtain ⟨format, _, made⟩ := (map_steps_members _ _ _ ran).1 item member
        obtain ⟨same, declared, exercised, marked⟩ := format_entry_ok cases format item made
        rw [same]
        exact ⟨declared, exercised, marked⟩

omit [CaseFolding] in
theorem implementation_entry_total (clientImpl : String) (cases : List Case) :
    (∃ entry, implementationEntry clientImpl cases = .ok entry) ↔
      ∀ format ∈ (declarations cases).map Prod.fst, Labelled format := by
  have formats : (∃ entries, ((distinct ((declarations cases).map Prod.fst)).insertionSort formatLe).mapM
      (formatEntry cases) = .ok entries) ↔ ∀ format ∈ (declarations cases).map Prod.fst, Labelled format := by
    rw [map_steps_total]
    simp only [List.mem_insertionSort, mem_distinct, format_entry_total]
  rw [← formats, implementationEntry]
  cases ran : ((distinct ((declarations cases).map Prod.fst)).insertionSort formatLe).mapM (formatEntry cases) with
  | error raised =>
      apply Iff.intro
      · intro ⟨entry, made⟩
        cases made
      · intro ⟨entries, made⟩
        cases made
  | ok entries => exact ⟨fun _ => ⟨entries, rfl⟩, fun _ => ⟨_, rfl⟩⟩

-- The clients in the order their entries are published.
def orderedClients (cases : List Case) : List String :=
  let names := (grouped (cases.map fun item => (item.clientImpl, item))).map Prod.fst
  implementationNames.filter (names.contains ·) ++ sorted (names.filter fun name => !implementationNames.contains name)

def casesOf (cases : List Case) (clientImpl : String) : List Case :=
  valuesOf (cases.map fun item => (item.clientImpl, item)) clientImpl

omit [UnicodeData] [CaseFolding] in
theorem mem_cases_of (cases : List Case) (clientImpl : String) (item : Case) :
    item ∈ casesOf cases clientImpl ↔ item ∈ cases ∧ item.clientImpl = clientImpl := by
  rw [casesOf, mem_values_of, List.mem_map]
  apply Iff.intro
  · intro ⟨other, member, same⟩
    obtain ⟨rfl, rfl⟩ := Prod.mk.inj same
    exact ⟨member, rfl⟩
  · intro ⟨member, same⟩
    exact ⟨item, member, by rw [same]⟩

omit [UnicodeData] [CaseFolding] in
theorem mem_ordered_clients (cases : List Case) (clientImpl : String) :
    clientImpl ∈ orderedClients cases ↔ ∃ item ∈ cases, item.clientImpl = clientImpl := by
  have names : clientImpl ∈ (grouped (cases.map fun item => (item.clientImpl, item))).map Prod.fst ↔
      ∃ item ∈ cases, item.clientImpl = clientImpl := by
    rw [grouped_keys, mem_distinct, List.map_map, List.mem_map]
    rfl
  rw [← names, orderedClients, List.mem_append, List.mem_filter, sorted, List.mem_insertionSort, List.mem_filter]
  by_cases known : clientImpl ∈ implementationNames <;> simp [known]

omit [UnicodeData] [CaseFolding] in
theorem nodup_ordered_clients (cases : List Case) : (orderedClients cases).Nodup := by
  have known : implementationNames.Nodup := (List.perm_insertionSort _ _).nodup_iff.mpr (by decide)
  have names : ((grouped (cases.map fun item => (item.clientImpl, item))).map Prod.fst).Nodup := by
    rw [grouped_keys]
    exact nodup_distinct _
  rw [orderedClients, List.nodup_append]
  refine ⟨known.filter _, (List.perm_insertionSort _ _).nodup_iff.mpr (names.filter _), ?_⟩
  intro first isKnown second isOther same
  rw [sorted, List.mem_insertionSort] at isOther
  have unknown := (List.mem_filter.mp isOther).2
  have listed := (List.mem_filter.mp isKnown).1
  rw [← same] at unknown
  simp [listed] at unknown

-- What is published: an entry of each client with a declaration.
theorem collected (files : CaseFiles) (results : List Fields) (payload : DeclaredFormats)
    (made : collectDeclaredFormats files results = .ok payload) :
    ∃ entries, (orderedClients (caseDeclarations files results)).mapM (fun clientImpl =>
        implementationEntry clientImpl (casesOf (caseDeclarations files results) clientImpl)) = .ok entries ∧
      payload.implementations = entries.filter fun entry => !entry.formats.isEmpty || !entry.unreadable.isEmpty := by
  rw [collectDeclaredFormats] at made
  cases ran : (orderedClients (caseDeclarations files results)).mapM (fun clientImpl =>
      implementationEntry clientImpl (casesOf (caseDeclarations files results) clientImpl)) with
  | error raised =>
      simp only [orderedClients, casesOf] at ran
      simp only [ran] at made
      cases made
  | ok entries =>
      simp only [orderedClients, casesOf] at ran
      simp only [ran] at made
      cases made
      exact ⟨entries, rfl, rfl⟩

theorem some_declaration (files : CaseFiles) (results : List Fields) (clientImpl : String) (format : AudioFormat) :
    format ∈ (declarations (casesOf (caseDeclarations files results) clientImpl)).map Prod.fst ↔
      ∃ row ∈ named results, clientOf row = clientImpl ∧ DeclaresReadably files row format := by
  rw [values_of_some]
  apply Iff.intro
  · intro some
    obtain ⟨reference, member⟩ := List.exists_mem_of_ne_nil _ some
    obtain ⟨row, inRows, isClient, declares, _⟩ := (mem_declarations files results clientImpl format reference _
      (mem_cases_of _ clientImpl)).mp member
    exact ⟨row, inRows, isClient, declares⟩
  · intro ⟨row, inRows, isClient, declares⟩
    exact List.ne_nil_of_mem ((mem_declarations files results clientImpl format _ _
      (mem_cases_of _ clientImpl)).mpr ⟨row, inRows, isClient, declares, rfl⟩)

-- The join raises on a label alone.
theorem collect_total (files : CaseFiles) (results : List Fields) :
    (∃ payload, collectDeclaredFormats files results = .ok payload) ↔
      ∀ row ∈ named results, ∀ format, DeclaresReadably files row format → Labelled format := by
  have entries : (∃ entries, (orderedClients (caseDeclarations files results)).mapM (fun clientImpl =>
      implementationEntry clientImpl (casesOf (caseDeclarations files results) clientImpl)) = .ok entries) ↔
      ∀ row ∈ named results, ∀ format, DeclaresReadably files row format → Labelled format := by
    rw [map_steps_total]
    simp only [implementation_entry_total, some_declaration, mem_ordered_clients]
    apply Iff.intro
    · intro all row inRows format declares
      have listed := (mem_declared (serverSummary files row) format).mpr declares
      have recorded : (caseOf files row).recorded = true := by
        have some : (caseOf files row).declared ≠ [] := List.ne_nil_of_mem listed
        simp [Case.recorded, some]
      exact all (clientOf row) ⟨caseOf files row, (mem_cases files results _).mpr ⟨row, inRows, rfl, recorded⟩, rfl⟩
        format ⟨row, inRows, rfl, declares⟩
    · intro all clientImpl _ format ⟨row, inRows, _, declares⟩
      exact all row inRows format declares
  rw [← entries]
  apply Iff.intro
  · intro ⟨payload, made⟩
    obtain ⟨answers, ran, _⟩ := collected files results payload made
    exact ⟨answers, ran⟩
  · intro ⟨answers, ran⟩
    rw [collectDeclaredFormats]
    simp only [orderedClients, casesOf] at ran
    simp only [ran]
    exact ⟨_, rfl⟩

-- The client of some row declared something.
def Declares (files : CaseFiles) (results : List Fields) (clientImpl : String) : Prop :=
  ∃ row ∈ named results, clientOf row = clientImpl ∧
    ((∃ format, DeclaresReadably files row format) ∨ ∃ entry, DeclaresUnreadably files row entry)

-- An entry is the join over the client's rows: each format and each unreadable claim
-- once, with the cases that declared and exercised it.
structure EntryJoined (files : CaseFiles) (results : List Fields) (entry : ImplementationEntry) : Prop where
  formats : ∀ row ∈ named results, clientOf row = entry.implementation → ∀ format, DeclaresReadably files row format →
    ∃ item, entry.formats.filter (fun item => item.format = format) = [item]
  declaredBy : ∀ item ∈ entry.formats, item.declaredBy ≠ [] ∧ (item.declaredBy.map CaseReference.caseName).Nodup ∧
    ∀ reference, reference ∈ item.declaredBy ↔ ∃ row ∈ named results, clientOf row = entry.implementation ∧
      DeclaresReadably files row item.format ∧ reference = referenceOf files row none
  exercisedBy : ∀ item ∈ entry.formats,
    (item.exercised = true ↔ ∃ row ∈ named results, clientOf row = entry.implementation ∧
      observedIn files row item.format ≠ []) ∧ (item.exercisedBy.map CaseReference.caseName).Nodup ∧
    ∀ reference, reference ∈ item.exercisedBy ↔ ∃ row ∈ named results, clientOf row = entry.implementation ∧
      observedIn files row item.format ≠ [] ∧
      reference = referenceOf files row (some (observedIn files row item.format))
  unreadable : ∀ row ∈ named results, clientOf row = entry.implementation → ∀ claim, DeclaresUnreadably files row claim →
    ∃ group, entry.unreadable.filter (fun group => group.identity = identity claim) = [group] ∧
      referenceOf files row none ∈ group.declaredBy
  claimed : ∀ group ∈ entry.unreadable, ∀ reference ∈ group.declaredBy,
    ∃ row ∈ named results, clientOf row = entry.implementation ∧ reference = referenceOf files row none ∧
      ∃ claim, DeclaresUnreadably files row claim ∧ identity claim = group.identity

-- Each client with a declaration has one entry, which is its join.
structure Joined (files : CaseFiles) (results : List Fields) (payload : DeclaredFormats) : Prop where
  clients : ∀ clientImpl, Declares files results clientImpl →
    ∃ entry, payload.implementations.filter (fun entry => entry.implementation = clientImpl) = [entry]
  declares : ∀ entry ∈ payload.implementations, Declares files results entry.implementation
  entries : ∀ entry ∈ payload.implementations, EntryJoined files results entry

theorem nodup_client_cases (files : CaseFiles) (results : List Fields) (clientImpl : String)
    (distinctNames : ((named results).map caseNameOf).Nodup) :
    ((casesOf (caseDeclarations files results) clientImpl).map Case.caseName).Nodup := by
  have filtered : casesOf (caseDeclarations files results) clientImpl =
      (caseDeclarations files results).filter fun item => item.clientImpl = clientImpl := by
    rw [casesOf, valuesOf, List.filter_map, List.map_map]
    exact List.map_id _
  rw [filtered]
  exact (nodup_case_names files results distinctNames).sublist (List.filter_sublist.map _)

theorem entry_joined (files : CaseFiles) (results : List Fields) (entry : ImplementationEntry)
    (distinctNames : ((named results).map caseNameOf).Nodup)
    (known : EntryOf entry.implementation (casesOf (caseDeclarations files results) entry.implementation) entry) :
    EntryJoined files results entry := by
  have ofClient := mem_cases_of (caseDeclarations files results) entry.implementation
  have names := nodup_client_cases files results entry.implementation distinctNames
  have fromRow : ∀ item ∈ casesOf (caseDeclarations files results) entry.implementation,
      ∃ row, item = caseOf files row := by
    intro item member
    obtain ⟨row, _, same, _⟩ := (mem_cases files results item).mp ((ofClient item).mp member).1
    exact ⟨row, same⟩
  refine ⟨?_, ?_, ?_, ?_, ?_⟩
  · intro row inRows isClient format declares
    refine found_once entry.formats FormatEntry.format format known.formats.1 ?_
    rw [known.formats.2, some_declaration]
    exact ⟨row, inRows, isClient, declares⟩
  · intro item member
    obtain ⟨declared, _, _⟩ := known.items item member
    rw [declared]
    refine ⟨?_, ?_, fun reference => mem_declarations files results _ item.format reference _ ofClient⟩
    · rw [← values_of_some, ← known.formats.2]
      exact List.mem_map_of_mem member
    · refine nodup_references Case.declared id (fun item _ => caseReference item none) _ item.format ?_
        (fun _ _ => rfl) names
      intro other inCases
      obtain ⟨row, rfl⟩ := fromRow other inCases
      rw [List.map_id]
      exact nodup_declared _
  · intro item member
    obtain ⟨_, exercised, marked⟩ := known.items item member
    have observed (reference : CaseReference) :=
      mem_observations files results entry.implementation item.format reference _ ofClient
    rw [exercised, marked]
    refine ⟨?_, ?_, observed⟩
    · rw [Bool.not_eq_true', List.isEmpty_eq_false_iff]
      apply Iff.intro
      · intro some
        obtain ⟨reference, found⟩ := List.exists_mem_of_ne_nil _ some
        obtain ⟨row, inRows, isClient, seen, _⟩ := (observed reference).mp found
        exact ⟨row, inRows, isClient, seen⟩
      · intro ⟨row, inRows, isClient, seen⟩
        exact List.ne_nil_of_mem ((observed _).mpr ⟨row, inRows, isClient, seen, rfl⟩)
    · refine nodup_references Case.negotiated Negotiated.format
        (fun item negotiated => caseReference item (some negotiated.sources)) _ item.format ?_ (fun _ _ => rfl) names
      intro other inCases
      obtain ⟨row, rfl⟩ := fromRow other inCases
      exact nodup_negotiated files row
  · intro row inRows isClient claim declares
    have listed := (mem_claims files results entry.implementation (identity claim) claim _ _ ofClient).mpr
      ⟨row, inRows, isClient, declares, rfl, rfl⟩
    have key := (values_of_some _ _).mpr (List.ne_nil_of_mem listed)
    obtain ⟨group, made, isKey, references⟩ := group_of_claimed _ _ key
    have inGroups : group ∈ entry.unreadable := by
      rw [known.unreadable, rolledUpUnreadable, List.mem_filterMap]
      exact ⟨identity claim, by rwa [sorted, List.mem_insertionSort, mem_distinct], made⟩
    have identities : (entry.unreadable.map UnreadableGroup.identity).Nodup := by
      rw [known.unreadable, rolled_up_identities]
      exact (List.perm_insertionSort _ _).nodup_iff.mpr (nodup_distinct _)
    refine ⟨group, ?_, references ▸ List.mem_map.mpr ⟨_, listed, rfl⟩⟩
    rw [← isKey]
    exact filter_once entry.unreadable UnreadableGroup.identity identities group inGroups
  · intro group member reference inGroup
    rw [known.unreadable, rolledUpUnreadable, List.mem_filterMap] at member
    obtain ⟨key, inKeys, made⟩ := member
    rw [sorted, List.mem_insertionSort, mem_distinct] at inKeys
    obtain ⟨other, madeOther, isKey, references⟩ := group_of_claimed _ key inKeys
    rw [made, Option.some_inj] at madeOther
    subst madeOther
    rw [references, List.mem_map] at inGroup
    obtain ⟨claim, claimed, rfl⟩ := inGroup
    obtain ⟨row, inRows, isClient, declares, same, isReference⟩ :=
      (mem_claims files results entry.implementation key claim.1 claim.2 _ ofClient).mp claimed
    exact ⟨row, inRows, isClient, isReference, claim.1, declares, same.trans isKey.symm⟩

theorem some_claim (files : CaseFiles) (results : List Fields) (clientImpl : String) :
    rolledUpUnreadable (casesOf (caseDeclarations files results) clientImpl) ≠ [] ↔
      ∃ row ∈ named results, clientOf row = clientImpl ∧ ∃ entry, DeclaresUnreadably files row entry := by
  have ofClient := mem_cases_of (caseDeclarations files results) clientImpl
  apply Iff.intro
  · intro some
    obtain ⟨group, member⟩ := List.exists_mem_of_ne_nil _ some
    rw [rolledUpUnreadable, List.mem_filterMap] at member
    obtain ⟨key, inKeys, _⟩ := member
    rw [sorted, List.mem_insertionSort, mem_distinct, values_of_some] at inKeys
    obtain ⟨claim, claimed⟩ := List.exists_mem_of_ne_nil _ inKeys
    obtain ⟨row, inRows, isClient, declares, _⟩ :=
      (mem_claims files results clientImpl key claim.1 claim.2 _ ofClient).mp claimed
    exact ⟨row, inRows, isClient, claim.1, declares⟩
  · intro ⟨row, inRows, isClient, entry, declares⟩ none
    have listed := (mem_claims files results clientImpl (identity entry) entry _ _ ofClient).mpr
      ⟨row, inRows, isClient, declares, rfl, rfl⟩
    have key := (values_of_some _ _).mpr (List.ne_nil_of_mem listed)
    have identities := rolled_up_identities (casesOf (caseDeclarations files results) clientImpl)
    rw [none, List.map_nil] at identities
    have inKeys : identity entry ∈ sorted (distinct ((claims (casesOf (caseDeclarations files results) clientImpl)).map
        Prod.fst)) := by
      rwa [sorted, List.mem_insertionSort, mem_distinct]
    rw [← identities] at inKeys
    cases inKeys

-- An entry is published exactly for the clients that declared something.
theorem published_iff (files : CaseFiles) (results : List Fields) (entry : ImplementationEntry)
    (known : EntryOf entry.implementation (casesOf (caseDeclarations files results) entry.implementation) entry) :
    (!entry.formats.isEmpty || !entry.unreadable.isEmpty) = true ↔ Declares files results entry.implementation := by
  have formats : entry.formats ≠ [] ↔ ∃ row ∈ named results, clientOf row = entry.implementation ∧
      ∃ format, DeclaresReadably files row format := by
    apply Iff.intro
    · intro some
      obtain ⟨item, member⟩ := List.exists_mem_of_ne_nil _ some
      obtain ⟨row, inRows, isClient, declares⟩ := (some_declaration files results entry.implementation item.format).mp
        ((known.formats.2 item.format).mp (List.mem_map_of_mem member))
      exact ⟨row, inRows, isClient, item.format, declares⟩
    · intro ⟨row, inRows, isClient, format, declares⟩ none
      have listed := (known.formats.2 format).mpr
        ((some_declaration files results entry.implementation format).mpr ⟨row, inRows, isClient, declares⟩)
      rw [none] at listed
      cases listed
  have claims := some_claim files results entry.implementation
  rw [← known.unreadable] at claims
  rw [Bool.or_eq_true, Bool.not_eq_true', Bool.not_eq_true', List.isEmpty_eq_false_iff, List.isEmpty_eq_false_iff, formats,
    claims]
  apply Iff.intro
  · intro either
    cases either with
    | inl readable =>
        obtain ⟨row, inRows, isClient, declares⟩ := readable
        exact ⟨row, inRows, isClient, Or.inl declares⟩
    | inr unreadable =>
        obtain ⟨row, inRows, isClient, declares⟩ := unreadable
        exact ⟨row, inRows, isClient, Or.inr declares⟩
  · intro ⟨row, inRows, isClient, declares⟩
    cases declares with
    | inl readable => exact Or.inl ⟨row, inRows, isClient, readable⟩
    | inr unreadable => exact Or.inr ⟨row, inRows, isClient, unreadable⟩

theorem declaring_case (files : CaseFiles) (results : List Fields) (clientImpl : String)
    (declares : Declares files results clientImpl) : clientImpl ∈ orderedClients (caseDeclarations files results) := by
  obtain ⟨row, inRows, isClient, declared⟩ := declares
  have recorded : (caseOf files row).recorded = true := by
    cases declared with
    | inl readable =>
        obtain ⟨format, listed⟩ := readable
        have some : (caseOf files row).declared ≠ [] :=
          List.ne_nil_of_mem ((mem_declared (serverSummary files row) format).mpr listed)
        simp [Case.recorded, some]
    | inr unreadable =>
        obtain ⟨entry, listed⟩ := unreadable
        have some : (caseOf files row).unreadable ≠ [] := List.ne_nil_of_mem ((mem_unreadable files row entry).mpr listed)
        simp [Case.recorded, some]
  rw [mem_ordered_clients]
  exact ⟨caseOf files row, (mem_cases files results _).mpr ⟨row, inRows, rfl, recorded⟩, isClient⟩

theorem collected_joined (files : CaseFiles) (results : List Fields) (payload : DeclaredFormats)
    (distinctNames : ((named results).map caseNameOf).Nodup)
    (made : collectDeclaredFormats files results = .ok payload) : Joined files results payload := by
  obtain ⟨entries, ran, published⟩ := collected files results payload made
  have members := map_steps_members _ _ _ ran
  have entryOf : ∀ entry ∈ entries, EntryOf entry.implementation
      (casesOf (caseDeclarations files results) entry.implementation) entry := by
    intro entry member
    obtain ⟨clientImpl, _, built⟩ := members.1 entry member
    have known := implementation_entry_ok clientImpl _ entry built
    rw [known.client]
    exact known
  have names : (payload.implementations.map ImplementationEntry.implementation).Nodup := by
    have clients := map_steps_view _ ImplementationEntry.implementation id
      (fun clientImpl entry built => (implementation_entry_ok clientImpl _ entry built).client) _ _ ran
    rw [List.map_id] at clients
    rw [published]
    exact (clients ▸ nodup_ordered_clients _).sublist (List.filter_sublist.map _)
  have isPublished (entry : ImplementationEntry) :
      entry ∈ payload.implementations ↔ entry ∈ entries ∧ Declares files results entry.implementation := by
    rw [published, List.mem_filter]
    apply Iff.intro
    · intro ⟨member, kept⟩
      exact ⟨member, (published_iff files results entry (entryOf entry member)).mp kept⟩
    · intro ⟨member, declares⟩
      exact ⟨member, (published_iff files results entry (entryOf entry member)).mpr declares⟩
  refine ⟨?_, ?_, ?_⟩
  · intro clientImpl declares
    obtain ⟨entry, member, built⟩ := members.2 clientImpl (declaring_case files results clientImpl declares)
    have isClient := (implementation_entry_ok clientImpl _ entry built).client
    refine found_once payload.implementations ImplementationEntry.implementation clientImpl names ?_
    rw [← isClient]
    exact List.mem_map_of_mem ((isPublished entry).mpr ⟨member, isClient ▸ declares⟩)
  · intro entry member
    exact ((isPublished entry).mp member).2
  · intro entry member
    exact entry_joined files results entry distinctNames (entryOf entry ((isPublished entry).mp member).1)

-- The join is published, and right, unless a declared sample rate is too large to label.
theorem declared_formats_joined (files : CaseFiles) (results : List Fields)
    (distinctNames : ((named results).map caseNameOf).Nodup) :
    (∃ payload, collectDeclaredFormats files results = .ok payload ∧ Joined files results payload) ↔
      ∀ row ∈ named results, ∀ format, DeclaresReadably files row format → Labelled format := by
  rw [← collect_total]
  apply Iff.intro
  · intro ⟨payload, made, _⟩
    exact ⟨payload, made⟩
  · intro ⟨payload, made⟩
    exact ⟨payload, made, collected_joined files results payload distinctNames made⟩

-- A case whose client lists one pcm format.
def oneFormat (sampleRate : Int) : CaseFiles := fun _ fileName =>
  if fileName = "server-summary.json" then
    some (.obj [("peer_hello", .obj [("payload", .obj [("player@v1_support", .obj [("supported_formats",
      .arr [.obj [("codec", .str "pcm"), ("sample_rate", .int sampleRate), ("bit_depth", .int 16),
        ("channels", .int 2)]])])])])])
  else none

def oneRow : Fields := [("case_dir", .str "out/case"), ("client_impl", .str "sendspin-js")]

omit [UnicodeData] [CaseFolding] in
theorem one_row_named : @named noUnicode [oneRow] = [oneRow] := by
  have isNamed : (@caseNameOf noUnicode oneRow != "") = true := by decide +kernel
  unfold named
  simp only [List.filter_cons, isNamed, if_true, List.filter_nil]

omit [UnicodeData] [CaseFolding] in
theorem one_format_declared (sampleRate : Int) (format : AudioFormat) :
    @DeclaresReadably noUnicode noFolding (oneFormat sampleRate) oneRow format ↔
      format = ⟨"pcm", sampleRate, 16, 2⟩ := by
  have read : @normalizedFormat noFolding (.obj [("codec", .str "pcm"), ("sample_rate", .int sampleRate),
      ("bit_depth", .int 16), ("channels", .int 2)]) = some ⟨"pcm", sampleRate, 16, 2⟩ := rfl
  have listed : supportedFormats (@serverSummary noUnicode (oneFormat sampleRate) oneRow) =
      .arr [.obj [("codec", .str "pcm"), ("sample_rate", .int sampleRate), ("bit_depth", .int 16),
        ("channels", .int 2)]] := rfl
  unfold DeclaresReadably
  simp [listed, read, eq_comm]

-- A client that declares pcm and an entry that cannot be read, the same client using what it declares, and
-- another one that declares nothing readable.
def threeCases : CaseFiles := fun caseName fileName =>
  let pcm : Json := .obj [("codec", .str "pcm"), ("sample_rate", .int 48000), ("bit_depth", .int 16), ("channels", .int 2)]
  let hello (entries : List Json) : String × Json :=
    ("peer_hello", .obj [("payload", .obj [("player@v1_support", .obj [("supported_formats", .arr entries)])])])
  if caseName = "declares" ∧ fileName = "server-summary.json" then some (.obj [hello [pcm, .str "flac"]])
  else if caseName = "exercises" ∧ fileName = "server-summary.json" then some (.obj [hello [pcm], ("stream", pcm)])
  else if caseName = "exercises" ∧ fileName = "client-summary.json" then some (.obj [("stream", pcm)])
  else if caseName = "unreadable" ∧ fileName = "server-summary.json" then some (.obj [hello [.null]])
  else none

def threeRows : List Fields :=
  [[("case_dir", .str "out/declares"), ("client_impl", .str "sendspin-js")],
    [("case_dir", .str "out/exercises"), ("client_impl", .str "sendspin-js")],
    [("case_dir", .str "out/unreadable"), ("client_impl", .str "sendspin-rs")]]

omit [UnicodeData] [CaseFolding] in
theorem three_rates (row : Fields) (inRows : row ∈ @named noUnicode threeRows) (format : AudioFormat)
    (declares : @DeclaresReadably noUnicode noFolding threeCases row format) : format.sampleRate = 48000 := by
  have listed : ∀ row ∈ threeRows, ∀ format ∈ (@declaredFormats noFolding (@serverSummary noUnicode threeCases row)).1,
      format.sampleRate = 48000 := by decide +kernel
  exact listed row (List.mem_filter.mp inRows).1 format ((@mem_declared noFolding _ _).mpr declares)

omit [UnicodeData] [CaseFolding] in
theorem three_cases_joined : ∃ payload,
    @collectDeclaredFormats noUnicode noFolding threeCases threeRows = .ok payload ∧
      @Joined noUnicode noFolding threeCases threeRows payload := by
  have quotient : ((48000 : Int) : Rat) / 1000 = 48 := by norm_num
  have small : roundTo .binary64 48 = 48 := @round_to_exact .binary64 48 ⟨48, 0, by norm_num, by decide, by decide⟩
  refine (@declared_formats_joined noUnicode noFolding threeCases threeRows (by decide +kernel)).mpr ?_
  intro row inRows format declares
  rw [Labelled, three_rates row inRows format declares, quotient, small]
  exact lt_of_lt_of_le (by norm_num : |(48 : Rat)| < 2 ^ 6) (pow_le_pow_right₀ (by norm_num) (by norm_num))

omit [UnicodeData] [CaseFolding] in
-- A sample rate whose thousandth is 2 ^ 1024: the whole join raises.
theorem large_rate_raises : ∃ raised,
    @collectDeclaredFormats noUnicode noFolding (oneFormat (1000 * 2 ^ 1024)) [oneRow] = .error raised := by
  have quotient : ((1000 * 2 ^ 1024 : Int) : Rat) / 1000 = 2 ^ 1024 := by
    rw [Int.cast_mul, Int.cast_pow, Int.cast_ofNat, Int.cast_ofNat]
    exact mul_div_cancel_left₀ _ (by norm_num)
  have power : (2 : Rat) ^ 1024 = (1 : Int) * 2 ^ (1024 : Int) := by
    rw [Int.cast_one, one_mul]
    exact (zpow_natCast 2 1024).symm
  have large : roundTo .binary64 (2 ^ 1024) = 2 ^ 1024 :=
    @round_to_exact .binary64 _ ⟨1, 1024, power, by decide, by decide⟩
  cases made : @collectDeclaredFormats noUnicode noFolding (oneFormat (1000 * 2 ^ 1024)) [oneRow] with
  | error raised => exact ⟨raised, rfl⟩
  | ok payload =>
      have labelled := (@collect_total noUnicode noFolding _ _).mp ⟨payload, made⟩ oneRow
        (by rw [one_row_named]; exact List.mem_singleton_self _) _ ((one_format_declared _ _).mpr rfl)
      rw [Labelled, quotient, large, abs_of_pos (by positivity)] at labelled
      exact absurd labelled (lt_irrefl _)

end Conformance.Harness
