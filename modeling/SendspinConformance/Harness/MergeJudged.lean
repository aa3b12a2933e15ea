import Mathlib.Data.List.Duplicate
import SendspinConformance.Base.Runs
import SendspinConformance.Harness.Merge

set_option autoImplicit false

namespace Conformance.Harness

open Python Base

variable [UnicodeData]

-- The rows of an input's index that name a case directory.
def namedRows (rows : List Json) : List Fields :=
  (rows.filterMap Json.asObj).filter fun row => caseNameOf row != ""

-- The list a report holds under a key, empty where it holds none.
def itemsIn (report : Option (Py Json)) (key : String) : List Json :=
  match listIn report key with
  | .ok (some items) => items
  | _ => []

-- isinstance(source_results, list)
def isListed (source : DataDir) : Bool :=
  match listIn (some source.index) "results" with
  | .ok (some _) => true
  | _ => false

def rowsOf (source : DataDir) : List Fields := namedRows (itemsIn (some source.index) "results")

-- What an input reports counts only where its results are a list.
def reportedOf (source : DataDir) : List Fields :=
  if isListed source then (itemsIn source.repositories "repositories").filterMap Json.asObj else []

def logsOf (source : DataDir) : List String := if isListed source then source.buildLogs else []

def namesOf (source : DataDir) : List String := (rowsOf source).map caseNameOf

def environmentsOf (repository : Fields) : List Json :=
  match getKey repository "environments" with
  | .arr environments => environments
  | _ => []

def IsReport (report : Py Json) : Prop := ∃ fields, report = .ok (.obj fields)

-- Its environments, where it has any, are a list of objects.
def Shaped (repository : Fields) : Prop :=
  hasKey repository "environments" = true → ∃ environments, getKey repository "environments" = .arr environments ∧
    ∀ environment ∈ environments, environment.isObj = true

-- A results directory as the harness leaves it.
structure Valid (source : DataDir) : Prop where
  index : IsReport source.index
  report : ∀ report, source.buildReport = some report → IsReport report
  repositories : ∀ report, source.repositories = some report → IsReport report
  cases : ∀ row ∈ rowsOf source, caseNameOf row ∉ takenNames ∧
    ∀ outcome, source.copied (caseNameOf row) = some outcome → outcome = .ok ()
  environments : ∀ repository ∈ (itemsIn source.repositories "repositories").filterMap Json.asObj, Shaped repository
  logs : source.buildLogs.Nodup

omit [UnicodeData] in
-- A text that stands in the list more than once.
theorem duplicate_of_seen (name : String) (before after : List String) (seen : name ∈ before) :
    List.Duplicate name (before ++ name :: after) := by
  rw [List.duplicate_iff_two_le_count, List.count_append, List.count_cons_self]
  have counted := List.count_pos_iff.mpr seen
  omega

section rows

variable (dataDir : String) (source : DataDir)

theorem row_copied (merged : Merged) (row : Fields) (named : caseNameOf row ≠ "")
    (free : caseNameOf row ∉ takenNames)
    (copies : ∀ outcome, source.copied (caseNameOf row) = some outcome → outcome = .ok ())
    (unseen : caseNameOf row ∉ merged.seenCases) :
    ∃ next, copyRow dataDir source merged (.obj row) = .ok next ∧ next.seenCases = merged.seenCases ++ [caseNameOf row] ∧
      next.results = merged.results ++ [placedRow dataDir row] ∧ next.builds = merged.builds ∧
      next.repositories = merged.repositories ∧ next.buildLogs = merged.buildLogs := by
  have copied : copyCase dataDir source (caseNameOf row) = .ok () := by
    rw [copyCase]
    cases found : source.copied (caseNameOf row) with
    | none => rfl
    | some outcome =>
        dsimp only
        rw [if_neg (by simpa using free)]
        exact copies outcome found
  refine ⟨{ merged with
    seenCases := merged.seenCases ++ [caseNameOf row]
    results := merged.results ++ [placedRow dataDir row]
    rewritten :=
      if (source.copied (caseNameOf row)).isSome && source.hasResult (caseNameOf row) then
        merged.rewritten ++ [(caseNameOf row, placedRow dataDir row)]
      else merged.rewritten }, ?_, rfl, rfl, rfl, rfl, rfl⟩
  simp only [copyRow, Json.asObj, if_neg named, List.contains_eq_mem, decide_eq_true_eq, if_neg unseen, copied]
  rfl

-- The rows of an index go in as they stand, until a name comes again.
theorem rows_copied (rows : List Json) (merged : Merged)
    (cases : ∀ row ∈ namedRows rows, caseNameOf row ∉ takenNames ∧
      ∀ outcome, source.copied (caseNameOf row) = some outcome → outcome = .ok ())
    (distinct : merged.seenCases.Nodup) :
    (∃ next, rows.foldlM (copyRow dataDir source) merged = .ok next ∧
      next.seenCases = merged.seenCases ++ (namedRows rows).map caseNameOf ∧ next.seenCases.Nodup ∧
      next.results = merged.results ++ (namedRows rows).map (placedRow dataDir) ∧ next.builds = merged.builds ∧
      next.repositories = merged.repositories ∧ next.buildLogs = merged.buildLogs) ∨
    ∃ name, rows.foldlM (copyRow dataDir source) merged = .error (duplicateCase name) ∧
      List.Duplicate name (merged.seenCases ++ (namedRows rows).map caseNameOf) := by
  induction rows generalizing merged with
  | nil => exact .inl ⟨merged, rfl, by simp [namedRows], distinct, by simp [namedRows], rfl, rfl, rfl⟩
  | cons value rest ih =>
      rw [List.foldlM_cons]
      cases isRow : value.asObj with
      | none =>
          have same : namedRows (value :: rest) = namedRows rest := by simp [namedRows, isRow]
          have skipped : copyRow dataDir source merged value = .ok merged := by rw [copyRow, isRow]
          rw [same] at cases ⊢
          rw [skipped]
          exact ih merged cases distinct
      | some row =>
          by_cases unnamed : caseNameOf row = ""
          · have same : namedRows (value :: rest) = namedRows rest := by simp [namedRows, isRow, unnamed]
            have skipped : copyRow dataDir source merged value = .ok merged := by
              rw [copyRow, isRow]
              exact if_pos unnamed
            rw [same] at cases ⊢
            rw [skipped]
            exact ih merged cases distinct
          · have more : namedRows (value :: rest) = row :: namedRows rest := by simp [namedRows, isRow, unnamed]
            rw [more] at cases ⊢
            rw [List.map_cons, List.map_cons]
            by_cases seen : caseNameOf row ∈ merged.seenCases
            · refine .inr ⟨caseNameOf row, ?_, duplicate_of_seen _ _ _ seen⟩
              have refused : copyRow dataDir source merged value = .error (duplicateCase (caseNameOf row)) := by
                rw [copyRow, isRow]
                simp [unnamed, seen]
              rw [refused]
              rfl
            · obtain ⟨free, copies⟩ := cases row List.mem_cons_self
              rw [Json.as_obj_some] at isRow
              obtain ⟨next, copied, names, results, builds, repositories, buildLogs⟩ :=
                row_copied dataDir source merged row unnamed free copies seen
              have nextDistinct : next.seenCases.Nodup := by
                rw [names, List.nodup_append]
                refine ⟨distinct, List.nodup_singleton _, ?_⟩
                intro name earlier other last
                rw [List.mem_singleton.mp last]
                exact fun same => seen (same ▸ earlier)
              rw [isRow, copied]
              obtain ⟨final, ran, allNames, allDistinct, allResults, sameBuilds, sameRepositories, sameLogs⟩ |
                ⟨name, raised, again⟩ :=
                  ih next (fun other member => cases other (List.mem_cons_of_mem row member)) nextDistinct
              · refine .inl ⟨final, ran, ?_, allDistinct, ?_, sameBuilds.trans builds, sameRepositories.trans repositories,
                  sameLogs.trans buildLogs⟩
                · rw [allNames, names, List.append_assoc]
                  rfl
                · rw [allResults, results, List.append_assoc]
                  rfl
              · refine .inr ⟨name, raised, ?_⟩
                rw [names, List.append_assoc] at again
                exact again

end rows

omit [UnicodeData] in
theorem logs_copied (logs copied : List String) (distinct : copied.Nodup) :
    (logs.foldlM copyBuildLog copied = .ok (copied ++ logs) ∧ (copied ++ logs).Nodup) ∨
    ∃ name, logs.foldlM copyBuildLog copied = .error (duplicateLog name) ∧ List.Duplicate name (copied ++ logs) := by
  induction logs generalizing copied with
  | nil => exact .inl ⟨by simp [pure, Except.pure], by simpa using distinct⟩
  | cons name rest ih =>
      rw [List.foldlM_cons, copyBuildLog]
      by_cases seen : name ∈ copied
      · refine .inr ⟨name, ?_, duplicate_of_seen name copied rest seen⟩
        rw [if_pos (by simpa using seen)]
        rfl
      · have longer : (copied ++ [name]).Nodup := by
          rw [List.nodup_append]
          refine ⟨distinct, List.nodup_singleton _, ?_⟩
          intro other earlier last isLast same
          rw [List.mem_singleton.mp isLast] at same
          exact seen (same ▸ earlier)
        rw [if_neg (by simpa using seen)]
        have spelled : copied ++ name :: rest = copied ++ [name] ++ rest := by simp
        rw [spelled]
        exact ih (copied ++ [name]) longer

section repositories

omit [UnicodeData]

theorem get_key_cons (field : String × Json) (rest : Fields) (key : String) :
    getKey (field :: rest) key = if key = field.1 then field.2 else getKey rest key := by
  obtain ⟨name, value⟩ := field
  rw [getKey, List.lookup_cons]
  by_cases same : key = name
  · rw [if_pos same, beq_iff_eq.mpr same]
    rfl
  · rw [if_neg same, beq_false_of_ne same]
    rfl

theorem get_assign_key (fields : Fields) (key : String) (value : Json) (other : String) :
    getKey (assignKey key value fields) other = if other = key then value else getKey fields other := by
  induction fields with
  | nil => exact get_key_cons _ _ _
  | cons field rest ih =>
      rw [assignKey]
      by_cases here : field.1 = key
      · rw [if_pos here, get_key_cons, get_key_cons, here]
        by_cases same : other = key
        · rw [if_pos same, if_pos same]
        · rw [if_neg same, if_neg same, if_neg same]
      · rw [if_neg here, get_key_cons, get_key_cons, ih]
        by_cases isField : other = field.1
        · have apart : other ≠ key := fun same => here (isField ▸ same)
          rw [if_pos isField, if_pos isField, if_neg apart]
        · rw [if_neg isField, if_neg isField]

theorem has_assign_key (fields : Fields) (key : String) (value : Json) : hasKey (assignKey key value fields) key = true := by
  induction fields with
  | nil => simp [assignKey, hasKey, dictKeys]
  | cons field rest ih =>
      rw [assignKey]
      by_cases here : field.1 = key
      · rw [if_pos here]
        simp [hasKey, dictKeys]
      · rw [if_neg here]
        simp only [hasKey, dictKeys, List.map_cons, List.contains_cons] at ih ⊢
        rw [ih, Bool.or_true]

-- A list of environments takes in one it holds no equal of.
def joinEnvironment (existing : List Json) (environment : Json) : List Json :=
  if existing.any fun other => pyEqual other environment then existing else existing ++ [environment]

theorem environments_added (incoming existing : List Json) (objects : ∀ environment ∈ incoming, environment.isObj = true) :
    incoming.foldlM addEnvironment (.arr existing) = .ok (.arr (incoming.foldl joinEnvironment existing)) := by
  induction incoming generalizing existing with
  | nil => rfl
  | cons environment rest ih =>
      have added : addEnvironment (.arr existing) environment = .ok (.arr (joinEnvironment existing environment)) := by
        rw [addEnvironment, if_pos (objects environment List.mem_cons_self)]
        rfl
      rw [List.foldlM_cons, added]
      exact ih _ fun other member => objects other (List.mem_cons_of_mem environment member)

-- Environments added to a list, each no equal of one before it.
def AddedOnce (first added : List Json) : Prop :=
  added.Pairwise (fun other environment => pyEqual other environment = false) ∧
    ∀ environment ∈ added, ∀ other ∈ first, pyEqual other environment = false

theorem added_once_trans (first added more : List Json) (earlier : AddedOnce first added)
    (later : AddedOnce (first ++ added) more) : AddedOnce first (added ++ more) := by
  constructor
  · refine List.pairwise_append.mpr ⟨earlier.1, later.1, ?_⟩
    exact fun other inAdded environment inMore => later.2 environment inMore other (List.mem_append_right first inAdded)
  · intro environment member other inFirst
    cases List.mem_append.mp member with
    | inl inAdded => exact earlier.2 environment inAdded other inFirst
    | inr inMore => exact later.2 environment inMore other (List.mem_append_left added inFirst)

-- Environments as a set: none is lost but to an equal one, none is made up and none is added twice.
structure United (first second union : List Json) : Prop where
  kept : first ⊆ union
  joined : ∀ environment ∈ second, ∃ other ∈ union, other = environment ∨ pyEqual other environment = true
  made : ∀ environment ∈ union, environment ∈ first ∨ environment ∈ second
  once : ∃ added, union = first ++ added ∧ AddedOnce first added

theorem united_alone (first : List Json) : United first [] first :=
  ⟨List.Subset.refl _, by simp, fun _ member => .inl member, [], (List.append_nil first).symm, List.Pairwise.nil, by simp⟩

theorem environments_united (incoming existing : List Json) :
    United existing incoming (incoming.foldl joinEnvironment existing) := by
  induction incoming generalizing existing with
  | nil => exact united_alone existing
  | cons environment rest ih =>
      rw [List.foldl_cons]
      obtain ⟨kept, joined, made, added, split, once⟩ := ih (joinEnvironment existing environment)
      have grown : existing ⊆ joinEnvironment existing environment := by
        rw [joinEnvironment]
        split
        · exact List.Subset.refl _
        · exact List.subset_append_left _ _
      refine ⟨List.Subset.trans grown kept, ?_, ?_, ?_⟩
      · intro other member
        cases List.mem_cons.mp member with
        | inr later => exact joined other later
        | inl first =>
            rw [first]
            by_cases known : (existing.any fun other => pyEqual other environment) = true
            · obtain ⟨equal, inExisting, same⟩ := List.any_eq_true.mp known
              exact ⟨equal, kept (grown inExisting), .inr same⟩
            · refine ⟨environment, kept ?_, .inl rfl⟩
              rw [joinEnvironment, if_neg known]
              exact List.mem_append_right _ (List.mem_singleton.mpr rfl)
      · intro other member
        cases made other member with
        | inr later => exact .inr (List.mem_cons_of_mem environment later)
        | inl held =>
            rw [joinEnvironment] at held
            split at held
            · exact .inl held
            · cases List.mem_append.mp held with
              | inl inExisting => exact .inl inExisting
              | inr last => exact .inr (by rw [List.mem_singleton.mp last]; exact List.mem_cons_self)
      · rw [split]
        by_cases known : (existing.any fun other => pyEqual other environment) = true
        · rw [joinEnvironment, if_pos known] at once ⊢
          exact ⟨added, rfl, once⟩
        · rw [joinEnvironment, if_neg known] at once ⊢
          refine ⟨[environment] ++ added, List.append_assoc _ _ _, added_once_trans existing _ added ⟨?_, ?_⟩ once⟩
          · exact List.pairwise_singleton _ _
          · intro one isOne other inExisting
            rw [List.mem_singleton.mp isOne]
            exact Bool.eq_false_iff.mpr fun same => known (List.any_eq_true.mpr ⟨other, inExisting, same⟩)

theorem entry_defaulted (entry : Fields) (shaped : Shaped entry) :
    ∃ defaulted, (if hasKey entry "environments" then entry else assignKey "environments" (.arr []) entry) = defaulted ∧
      getKey defaulted "environments" = .arr (environmentsOf entry) ∧ hasKey defaulted "environments" = true ∧
      (∀ environment ∈ environmentsOf entry, environment.isObj = true) ∧
      ∀ key, key ≠ "environments" → getKey defaulted key = getKey entry key := by
  by_cases held : hasKey entry "environments" = true
  · obtain ⟨environments, found, objects⟩ := shaped held
    have same : environmentsOf entry = environments := by rw [environmentsOf, found]
    refine ⟨entry, if_pos held, ?_, held, ?_, fun _ _ => rfl⟩
    · rw [same, found]
    · rw [same]
      exact objects
  · have none : environmentsOf entry = [] := by
      rw [environmentsOf, get_key_absent entry "environments" (Bool.eq_false_iff.mpr held)]
    refine ⟨assignKey "environments" (.arr []) entry, if_neg held, ?_, has_assign_key _ _ _, ?_, ?_⟩
    · rw [get_assign_key, if_pos rfl, none]
    · rw [none]
      simp
    · intro key other
      rw [get_assign_key, if_neg other]

-- A repository seen again leaves its first entry as it was, with its environments joined in.
theorem first_entry_joined (entry repository : Fields) (shaped : Shaped entry) (more : Shaped repository) :
    ∃ joined, addEnvironments entry repository = .ok joined ∧ Shaped joined ∧
      United (environmentsOf entry) (environmentsOf repository) (environmentsOf joined) ∧
      ∀ key, key ≠ "environments" → getKey joined key = getKey entry key := by
  obtain ⟨defaulted, isDefaulted, held, has, objects, others⟩ := entry_defaulted entry shaped
  have keptAlone : environmentsOf defaulted = environmentsOf entry := by rw [environmentsOf, held]
  have shapedAlone : Shaped defaulted := fun _ => ⟨environmentsOf entry, held, objects⟩
  rw [addEnvironments, isDefaulted]
  cases incoming : getKey repository "environments" with
  | arr environments =>
      have moreHeld : environmentsOf repository = environments := by rw [environmentsOf, incoming]
      have moreObjects : ∀ environment ∈ environments, environment.isObj = true := by
        have has : hasKey repository "environments" = true := by
          by_contra absent
          rw [get_key_absent repository "environments" (Bool.eq_false_iff.mpr absent)] at incoming
          cases incoming
        obtain ⟨other, found, all⟩ := more has
        rw [incoming] at found
        rw [Json.arr.inj found]
        exact all
      have united := environments_united environments (environmentsOf entry)
      have joinedHeld : environmentsOf (assignKey "environments"
          (.arr (environments.foldl joinEnvironment (environmentsOf entry))) defaulted) =
          environments.foldl joinEnvironment (environmentsOf entry) := by
        rw [environmentsOf, get_assign_key, if_pos rfl]
      refine ⟨assignKey "environments" (.arr (environments.foldl joinEnvironment (environmentsOf entry))) defaulted,
        ?_, ?_, ?_, ?_⟩
      · dsimp only
        rw [held, environments_added environments _ moreObjects]
        rfl
      · intro _
        refine ⟨_, by rw [get_assign_key, if_pos rfl], ?_⟩
        intro environment member
        cases united.made environment member with
        | inl first => exact objects environment first
        | inr second => exact moreObjects environment second
      · rw [joinedHeld, moreHeld]
        exact united
      · intro key other
        rw [get_assign_key, if_neg other]
        exact others key other
  | _ =>
      have none : environmentsOf repository = [] := by rw [environmentsOf, incoming]
      refine ⟨defaulted, rfl, shapedAlone, ?_, others⟩
      rw [keptAlone, none]
      exact united_alone _

end repositories

theorem index_key_congr (first second : Fields)
    (same : ∀ key, key ≠ "environments" → getKey first key = getKey second key) : indexKey first = indexKey second := by
  rw [indexKey, indexKey, textOf, textOf, same "key" (by decide), same "commit_sha" (by decide), same "reason" (by decide),
    same "repo_path" (by decide)]

-- The merged repositories against the entries the inputs report.
structure JoinedRepositories (reported : List Fields) (repositories : Repositories) : Prop where
  named : ∀ entry ∈ repositories, indexKey entry.2 = entry.1
  keys : ∀ index, index ∈ repositories.map Prod.fst ↔ ∃ repository ∈ reported, indexKey repository = index
  once : (repositories.map Prod.fst).Nodup
  shaped : ∀ entry ∈ repositories, Shaped entry.2
  recorded : ∀ entry ∈ repositories, ∀ environment ∈ environmentsOf entry.2,
    ∃ repository ∈ reported, indexKey repository = entry.1 ∧ environment ∈ environmentsOf repository
  united : ∀ entry ∈ repositories, ∀ repository ∈ reported, indexKey repository = entry.1 →
    ∀ environment ∈ environmentsOf repository, ∃ other ∈ environmentsOf entry.2,
      other = environment ∨ pyEqual other environment = true
  -- what is listed twice is listed twice by the first repository of the key and identity
  listed : ∀ entry ∈ repositories, ∃ first added, reported.find? (fun repository => indexKey repository = entry.1) = some first ∧
    environmentsOf entry.2 = environmentsOf first ++ added ∧ AddedOnce (environmentsOf first) added

theorem repository_merged (repository : Fields) (repositories : Repositories)
    (shaped : ∀ entry ∈ repositories, Shaped entry.2) (more : Shaped repository) :
    ∃ next, mergeRepository repository repositories = .ok next ∧
      (indexKey repository ∉ repositories.map Prod.fst ∧ next = repositories ++ [(indexKey repository, repository)] ∨
      ∃ before entry joined after, repositories = before ++ (indexKey repository, entry) :: after ∧
        next = before ++ (indexKey repository, joined) :: after ∧ addEnvironments entry repository = .ok joined) := by
  induction repositories with
  | nil => exact ⟨_, rfl, .inl ⟨by simp, rfl⟩⟩
  | cons entry rest ih =>
      obtain ⟨index, fields⟩ := entry
      rw [mergeRepository]
      by_cases here : index = indexKey repository
      · obtain ⟨joined, ran, _⟩ := first_entry_joined fields repository (shaped _ List.mem_cons_self) more
        rw [if_pos here, ran]
        exact ⟨(index, joined) :: rest, rfl, .inr ⟨[], fields, joined, rest, by rw [here]; rfl, by rw [here]; rfl, ran⟩⟩
      · obtain ⟨others, ran, added⟩ := ih fun other member => shaped other (List.mem_cons_of_mem _ member)
        rw [if_neg here, ran]
        refine ⟨(index, fields) :: others, rfl, ?_⟩
        obtain ⟨absent, rfl⟩ | ⟨before, entry, joined, after, rfl, rfl, joins⟩ := added
        · refine .inl ⟨?_, rfl⟩
          rw [List.map_cons, List.mem_cons]
          rintro (first | later)
          · exact here first.symm
          · exact absent later
        · exact .inr ⟨(index, fields) :: before, entry, joined, after, rfl, rfl, joins⟩

-- An entry of a key and identity not met yet.
theorem joined_new (reported : List Fields) (repositories : Repositories) (inv : JoinedRepositories reported repositories)
    (repository : Fields) (more : Shaped repository) (absent : indexKey repository ∉ repositories.map Prod.fst) :
    JoinedRepositories (reported ++ [repository]) (repositories ++ [(indexKey repository, repository)]) := by
  refine ⟨?_, ?_, ?_, ?_, ?_, ?_, ?_⟩
  · intro entry member
    cases List.mem_append.mp member with
    | inl held => exact inv.named entry held
    | inr last => rw [List.mem_singleton.mp last]
  · intro index
    rw [List.map_append, List.mem_append, inv.keys]
    simp [or_and_right, exists_or, eq_comm]
  · rw [List.map_append, List.nodup_append]
    refine ⟨inv.once, List.nodup_singleton _, ?_⟩
    rintro index held other last rfl
    rw [List.mem_singleton.mp last] at held
    exact absent held
  · intro entry member
    cases List.mem_append.mp member with
    | inl held => exact inv.shaped entry held
    | inr last =>
        rw [List.mem_singleton.mp last]
        exact more
  · intro entry member environment inEntry
    cases List.mem_append.mp member with
    | inl held =>
        obtain ⟨source, inReported, same, recorded⟩ := inv.recorded entry held environment inEntry
        exact ⟨source, List.mem_append_left _ inReported, same, recorded⟩
    | inr last =>
        rw [List.mem_singleton.mp last] at inEntry ⊢
        exact ⟨repository, by simp, rfl, inEntry⟩
  · intro entry member source inReported same environment recorded
    cases List.mem_append.mp member with
    | inl held =>
        cases List.mem_append.mp inReported with
        | inl earlier => exact inv.united entry held source earlier same environment recorded
        | inr last =>
            rw [List.mem_singleton.mp last] at same
            exact absurd (List.mem_map.mpr ⟨entry, held, same.symm⟩) absent
    | inr last =>
        rw [List.mem_singleton.mp last] at same ⊢
        cases List.mem_append.mp inReported with
        | inl earlier => exact absurd ((inv.keys _).mpr ⟨source, earlier, same⟩) absent
        | inr isLast =>
            rw [List.mem_singleton.mp isLast] at recorded
            exact ⟨environment, recorded, .inl rfl⟩
  · intro entry member
    rw [List.find?_append]
    cases List.mem_append.mp member with
    | inl held =>
        obtain ⟨first, added, found, split, once⟩ := inv.listed entry held
        exact ⟨first, added, by rw [found]; rfl, split, once⟩
    | inr last =>
        rw [List.mem_singleton.mp last]
        have earlier : reported.find? (fun other => indexKey other = indexKey repository) = none := by
          rw [List.find?_eq_none]
          intro other inReported same
          exact absent ((inv.keys _).mpr ⟨other, inReported, of_decide_eq_true same⟩)
        refine ⟨repository, [], ?_, (List.append_nil _).symm, List.Pairwise.nil, by simp⟩
        rw [earlier]
        simp

-- An entry that joins the first one of its key and identity.
theorem joined_again (reported : List Fields) (repository entry joined : Fields) (before after : Repositories)
    (inv : JoinedRepositories reported (before ++ (indexKey repository, entry) :: after)) (more : Shaped repository)
    (joins : addEnvironments entry repository = .ok joined) :
    JoinedRepositories (reported ++ [repository]) (before ++ (indexKey repository, joined) :: after) := by
  have changed : (indexKey repository, entry) ∈ before ++ (indexKey repository, entry) :: after := by simp
  obtain ⟨other, ranJoin, shapedJoin, ⟨kept, union, made, more, split, apart⟩, others⟩ :=
    first_entry_joined entry repository (inv.shaped _ changed) more
  rw [joins] at ranJoin
  cases ranJoin
  have sameKeys : (before ++ (indexKey repository, joined) :: after).map Prod.fst =
      (before ++ (indexKey repository, entry) :: after).map Prod.fst := by simp
  -- the entries beside the one joined are of other keys
  have cases : ∀ other ∈ before ++ (indexKey repository, joined) :: after,
      other = (indexKey repository, joined) ∨
        other ∈ before ++ (indexKey repository, entry) :: after ∧ other.1 ≠ indexKey repository := by
    intro other member
    have once := inv.once
    rw [List.map_append, List.map_cons, List.nodup_append, List.nodup_cons] at once
    obtain ⟨_, ⟨notAfter, _⟩, apart⟩ := once
    cases List.mem_append.mp member with
    | inl inBefore =>
        refine .inr ⟨List.mem_append_left _ inBefore, ?_⟩
        exact fun same => apart _ (List.mem_map.mpr ⟨other, inBefore, rfl⟩) _ List.mem_cons_self same
    | inr fromHere =>
        cases List.mem_cons.mp fromHere with
        | inl isHere => exact .inl isHere
        | inr inAfter =>
            refine .inr ⟨List.mem_append_right _ (List.mem_cons_of_mem _ inAfter), ?_⟩
            exact fun same => notAfter (List.mem_map.mpr ⟨other, inAfter, same⟩)
  refine ⟨?_, ?_, ?_, ?_, ?_, ?_, ?_⟩
  · intro other member
    obtain rfl | ⟨held, _⟩ := cases other member
    · exact (index_key_congr joined entry others).trans (inv.named _ changed)
    · exact inv.named other held
  · intro index
    rw [sameKeys, inv.keys]
    apply Iff.intro
    · rintro ⟨source, earlier, same⟩
      exact ⟨source, List.mem_append_left _ earlier, same⟩
    · rintro ⟨source, inReported, same⟩
      cases List.mem_append.mp inReported with
      | inl earlier => exact ⟨source, earlier, same⟩
      | inr last =>
          rw [List.mem_singleton.mp last] at same
          rw [← same]
          exact (inv.keys _).mp (List.mem_map.mpr ⟨_, changed, rfl⟩)
  · rw [sameKeys]
    exact inv.once
  · intro other member
    obtain rfl | ⟨held, _⟩ := cases other member
    · exact shapedJoin
    · exact inv.shaped other held
  · intro other member environment inOther
    obtain rfl | ⟨held, _⟩ := cases other member
    · cases made environment inOther with
      | inl first =>
          obtain ⟨source, inReported, same, recorded⟩ := inv.recorded _ changed environment first
          exact ⟨source, List.mem_append_left _ inReported, same, recorded⟩
      | inr second => exact ⟨repository, by simp, rfl, second⟩
    · obtain ⟨source, inReported, same, recorded⟩ := inv.recorded other held environment inOther
      exact ⟨source, List.mem_append_left _ inReported, same, recorded⟩
  · intro other member source inReported same environment recorded
    obtain rfl | ⟨held, apart⟩ := cases other member
    · cases List.mem_append.mp inReported with
      | inl earlier =>
          obtain ⟨equal, inEntry, isEqual⟩ := inv.united _ changed source earlier same environment recorded
          exact ⟨equal, kept inEntry, isEqual⟩
      | inr last =>
          rw [List.mem_singleton.mp last] at recorded
          exact union environment recorded
    · cases List.mem_append.mp inReported with
      | inl earlier => exact inv.united other held source earlier same environment recorded
      | inr last =>
          rw [List.mem_singleton.mp last] at same
          exact absurd same.symm apart
  · intro other member
    rw [List.find?_append]
    obtain rfl | ⟨held, _⟩ := cases other member
    · obtain ⟨first, added, found, splitFirst, once⟩ := inv.listed _ changed
      rw [splitFirst] at split apart
      refine ⟨first, added ++ more, by rw [found]; rfl, ?_, added_once_trans _ _ _ once apart⟩
      rw [split, List.append_assoc]
    · obtain ⟨first, added, found, splitFirst, once⟩ := inv.listed other held
      exact ⟨first, added, by rw [found]; rfl, splitFirst, once⟩

theorem joined_step (reported : List Fields) (repositories : Repositories) (inv : JoinedRepositories reported repositories)
    (repository : Fields) (more : Shaped repository) :
    ∃ next, mergeRepository repository repositories = .ok next ∧ JoinedRepositories (reported ++ [repository]) next := by
  obtain ⟨next, ran, ⟨absent, rfl⟩ | ⟨before, entry, joined, after, rfl, rfl, joins⟩⟩ :=
    repository_merged repository repositories inv.shaped more
  · exact ⟨_, ran, joined_new reported repositories inv repository more absent⟩
  · exact ⟨_, ran, joined_again reported repository entry joined before after inv more joins⟩

theorem repositories_merged (items : List Json) (reported : List Fields) (repositories : Repositories)
    (inv : JoinedRepositories reported repositories) (more : ∀ repository ∈ items.filterMap Json.asObj, Shaped repository) :
    ∃ next, items.foldlM copyRepository repositories = .ok next ∧
      JoinedRepositories (reported ++ items.filterMap Json.asObj) next := by
  induction items generalizing reported repositories with
  | nil => exact ⟨repositories, rfl, by simpa using inv⟩
  | cons value rest ih =>
      rw [List.foldlM_cons, copyRepository]
      cases isRepository : value.asObj with
      | none =>
          have same : (value :: rest).filterMap Json.asObj = rest.filterMap Json.asObj := by simp [isRepository]
          rw [same] at more ⊢
          exact ih reported repositories inv more
      | some repository =>
          have same : (value :: rest).filterMap Json.asObj = repository :: rest.filterMap Json.asObj := by simp [isRepository]
          rw [same] at more ⊢
          obtain ⟨next, ran, joined⟩ := joined_step reported repositories inv repository (more _ List.mem_cons_self)
          obtain ⟨final, ranRest, joinedRest⟩ := ih (reported ++ [repository]) next joined fun other member =>
            more other (List.mem_cons_of_mem repository member)
          dsimp only
          rw [ran]
          exact ⟨final, ranRest, by simpa using joinedRest⟩

omit [UnicodeData] in
theorem listed_report (report : Option (Py Json)) (valid : ∀ payload, report = some payload → IsReport payload)
    (key : String) : ∃ items, listIn report key = .ok items ∧ itemsIn report key = items.getD [] := by
  cases report with
  | none => exact ⟨none, rfl, rfl⟩
  | some payload =>
      obtain ⟨fields, rfl⟩ := valid payload rfl
      cases listed : getKey fields key with
      | arr items =>
          have read : listIn (some (.ok (.obj fields))) key = .ok (some items) := by
            simp [listIn, getField, listed, bind, Except.bind, pure, Except.pure]
          exact ⟨some items, read, by rw [itemsIn, read]; rfl⟩
      | _ =>
          have read : listIn (some (.ok (.obj fields))) key = .ok none := by
            simp [listIn, getField, listed, bind, Except.bind, pure, Except.pure]
          exact ⟨none, read, by rw [itemsIn, read]; rfl⟩

-- The entries of the build reports, which are put one after another.
def buildsOf (source : DataDir) : List Fields :=
  if isListed source then (itemsIn source.buildReport "results").filterMap Json.asObj else []

-- What the merge holds of the inputs it has been through.
structure Gathered (dataDir : String) (done : List DataDir) (merged : Merged) : Prop where
  names : merged.seenCases = done.flatMap namesOf
  distinct : merged.seenCases.Nodup
  results : merged.results = (done.flatMap rowsOf).map (placedRow dataDir)
  builds : merged.builds = done.flatMap buildsOf
  repositories : JoinedRepositories (done.flatMap reportedOf) merged.repositories
  logs : merged.buildLogs = done.flatMap logsOf
  distinctLogs : merged.buildLogs.Nodup

-- Why a merge of valid directories stops.
def Repeated (sources : List DataDir) (raised : PyError) : Prop :=
  (∃ name, raised = duplicateCase name ∧ List.Duplicate name (sources.flatMap namesOf)) ∨
  ∃ name, raised = duplicateLog name ∧ List.Duplicate name (sources.flatMap logsOf)

theorem input_merged (dataDir : String) (done : List DataDir) (merged : Merged) (source : DataDir)
    (inv : Gathered dataDir done merged) (valid : Valid source) :
    (∃ next, mergeInput dataDir merged source = .ok next ∧ Gathered dataDir (done ++ [source]) next) ∨
    ∃ raised, mergeInput dataDir merged source = .error raised ∧ Repeated (done ++ [source]) raised := by
  obtain ⟨listed, readIndex, rows⟩ := listed_report (some source.index) (by rintro _ ⟨⟩; exact valid.index) "results"
  obtain ⟨builds, readBuilds, buildItems⟩ := listed_report source.buildReport valid.report "results"
  obtain ⟨reported, readReported, reportedItems⟩ :=
    listed_report source.repositories valid.repositories "repositories"
  rw [mergeInput, readIndex]
  cases listed with
  | none =>
      have unlisted : isListed source = false := by rw [isListed, readIndex]
      have noRows : rowsOf source = [] := by rw [rowsOf, rows]; rfl
      refine .inl ⟨merged, rfl, ?_⟩
      have same : ∀ {α : Type} (of : DataDir → List α), of source = [] →
          (done ++ [source]).flatMap of = done.flatMap of := by
        intro α of none
        simp [none]
      exact {
        names := by rw [same _ (by rw [namesOf, noRows]; rfl)]; exact inv.names
        distinct := inv.distinct
        results := by rw [same _ noRows]; exact inv.results
        builds := by rw [same _ (by simp [buildsOf, unlisted])]; exact inv.builds
        repositories := by rw [same _ (by simp [reportedOf, unlisted])]; exact inv.repositories
        logs := by rw [same _ (by simp [logsOf, unlisted])]; exact inv.logs
        distinctLogs := inv.distinctLogs }
  | some values =>
      have isIn : isListed source = true := by rw [isListed, readIndex]
      have itsRows : rowsOf source = namedRows values := by rw [rowsOf, rows]; rfl
      have itsBuilds : buildsOf source = (builds.getD []).filterMap Json.asObj := by
        rw [buildsOf, if_pos isIn, buildItems]
      have itsReported : reportedOf source = (reported.getD []).filterMap Json.asObj := by
        rw [reportedOf, if_pos isIn, reportedItems]
      have itsLogs : logsOf source = source.buildLogs := by rw [logsOf, if_pos isIn]
      have snoc : ∀ {α : Type} (of : DataDir → List α), (done ++ [source]).flatMap of = done.flatMap of ++ of source := by
        intro α of
        simp
      have cases := valid.cases
      have shaped := valid.environments
      rw [itsRows] at cases
      rw [reportedItems] at shaped
      obtain ⟨next, copied, names, distinct, results, sameBuilds, sameRepositories, sameLogs⟩ | ⟨name, raised, again⟩ :=
        rows_copied dataDir source values merged cases inv.distinct
      · obtain ⟨repositories, ranRepositories, joined⟩ :=
          repositories_merged (reported.getD []) (done.flatMap reportedOf) next.repositories
            (by rw [sameRepositories]; exact inv.repositories) shaped
        obtain ⟨ranLogs, distinctLogs⟩ | ⟨name, raised, again⟩ :=
          logs_copied source.buildLogs next.buildLogs (by rw [sameLogs]; exact inv.distinctLogs)
        · refine .inl ⟨{ next with
            builds := next.builds ++ (builds.getD []).filterMap Json.asObj
            repositories
            buildLogs := next.buildLogs ++ source.buildLogs }, ?_, ?_⟩
          · simp only [bind, Except.bind, copied, readBuilds, readReported, ranRepositories, ranLogs]
            rfl
          · exact {
              names := by rw [snoc, namesOf, itsRows, names, inv.names]
              distinct
              results := by rw [snoc, List.map_append, itsRows, results, inv.results]
              builds := by rw [snoc, itsBuilds, sameBuilds, inv.builds]
              repositories := by rw [snoc, itsReported]; exact joined
              logs := by rw [snoc, itsLogs, sameLogs, inv.logs]
              distinctLogs }
        · refine .inr ⟨duplicateLog name, ?_, .inr ⟨name, rfl, ?_⟩⟩
          · simp only [bind, Except.bind, copied, readBuilds, readReported, ranRepositories, raised]
          · rw [snoc, itsLogs, ← inv.logs, ← sameLogs]
            exact again
      · refine .inr ⟨duplicateCase name, ?_, .inl ⟨name, rfl, ?_⟩⟩
        · simp only [bind, Except.bind, raised]
        · rw [snoc, namesOf, itsRows, ← inv.names]
          exact again

theorem repeated_more (sources others : List DataDir) (raised : PyError) (again : Repeated sources raised) :
    Repeated (sources ++ others) raised := by
  obtain ⟨name, isCase, twice⟩ | ⟨name, isLog, twice⟩ := again
  · refine .inl ⟨name, isCase, ?_⟩
    rw [List.flatMap_append]
    exact twice.mono_sublist (List.sublist_append_left _ _)
  · refine .inr ⟨name, isLog, ?_⟩
    rw [List.flatMap_append]
    exact twice.mono_sublist (List.sublist_append_left _ _)

theorem inputs_merged (dataDir : String) (sources done : List DataDir) (merged : Merged)
    (inv : Gathered dataDir done merged) (valid : ∀ source ∈ sources, Valid source) :
    (∃ final, sources.foldlM (mergeInput dataDir) merged = .ok final ∧ Gathered dataDir (done ++ sources) final) ∨
    ∃ raised, sources.foldlM (mergeInput dataDir) merged = .error raised ∧ Repeated (done ++ sources) raised := by
  induction sources generalizing done merged with
  | nil => exact .inl ⟨merged, rfl, by simpa using inv⟩
  | cons source rest ih =>
      rw [List.foldlM_cons]
      have spelled : done ++ source :: rest = done ++ [source] ++ rest := by simp
      rw [spelled]
      obtain ⟨next, ran, gathered⟩ | ⟨raised, stopped, again⟩ :=
        input_merged dataDir done merged source inv (valid source List.mem_cons_self)
      · rw [ran]
        exact ih (done ++ [source]) next gathered fun other member => valid other (List.mem_cons_of_mem source member)
      · rw [stopped]
        exact .inr ⟨raised, rfl, repeated_more _ rest raised again⟩

-- The data directories the inputs resolve to.
def resolved (inputs : List (Option DataDir)) : List DataDir := inputs.filterMap id

-- The same environments, whatever their order; how often each merge lists one is in JoinedRepositories.
def SameEnvironments (first second : Fields) : Prop :=
  ∀ environment ∈ environmentsOf first, ∃ other ∈ environmentsOf second,
    other = environment ∨ pyEqual other environment = true

-- The merge loses nothing of its inputs and makes nothing up, in whatever order they come.
structure Conserves (dataDir : String) (inputs : List (Option DataDir)) : Prop where
  repeated : ∀ raised, mergeResultsDirs dataDir inputs = .error raised → Repeated (resolved inputs) raised
  rows : ∀ merged, mergeResultsDirs dataDir inputs = .ok merged →
    merged.results = ((resolved inputs).flatMap rowsOf).map (placedRow dataDir) ∧
      ((resolved inputs).flatMap namesOf).Nodup ∧ ((resolved inputs).flatMap logsOf).Nodup
  repositories : ∀ merged, mergeResultsDirs dataDir inputs = .ok merged →
    JoinedRepositories ((resolved inputs).flatMap reportedOf) merged.repositories
  reordered : ∀ others, others.Perm inputs →
    ((∃ raised, mergeResultsDirs dataDir others = .error raised) ↔
      ∃ raised, mergeResultsDirs dataDir inputs = .error raised) ∧
    ∀ merged other, mergeResultsDirs dataDir inputs = .ok merged → mergeResultsDirs dataDir others = .ok other →
      other.results.Perm merged.results ∧ (other.repositories.map Prod.fst).Perm (merged.repositories.map Prod.fst) ∧
      ∀ first ∈ merged.repositories, ∀ second ∈ other.repositories, first.1 = second.1 →
        SameEnvironments first.2 second.2 ∧ SameEnvironments second.2 first.2

theorem gathered_none (dataDir : String) : Gathered dataDir [] {} where
  names := rfl
  distinct := List.nodup_nil
  results := rfl
  builds := rfl
  repositories := ⟨by simp, by simp, List.nodup_nil, by simp, by simp, by simp, by simp⟩
  logs := rfl
  distinctLogs := List.nodup_nil

theorem sources_merged (dataDir : String) (inputs : List (Option DataDir))
    (valid : ∀ source ∈ resolved inputs, Valid source) (some : resolved inputs ≠ []) :
    (∃ merged, mergeResultsDirs dataDir inputs = .ok merged ∧ Gathered dataDir (resolved inputs) merged) ∨
    ∃ raised, mergeResultsDirs dataDir inputs = .error raised ∧ Repeated (resolved inputs) raised := by
  have loop : mergeResultsDirs dataDir inputs = (resolved inputs).foldlM (mergeInput dataDir) {} := by
    rw [mergeResultsDirs, ← resolved]
    cases listed : resolved inputs with
    | nil => exact absurd listed some
    | cons source rest => rfl
  rw [loop]
  exact inputs_merged dataDir (resolved inputs) [] {} (gathered_none dataDir) valid

theorem repeated_differs (sources : List DataDir) (raised : PyError) (again : Repeated sources raised) :
    ¬ ((sources.flatMap namesOf).Nodup ∧ (sources.flatMap logsOf).Nodup) := by
  rintro ⟨names, logs⟩
  obtain ⟨name, _, twice⟩ | ⟨name, _, twice⟩ := again
  · exact List.exists_duplicate_iff_not_nodup.mp ⟨name, twice⟩ names
  · exact List.exists_duplicate_iff_not_nodup.mp ⟨name, twice⟩ logs

-- Valid directories are refused exactly when a name comes twice.
theorem raises_iff (dataDir : String) (inputs : List (Option DataDir))
    (valid : ∀ source ∈ resolved inputs, Valid source) (some : resolved inputs ≠ []) :
    (∃ raised, mergeResultsDirs dataDir inputs = .error raised) ↔
      ¬ (((resolved inputs).flatMap namesOf).Nodup ∧ ((resolved inputs).flatMap logsOf).Nodup) := by
  obtain ⟨merged, ran, gathered⟩ | ⟨raised, stopped, again⟩ := sources_merged dataDir inputs valid some
  · apply iff_of_false
    · rintro ⟨raised, stopped⟩
      rw [ran] at stopped
      cases stopped
    · rw [not_not, ← gathered.names, ← gathered.logs]
      exact ⟨gathered.distinct, gathered.distinctLogs⟩
  · exact iff_of_true ⟨raised, stopped⟩ (repeated_differs _ raised again)

theorem gathered_of_ok (dataDir : String) (inputs : List (Option DataDir)) (merged : Merged)
    (valid : ∀ source ∈ resolved inputs, Valid source) (some : resolved inputs ≠ [])
    (ran : mergeResultsDirs dataDir inputs = .ok merged) : Gathered dataDir (resolved inputs) merged := by
  obtain ⟨other, ranOther, gathered⟩ | ⟨raised, stopped, _⟩ := sources_merged dataDir inputs valid some
  · rw [ran] at ranOther
    cases ranOther
    exact gathered
  · rw [ran] at stopped
    cases stopped

-- What one merge holds of a repository, a merge of the same entries holds an equal of.
theorem environments_shared (reported others : List Fields) (repositories more : Repositories)
    (joined : JoinedRepositories reported repositories) (joinedMore : JoinedRepositories others more) (same : reported ⊆ others)
    (first second : (String × String) × Fields) (inFirst : first ∈ repositories) (inSecond : second ∈ more)
    (sameKey : first.1 = second.1) : SameEnvironments first.2 second.2 := by
  intro environment member
  obtain ⟨repository, inReported, isKey, recorded⟩ := joined.recorded first inFirst environment member
  exact joinedMore.united second inSecond repository (same inReported) (isKey.trans sameKey) environment recorded

theorem results_conserved (dataDir : String) (inputs : List (Option DataDir))
    (valid : ∀ source ∈ resolved inputs, Valid source) (some : resolved inputs ≠ []) : Conserves dataDir inputs where
  repeated := by
    intro raised stopped
    obtain ⟨merged, ran, _⟩ | ⟨other, stoppedOther, again⟩ := sources_merged dataDir inputs valid some
    · rw [stopped] at ran
      cases ran
    · rw [stopped] at stoppedOther
      cases stoppedOther
      exact again
  rows := by
    intro merged ran
    have gathered := gathered_of_ok dataDir inputs merged valid some ran
    rw [← gathered.names, ← gathered.logs]
    exact ⟨gathered.results, gathered.distinct, gathered.distinctLogs⟩
  repositories := fun merged ran => (gathered_of_ok dataDir inputs merged valid some ran).repositories
  reordered := by
    intro others permuted
    have same : (resolved others).Perm (resolved inputs) := permuted.filterMap id
    have validOthers : ∀ source ∈ resolved others, Valid source := fun source member => valid source (same.mem_iff.mp member)
    have someOthers : resolved others ≠ [] := fun none => some (List.perm_nil.mp (none ▸ same).symm)
    refine ⟨?_, ?_⟩
    · rw [raises_iff dataDir others validOthers someOthers, raises_iff dataDir inputs valid some,
        (same.flatMap_right namesOf).nodup_iff, (same.flatMap_right logsOf).nodup_iff]
    · intro merged other ran ranOther
      have gathered := gathered_of_ok dataDir inputs merged valid some ran
      have gatheredOther := gathered_of_ok dataDir others other validOthers someOthers ranOther
      have sameReported := same.flatMap_right reportedOf
      refine ⟨?_, ?_, ?_⟩
      · rw [gathered.results, gatheredOther.results]
        exact (same.flatMap_right rowsOf).map _
      · rw [List.perm_ext_iff_of_nodup gatheredOther.repositories.once gathered.repositories.once]
        intro index
        rw [gatheredOther.repositories.keys, gathered.repositories.keys]
        simp only [sameReported.mem_iff]
      · intro first inFirst second inSecond sameKey
        exact ⟨environments_shared _ _ _ _ gathered.repositories gatheredOther.repositories sameReported.symm.subset
            first second inFirst inSecond sameKey,
          environments_shared _ _ _ _ gatheredOther.repositories gathered.repositories sameReported.subset
            second first inSecond inFirst sameKey.symm⟩

omit [UnicodeData]

theorem no_inputs_refused :
    let _ := noUnicode
    mergeResultsDirs "out/data" [] = .error noInputs ∧ ¬ Conserves "out/data" [] := by
  intro _
  refine ⟨rfl, ?_⟩
  intro conserves
  obtain ⟨name, _, twice⟩ | ⟨name, _, twice⟩ := conserves.repeated noInputs rfl
  · exact absurd twice (List.not_duplicate_nil name)
  · exact absurd twice (List.not_duplicate_nil name)

-- One host's results: a case, the spec checkout it was judged against and one build log.
def hostResults (name log environment : String) : DataDir where
  index := .ok (.obj [("results", .arr [.obj [("case_dir", .str ("results/data/" ++ name))]])])
  copied := fun other => if other = name then some (.ok ()) else none
  hasResult := fun _ => true
  buildReport := none
  repositories := some (.ok (.obj [("repositories", .arr [.obj [("key", .str "spec"), ("commit_sha", .str "1f0e"),
    ("environments", .arr [.obj [("id", .str environment)]])]])]))
  buildLogs := [log]

def twoHosts : List (Option DataDir) :=
  [some (hostResults "python__to__rust" "rust.log" "linux"), some (hostResults "python__to__swift" "swift.log" "macos")]

theorem two_hosts_conserved :
    let _ := noUnicode
    (∃ merged, mergeResultsDirs "out/data" twoHosts = .ok merged ∧ merged.results.length = 2 ∧
      merged.repositories.map (fun entry => (environmentsOf entry.2).length) = [2]) ∧ Conserves "out/data" twoHosts := by
  intro _
  have valid : ∀ name log environment, caseNameOf [("case_dir", .str ("results/data/" ++ name))] = name →
      name ≠ "" → name ∉ takenNames → Valid (hostResults name log environment) := by
    intro name log environment named some free
    have rows : rowsOf (hostResults name log environment) = [[("case_dir", .str ("results/data/" ++ name))]] := by
      change namedRows [.obj [("case_dir", .str ("results/data/" ++ name))]] = _
      simp [namedRows, Json.asObj, named, some]
    refine ⟨⟨_, rfl⟩, by rintro _ ⟨⟩, by rintro _ ⟨⟩; exact ⟨_, rfl⟩, ?_, ?_, List.nodup_singleton log⟩
    · intro row member
      rw [rows] at member
      rw [List.mem_singleton.mp member, named]
      refine ⟨free, ?_⟩
      intro outcome copies
      have copied : (hostResults name log environment).copied name = Option.some (.ok ()) := if_pos rfl
      rw [copied] at copies
      exact (Option.some.inj copies).symm
    · intro repository member
      have same : repository = [("key", .str "spec"), ("commit_sha", .str "1f0e"),
          ("environments", .arr [.obj [("id", .str environment)]])] := List.mem_singleton.mp member
      rw [same]
      exact fun _ => ⟨[.obj [("id", .str environment)]], rfl, by simp [Json.isObj]⟩
  have summary : (mergeResultsDirs "out/data" twoHosts).map (fun merged =>
      (merged.results.length, merged.repositories.map fun entry => (environmentsOf entry.2).length)) = .ok (2, [2]) := by
    decide +kernel
  refine ⟨?_, results_conserved "out/data" twoHosts ?_ ?_⟩
  · cases ran : mergeResultsDirs "out/data" twoHosts with
    | error raised =>
        rw [ran] at summary
        cases summary
    | ok merged =>
        rw [ran] at summary
        obtain ⟨results, environments⟩ := Prod.mk.inj (Except.ok.inj summary)
        exact ⟨merged, rfl, results, environments⟩
  · intro source member
    have cases : source = hostResults "python__to__rust" "rust.log" "linux" ∨
        source = hostResults "python__to__swift" "swift.log" "macos" := by
      simpa [resolved, twoHosts] using member
    cases cases with
    | inl first =>
        rw [first]
        exact valid _ _ _ (by decide +kernel) (by decide) (by decide)
    | inr second =>
        rw [second]
        exact valid _ _ _ (by decide +kernel) (by decide) (by decide)
  · simp [resolved, twoHosts]

end Conformance.Harness
