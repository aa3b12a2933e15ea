import Mathlib.Data.List.Induction
import SendspinConformance.Noise.PairingStore

set_option autoImplicit false

namespace Conformance.Noise

open Base

namespace Records

-- What eviction leaves: the records kept, no more than the capacity where any other is left, no fewer than it where
-- one was evicted, and none of those left used before one evicted.
structure Evicted (capacity : Nat) (keep : List String) (before after : Records) : Prop where
  sublist : List.Sublist after.values before.values
  kept : ∀ record ∈ before.values, record.pskId ∈ keep → record ∈ after.values
  bounded : after.values.length ≤ capacity ∨ ∀ record ∈ after.values, record.pskId ∈ keep
  needed : min capacity before.values.length ≤ after.values.length
  leastRecent : ∀ gone ∈ before.values, gone ∉ after.values → ∀ left ∈ after.values, left.pskId ∉ keep →
    gone.lastUsedAt ≤ left.lastUsedAt

theorem evictable_ids_nodup (records : Records) (keep : List String) :
    ((records.evictable keep).map ClientPairingRecord.pskId).Nodup := by
  have sorted : (records.evictable keep).Perm (records.values.filter fun record => record.pskId ∉ keep) :=
    List.perm_insertionSort _ _
  exact ((sorted.map ClientPairingRecord.pskId).nodup_iff).mpr
    (records.distinct.sublist (List.filter_sublist.map ClientPairingRecord.pskId))

theorem evicted_length (capacity : Nat) (records : Records) (keep : List String) :
    (records.removeRecords (records.evicted capacity keep)).values.length +
        min (records.values.length - capacity) (records.evictable keep).length = records.values.length := by
  rw [remove_records_values]
  have counted := drop_keys_length ClientPairingRecord.pskId (records.evicted capacity keep) records.values
    records.distinct ((evictable_ids_nodup records keep).sublist ((List.take_sublist _ _).map _)) (by
      intro pskId chosen
      obtain ⟨record, stored, rfl, _⟩ := evicted_evictable capacity records keep pskId chosen
      exact List.mem_map_of_mem stored)
  rw [evicted, List.length_map, List.length_take] at counted
  exact counted

theorem evicted_contract (capacity : Nat) (records : Records) (keep : List String) :
    Evicted capacity keep records (records.removeRecords (records.evicted capacity keep)) := by
  have length := evicted_length capacity records keep
  refine ⟨?_, ?_, ?_, ?_, ?_⟩
  · rw [remove_records_values]
    exact List.filter_sublist
  · intro record stored inKeep
    rw [mem_remove_records]
    refine ⟨stored, fun chosen => ?_⟩
    obtain ⟨_, _, _, free⟩ := evicted_evictable capacity records keep record.pskId chosen
    exact free inKeep
  · by_cases enough : records.values.length - capacity ≤ (records.evictable keep).length
    · left
      rw [Nat.min_eq_left enough] at length
      omega
    · right
      intro record left
      rw [mem_remove_records] at left
      apply Decidable.byContradiction
      intro free
      apply left.2
      rw [evicted, List.take_of_length_le (by omega)]
      exact List.mem_map_of_mem ((mem_evictable records keep record).mpr ⟨left.1, free⟩)
  · omega
  · intro gone stored notLeft left member free
    rw [mem_remove_records] at notLeft member
    have chosen : gone.pskId ∈ records.evicted capacity keep := by
      apply Decidable.byContradiction
      exact fun spared => notLeft ⟨stored, spared⟩
    obtain ⟨first, firstMember, same⟩ := List.mem_map.mp chosen
    have firstStored := ((mem_evictable records keep first).mp (List.mem_of_mem_take firstMember)).1
    have isGone : first = gone := same_id records first gone firstStored stored same
    subst isGone
    -- The records are in the order they were last used in: what is taken comes before what is left.
    have ordered : (records.evictable keep).Pairwise fun first second => first.lastUsedAt ≤ second.lastUsedAt :=
      List.pairwise_insertionSort _ _
    rw [← List.take_append_drop (records.values.length - capacity) (records.evictable keep)] at ordered
    have candidate := (mem_evictable records keep left).mpr ⟨member.1, free⟩
    rw [← List.take_append_drop (records.values.length - capacity) (records.evictable keep), List.mem_append] at candidate
    rcases candidate with taken | later
    · exact absurd (List.mem_map_of_mem taken) member.2
    · exact (List.pairwise_append.mp ordered).2.2 first firstMember left later

-- The record _newest_per_server keeps for a server: none before it is newer, and every later one is older.
def Newest (serverId : String) (values : List ClientPairingRecord) (record : ClientPairingRecord) : Prop :=
  ∃ before after, values = before ++ record :: after ∧ record.serverId = serverId ∧
    (∀ other ∈ before, other.serverId = serverId → other.createdAt ≤ record.createdAt) ∧
    ∀ other ∈ after, other.serverId = serverId → other.createdAt < record.createdAt

theorem newest_snoc (serverId : String) (values : List ClientPairingRecord) (record : ClientPairingRecord) :
    newest serverId (values ++ [record]) =
      if record.serverId = serverId then
        match newest serverId values with
        | none => some record
        | some held => if held.createdAt ≤ record.createdAt then some record else some held
      else newest serverId values := by
  rw [newest, List.foldl_append]
  rfl

theorem newest_none (serverId : String) (values : List ClientPairingRecord) :
    newest serverId values = none ↔ ∀ record ∈ values, record.serverId ≠ serverId := by
  induction values using List.reverseRecOn with
  | nil => simp [newest]
  | append_singleton values record ih =>
      rw [newest_snoc]
      by_cases same : record.serverId = serverId
      · rw [if_pos same]
        constructor
        · intro impossible
          split at impossible
          · cases impossible
          · split at impossible <;> cases impossible
        · intro absent
          exact absurd same (absent record (List.mem_append_right values (List.mem_singleton_self record)))
      · rw [if_neg same, ih]
        simp [or_imp, forall_and, same]

theorem newest_spec (serverId : String) (values : List ClientPairingRecord) (record : ClientPairingRecord)
    (found : newest serverId values = some record) : Newest serverId values record := by
  induction values using List.reverseRecOn generalizing record with
  | nil => cases found
  | append_singleton values last ih =>
      rw [newest_snoc] at found
      by_cases same : last.serverId = serverId
      · rw [if_pos same] at found
        cases earlier : newest serverId values with
        | none =>
            rw [earlier] at found
            cases found
            have absent := (newest_none serverId values).mp earlier
            exact ⟨values, [], rfl, same, fun other member server => absurd server (absent other member),
              fun _ member => (List.not_mem_nil member).elim⟩
        | some held =>
            rw [earlier] at found
            obtain ⟨before, after, split, server, older, newer⟩ := ih held earlier
            by_cases wins : held.createdAt ≤ last.createdAt
            · have isLast : last = record := by simpa [wins] using found
              subst isLast
              refine ⟨values, [], rfl, same, ?_, fun _ member => (List.not_mem_nil member).elim⟩
              intro other member otherServer
              rw [split, List.mem_append, List.mem_cons] at member
              rcases member with inBefore | rfl | inAfter
              · exact Int.le_trans (older other inBefore otherServer) wins
              · exact wins
              · exact Int.le_trans (Int.le_of_lt (newer other inAfter otherServer)) wins
            · have isHeld : held = record := by simpa [wins] using found
              subst isHeld
              refine ⟨before, after ++ [last], by rw [split]; simp, server, older, ?_⟩
              intro other member otherServer
              rcases List.mem_append.mp member with inAfter | isLast
              · exact newer other inAfter otherServer
              · rw [List.mem_singleton] at isLast
                rw [isLast]
                omega
      · rw [if_neg same] at found
        obtain ⟨before, after, split, server, older, newer⟩ := ih record found
        refine ⟨before, after ++ [last], by rw [split]; simp, server, older, ?_⟩
        intro other member otherServer
        rcases List.mem_append.mp member with inAfter | isLast
        · exact newer other inAfter otherServer
        · rw [List.mem_singleton] at isLast
          exact absurd (isLast ▸ otherServer) same

theorem newest_found (serverId : String) (values : List ClientPairingRecord) (record : ClientPairingRecord)
    (spec : Newest serverId values record) : newest serverId values = some record := by
  obtain ⟨before, after, rfl, server, older, newer⟩ := spec
  have reached : newest serverId (before ++ [record]) = some record := by
    rw [newest_snoc, if_pos server]
    cases earlier : newest serverId before with
    | none => rfl
    | some held =>
        obtain ⟨first, rest, split, heldServer, _, _⟩ := newest_spec serverId before held earlier
        have member : held ∈ before := by
          rw [split]
          exact List.mem_append_right first List.mem_cons_self
        simp [older held member heldServer]
  induction after using List.reverseRecOn with
  | nil => exact reached
  | append_singleton after last ih =>
      have known := ih fun other member => newer other (List.mem_append_left [last] member)
      rw [← List.cons_append, ← List.append_assoc, newest_snoc, known]
      by_cases same : last.serverId = serverId
      · have older := newer last (List.mem_append_right after (List.mem_singleton_self last)) same
        simp [same, Int.not_le.mpr older]
      · rw [if_neg same]

-- Records removed around the newest one leave it the newest.
theorem newest_filtered (serverId : String) (values : List ClientPairingRecord) (spared : ClientPairingRecord → Bool)
    (kept : ∀ record, newest serverId values = some record → spared record = true) :
    newest serverId (values.filter spared) = newest serverId values := by
  cases found : newest serverId values with
  | none =>
      rw [newest_none] at found ⊢
      exact fun record member => found record (List.mem_filter.mp member).1
  | some record =>
      obtain ⟨before, after, split, server, older, newer⟩ := newest_spec serverId values record found
      apply newest_found
      refine ⟨before.filter spared, after.filter spared, ?_, server, ?_, ?_⟩
      · rw [split, List.filter_append, List.filter_cons_of_pos (kept record found)]
      · exact fun other member => older other (List.mem_filter.mp member).1
      · exact fun other member => newer other (List.mem_filter.mp member).1

-- What replace_record_for_server_id leaves where nothing else is at work on the store.
structure Replaced (capacity : Nat) (record : ClientPairingRecord) (isProtected : List String)
    (before after : Records) : Prop where
  stored : record ∈ after.values
  known : ∀ other ∈ after.values, other = record ∨ other ∈ before.values
  kept : ∀ other ∈ before.values, other.pskId ∈ isProtected → other.pskId ≠ record.pskId → other ∈ after.values
  alone : ∀ other ∈ after.values, other.serverId = record.serverId → other = record ∨ other.pskId ∈ isProtected
  bounded : after.values.length ≤ capacity ∨ ∀ other ∈ after.values, other = record ∨ other.pskId ∈ isProtected
  leastRecent : ∀ gone ∈ before.values, gone ∉ after.values → gone.serverId ≠ record.serverId →
    gone.pskId ≠ record.pskId → capacity ≤ after.values.length ∧
      ∀ left ∈ after.values, left ≠ record → left.pskId ∉ isProtected → gone.lastUsedAt ≤ left.lastUsedAt
  found : record.pskId ∉ before.ids →
    (∀ other ∈ before.values, other.serverId = record.serverId → other.createdAt ≤ record.createdAt) →
    after.recordByServerId record.serverId = some record

theorem replaced_contract (capacity : Nat) (records : Records) (record : ClientPairingRecord)
    (isProtected : List String) :
    Replaced capacity record isProtected records (records.replaceRecordForServerId capacity record isProtected) := by
  rw [replaceRecordForServerId]
  generalize storedHere : (records.storeRecord record).removeRecords (records.stale record isProtected) = stored
  have evicted := evicted_contract capacity stored (record.pskId :: isProtected)
  generalize stored.removeRecords (stored.evicted capacity (record.pskId :: isProtected)) = after at evicted
  have inStored (other : ClientPairingRecord) : other ∈ stored.values ↔
      (other = record ∨ other ∈ records.values ∧ other.pskId ≠ record.pskId) ∧
        other.pskId ∉ records.stale record isProtected := by
    rw [← storedHere, mem_remove_records, mem_store_record]
  have recordStored : record ∈ stored.values := by
    rw [inStored]
    refine ⟨.inl rfl, fun gone => ?_⟩
    obtain ⟨_, _, _, _, different, _⟩ := (mem_stale records record isProtected record.pskId).mp gone
    exact different rfl
  have isRecord (other : ClientPairingRecord) (member : other ∈ after.values) (same : other.pskId = record.pskId) :
      other = record := same_id stored other record (evicted.sublist.subset member) recordStored same
  have kept := evicted.kept record recordStored List.mem_cons_self
  refine ⟨kept, ?_, ?_, ?_, ?_, ?_, ?_⟩
  · intro other member
    exact ((inStored other).mp (evicted.sublist.subset member)).1.imp_right And.left
  · intro other member isOpen different
    apply evicted.kept other _ (List.mem_cons_of_mem _ isOpen)
    rw [inStored]
    refine ⟨.inr ⟨member, different⟩, fun gone => ?_⟩
    obtain ⟨_, _, _, _, _, closed⟩ := (mem_stale records record isProtected other.pskId).mp gone
    exact closed isOpen
  · intro other member server
    obtain ⟨same | ⟨before, different⟩, spared⟩ := (inStored other).mp (evicted.sublist.subset member)
    · exact .inl same
    · right
      apply Decidable.byContradiction
      exact fun closed => spared ((mem_stale records record isProtected other.pskId).mpr
        ⟨other, before, rfl, server, different, closed⟩)
  · refine evicted.bounded.imp_right fun every other member => ?_
    rcases List.mem_cons.mp (every other member) with same | isOpen
    · exact .inl (isRecord other member same)
    · exact .inr isOpen
  · intro gone before notLeft server different
    have goneStored : gone ∈ stored.values := by
      rw [inStored]
      refine ⟨.inr ⟨before, different⟩, fun stale => ?_⟩
      obtain ⟨existing, isStored, same, sameServer, _, _⟩ := (mem_stale records record isProtected gone.pskId).mp stale
      exact server (same_id records existing gone isStored before same ▸ sameServer)
    constructor
    · -- Something stored is gone, so the eviction had an excess to remove.
      have fewer : after.values.length < stored.values.length := by
        apply Nat.lt_of_le_of_ne evicted.sublist.length_le
        intro same
        exact notLeft (evicted.sublist.eq_of_length same ▸ goneStored)
      have needed := evicted.needed
      omega
    · intro left member other closed
      apply evicted.leastRecent gone goneStored notLeft left member
      rintro inKeep
      rcases List.mem_cons.mp inKeep with same | isOpen
      · exact other (isRecord left member same)
      · exact closed isOpen
  · intro fresh latest
    -- A fresh id is stored behind the others, and what is removed leaves it there.
    have last : (records.storeRecord record).values = records.values ++ [record] := if_neg fresh
    obtain ⟨spared, storedSplit⟩ : ∃ spared : ClientPairingRecord → Bool,
        stored.values = (records.values ++ [record]).filter spared :=
      ⟨_, by rw [← storedHere, remove_records_values, last]; rfl⟩
    have placed : stored.values = records.values.filter spared ++ [record] := by
      rw [storedSplit, List.filter_append] at recordStored ⊢
      have isSpared : spared record = true := by
        rcases List.mem_append.mp recordStored with inOld | inNew
        · exact (List.mem_filter.mp inOld).2
        · exact (List.mem_filter.mp inNew).2
      rw [List.filter_cons_of_pos isSpared, List.filter_nil]
    obtain ⟨others, rest, split, partOfOthers, partOfLast⟩ := List.sublist_append_iff.mp (placed ▸ evicted.sublist)
    have older : ∀ other ∈ others, other ∈ records.values := fun other member =>
      (List.mem_filter.mp (partOfOthers.subset member)).1
    have isLast : rest = [record] := by
      rcases List.sublist_singleton.mp partOfLast with none | one
      · rw [split, none, List.append_nil] at kept
        exact absurd (List.mem_map_of_mem (older record kept)) fresh
      · exact one
    apply newest_found
    exact ⟨others, [], by rw [split, isLast], rfl, fun other member => latest other (older other member),
      fun _ member => (List.not_mem_nil member).elim⟩

-- What remove_superseded_records leaves where nothing else is at work on the store.
structure Cleaned (isProtected : List String) (before after : Records) : Prop where
  sublist : List.Sublist after.values before.values
  kept : ∀ record ∈ before.values, record.pskId ∈ isProtected → record ∈ after.values
  lookups : ∀ serverId, after.recordByServerId serverId = before.recordByServerId serverId
  newestOnly : ∀ record ∈ after.values,
    record.pskId ∈ isProtected ∨ after.recordByServerId record.serverId = some record

theorem mem_superseded (records : Records) (isProtected : List String) (record : ClientPairingRecord)
    (stored : record ∈ records.values) :
    record.pskId ∈ records.superseded isProtected ↔
      records.recordByServerId record.serverId ≠ some record ∧ record.pskId ∉ isProtected := by
  rw [superseded, List.mem_map]
  constructor
  · rintro ⟨other, member, same⟩
    obtain ⟨otherStored, matched⟩ := List.mem_filter.mp member
    have isOther := same_id records other record otherStored stored same
    subst isOther
    exact of_decide_eq_true matched
  · intro matched
    exact ⟨record, List.mem_filter.mpr ⟨stored, decide_eq_true matched⟩, rfl⟩

theorem cleaned_contract (records : Records) (isProtected : List String) :
    Cleaned isProtected records (records.removeSupersededRecords isProtected) := by
  have member (record : ClientPairingRecord) := mem_remove_records records (records.superseded isProtected) record
  have lookups (serverId : String) : (records.removeSupersededRecords isProtected).recordByServerId serverId =
      records.recordByServerId serverId := by
    rw [recordByServerId, removeSupersededRecords, remove_records_values]
    apply newest_filtered
    intro record found
    obtain ⟨first, rest, split, server, _, _⟩ := newest_spec serverId records.values record found
    have stored : record ∈ records.values := by
      rw [split]
      exact List.mem_append_right first List.mem_cons_self
    apply decide_eq_true
    intro gone
    exact ((mem_superseded records isProtected record stored).mp gone).1 (server ▸ found)
  refine ⟨?_, ?_, lookups, ?_⟩
  · rw [removeSupersededRecords, remove_records_values]
    exact List.filter_sublist
  · intro record stored isOpen
    rw [removeSupersededRecords, member]
    exact ⟨stored, fun gone => ((mem_superseded records isProtected record stored).mp gone).2 isOpen⟩
  · intro record left
    rw [removeSupersededRecords, member] at left
    rw [lookups]
    by_cases isOpen : record.pskId ∈ isProtected
    · exact .inl isOpen
    · right
      apply Decidable.byContradiction
      exact fun older => left.2 ((mem_superseded records isProtected record left.1).mpr ⟨older, isOpen⟩)

end Records

end Conformance.Noise
