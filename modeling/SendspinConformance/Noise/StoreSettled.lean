import SendspinConformance.Noise.StoreCalls

set_option autoImplicit false

namespace Conformance.Noise

open Base

-- The ids a call still has to remove.
def Stage.pending : Stage → List String
  | .working work => work.remove
  | .saving work => work.remove
  | .writing _ work => work.remove
  | _ => []

-- What the call keeps where it has yet to store its record or to bring the store down to its capacity.
def Stage.keeping : Stage → Option (List String)
  | .begun (.replaceRecordForServerId record isProtected) => some (record.pskId :: isProtected)
  | .working work => work.evictKeeping
  | .saving work => work.evictKeeping
  | .writing _ work => work.evictKeeping
  | _ => none

-- The ids no call is about to remove, among the others' and one call's own.
def remaining (ids others : List String) (stage : Stage) : List String :=
  ids.filter fun id => id ∉ others ++ stage.pending

theorem remaining_fewer (ids others : List String) (stage next : Stage) (removed : String → Bool)
    (covered : ∀ id, removed id = false → id ∈ stage.pending → id ∈ ids → id ∈ next.pending) :
    List.Sublist (remaining (ids.filter fun id => !removed id) others next) (remaining ids others stage) := by
  have inside : remaining (ids.filter fun id => !removed id) others next =
      ids.filter fun id => id ∈ ids ∧ removed id = false ∧ id ∉ others ++ next.pending := by
    rw [remaining, List.filter_filter]
    apply List.filter_congr
    intro id member
    simp [member, Bool.and_comm]
  rw [inside]
  apply List.monotone_filter_right
  intro id
  simp only [decide_eq_true_eq, List.mem_append, not_or]
  rintro ⟨member, stays, free, notNext⟩
  exact ⟨free, fun mine => notNext (covered id stays mine member)⟩

theorem remove_ids (records : Records) (pskId : String) :
    (records.removeRecord pskId).ids = records.ids.filter fun id => !(id == pskId) := by
  rw [Records.ids, Records.ids, List.filter_map]
  simp only [Records.removeRecord, dropKey]
  congr 1
  apply List.filter_congr
  intro record _
  simp only [Function.comp_apply, ne_eq, decide_not]
  rfl

theorem remove_all_ids (records : Records) (pskIds : List String) :
    (records.removeRecords pskIds).ids = records.ids.filter fun id => id ∉ pskIds := by
  rw [Records.ids, Records.ids, List.filter_map, Records.remove_records_values]
  rfl

-- A record that is stored under an id others count on adds nothing.
theorem stored_remaining (records : Records) (record : ClientPairingRecord) (others : List String) (stage next : Stage)
    (known : record.pskId ∈ others) (nothing : stage.pending = []) :
    List.Sublist (remaining (records.storeRecord record).ids others next) (remaining records.ids others stage) := by
  have ids : (records.storeRecord record).ids =
      if record.pskId ∈ records.ids then records.ids else records.ids ++ [record.pskId] := keys_put _ _ _
  have same : remaining (records.storeRecord record).ids others next = remaining records.ids others next := by
    rw [ids]
    split
    · rfl
    · simp [remaining, List.filter_append, known]
  rw [same]
  apply List.monotone_filter_right
  intro id
  simp only [decide_eq_true_eq, List.mem_append, not_or, nothing]
  exact fun free => ⟨free.1, List.not_mem_nil⟩

-- A turn of a call that owes nothing takes nothing from those others count on.
theorem turn_remaining (capacity : Nat) (store : FileStore) (stage : Stage) (records : Records) (file : Option Records)
    (next : Stage) (owesNothing : stage.keeping = none)
    (turned : stage.turn capacity store = some (records, file, next)) (others : List String)
    (stores : ∀ record, stage = .begun (.storeRecord record) → record.pskId ∈ others) :
    List.Sublist (remaining records.ids others next) (remaining store.records.ids others stage) := by
  have same (covered : ∀ id, id ∈ stage.pending → id ∈ store.records.ids → id ∈ next.pending)
      (ids : records.ids = store.records.ids) :
      List.Sublist (remaining records.ids others next) (remaining store.records.ids others stage) := by
    have fewer := remaining_fewer store.records.ids others stage next (fun _ => false) fun id _ => covered id
    simp only [Bool.not_false, List.filter_true] at fewer
    rw [ids]
    exact fewer
  cases stage with
  | begun call =>
      have nothing (id : String) (mine : id ∈ (Stage.begun call).pending) : False := List.not_mem_nil mine
      cases call with
      | replaceRecordForServerId record isProtected => cases owesNothing
      | removeSupersededRecords isProtected =>
          cases turned
          exact same (fun id mine => (nothing id mine).elim) rfl
      | storeRecord record =>
          cases turned
          exact stored_remaining store.records record others _ _ (stores record rfl) rfl
      | removeRecord pskId =>
          cases turned
          exact same (fun id mine => (nothing id mine).elim) rfl
      | markRecordUsed pskId now =>
          cases turned
          exact same (fun id mine => (nothing id mine).elim) (mark_used_ids _ _ _)
      | setOther =>
          cases turned
          exact same (fun id mine => (nothing id mine).elim) rfl
  | working work =>
      rcases work with ⟨_ | ⟨pskId, rest⟩, _ | keep⟩
      · cases turned
        exact same (fun id mine _ => mine) rfl
      · cases owesNothing
      · have covered (id : String) (stays : (id == pskId) = false) (mine : id ∈ pskId :: rest) : id ∈ rest :=
          (List.mem_cons.mp mine).resolve_left (beq_eq_false_iff_ne.mp stays)
        rw [Stage.turn] at turned
        split at turned
        · cases turned
          rw [remove_ids]
          exact remaining_fewer store.records.ids others _ _ _ fun id stays mine _ => covered id stays mine
        · rename_i absent
          cases turned
          apply same _ rfl
          intro id mine member
          exact covered id (beq_eq_false_iff_ne.mpr fun equal => absent (equal ▸ member)) mine
      · cases owesNothing
  | saving work =>
      rw [Stage.turn] at turned
      split at turned
      · cases turned
      · cases turned
        exact same (fun id mine _ => mine) rfl
  | writing payload work =>
      cases turned
      exact same (fun id mine _ => mine) rfl
  | done => cases turned

-- A call goes on keeping what it keeps until it has chosen what to evict.
theorem turn_keeping (capacity : Nat) (store : FileStore) (stage : Stage) (records : Records) (file : Option Records)
    (next : Stage) (turned : stage.turn capacity store = some (records, file, next)) :
    next.keeping = stage.keeping ∨ ∃ keep, stage = .working ⟨[], some keep⟩ ∧ records = store.records ∧
      next = .working ⟨store.records.evicted capacity keep, none⟩ := by
  cases stage with
  | begun call =>
      left
      cases call with
      | markRecordUsed pskId now =>
          cases turned
          split <;> rfl
      | _ => cases turned; rfl
  | working work =>
      rcases work with ⟨_ | ⟨pskId, rest⟩, _ | keep⟩
      · cases turned
        exact .inl rfl
      · cases turned
        exact .inr ⟨keep, rfl, rfl, rfl⟩
      all_goals
        rw [Stage.turn] at turned
        split at turned <;> (cases turned; exact .inl rfl)
  | saving work =>
      rw [Stage.turn] at turned
      split at turned
      · cases turned
      · cases turned
        exact .inl rfl
  | writing payload work =>
      cases turned
      exact .inl rfl
  | done => cases turned

-- What a replace_record_for_server_id of the run keeps.
def KeptBy (acts : List StoreAct) (keep : List String) : Prop :=
  ∃ record isProtected, .call (.replaceRecordForServerId record isProtected) ∈ acts ∧
    keep = record.pskId :: isProtected

-- The ids are within the capacity, or one call keeps them all.
def Settled (capacity : Nat) (acts : List StoreAct) (ids : List String) : Prop :=
  ids.length ≤ capacity ∨ ∃ keep, KeptBy acts keep ∧ ∀ id ∈ ids, id ∈ keep

theorem settled_fewer (capacity : Nat) (acts : List StoreAct) (ids fewer : List String) (part : List.Sublist fewer ids)
    (settled : Settled capacity acts ids) : Settled capacity acts fewer :=
  settled.imp (Nat.le_trans part.length_le) fun ⟨keep, known, every⟩ =>
    ⟨keep, known, fun id member => every id (part.subset member)⟩

theorem kept_by_later (acts : List StoreAct) (act : StoreAct) (keep : List String) (kept : KeptBy acts keep) :
    KeptBy (acts ++ [act]) keep := by
  obtain ⟨record, isProtected, made, same⟩ := kept
  exact ⟨record, isProtected, List.mem_append_left [act] made, same⟩

theorem settled_later (capacity : Nat) (acts : List StoreAct) (act : StoreAct) (ids : List String)
    (settled : Settled capacity acts ids) : Settled capacity (acts ++ [act]) ids :=
  settled.imp_right fun ⟨keep, known, every⟩ => ⟨keep, kept_by_later acts act keep known, every⟩

def NoReplace (acts : List StoreAct) : Prop :=
  ∀ record isProtected, .call (.replaceRecordForServerId record isProtected) ∉ acts

-- The ids that a store_record of the run stores.
def storedPlainly (acts : List StoreAct) : List String :=
  acts.filterMap fun act =>
    match act with
    | .call (.storeRecord record) => some record.pskId
    | _ => none

theorem stored_plainly_made (acts : List StoreAct) (record : ClientPairingRecord)
    (made : .call (.storeRecord record) ∈ acts) : record.pskId ∈ storedPlainly acts :=
  List.mem_filterMap.mpr ⟨_, made, rfl⟩

-- The ids no call is about to remove, but for those that a store_record stores.
def staying (acts : List StoreAct) (store : FileStore) : List String :=
  store.records.ids.filter fun id => id ∉ store.calls.flatMap Stage.pending ++ storedPlainly acts

theorem staying_remaining (acts : List StoreAct) (store : FileStore) (earlier later : List Stage) (stage : Stage)
    (split : store.calls = earlier ++ stage :: later) :
    staying acts store = remaining store.records.ids
      (earlier.flatMap Stage.pending ++ later.flatMap Stage.pending ++ storedPlainly acts) stage := by
  rw [staying, remaining, split]
  apply List.filter_congr
  intro id _
  simp only [List.flatMap_append, List.flatMap_cons, List.mem_append]
  congr 2
  exact propext (by tauto)

-- A further act can only take ids out.
theorem staying_later (acts : List StoreAct) (act : StoreAct) (store : FileStore) :
    List.Sublist (staying (acts ++ [act]) store) (staying acts store) := by
  apply List.monotone_filter_right
  intro id
  simp only [decide_eq_true_eq, List.mem_append, not_or, storedPlainly, List.filterMap_append]
  exact fun free => ⟨free.1, free.2.1⟩

-- The calls that have begun were made. A call that keeps something was made; one still does, or what no call is about
-- to remove is settled.
structure Owed (capacity : Nat) (acts : List StoreAct) (store : FileStore) : Prop where
  made : ∀ call, .begun call ∈ store.calls → .call call ∈ acts
  keeps : ∀ stage ∈ store.calls, ∀ keep, stage.keeping = some keep → KeptBy acts keep
  settled : (∃ stage ∈ store.calls, stage.keeping ≠ none) ∨ NoReplace acts ∨
    Settled capacity acts (staying acts store)

theorem call_owed (capacity : Nat) (acts : List StoreAct) (store : FileStore) (call : StoreCall)
    (owed : Owed capacity acts store) :
    Owed capacity (acts ++ [.call call]) { store with calls := store.calls ++ [.begun call] } := by
  refine ⟨?_, ?_, ?_⟩
  · intro other member
    rcases List.mem_append.mp member with known | fresh
    · exact List.mem_append_left _ (owed.made other known)
    · cases List.mem_singleton.mp fresh
      exact List.mem_append_right _ (List.mem_singleton_self _)
  · intro stage member keep keeps
    rcases List.mem_append.mp member with known | fresh
    · exact kept_by_later acts _ keep (owed.keeps stage known keep keeps)
    · rw [List.mem_singleton] at fresh
      subst fresh
      cases call with
      | replaceRecordForServerId record isProtected =>
          cases keeps
          exact ⟨record, isProtected, by simp, rfl⟩
      | _ => cases keeps
  · have same : staying acts { store with calls := store.calls ++ [.begun call] } = staying acts store := by
      simp [staying, Stage.pending]
    rcases owed.settled with ⟨stage, member, keeps⟩ | never | settled
    · exact .inl ⟨stage, List.mem_append_left _ member, keeps⟩
    · cases call with
      | replaceRecordForServerId record isProtected =>
          exact .inl ⟨_, List.mem_append_right _ (List.mem_singleton_self _), fun impossible => by cases impossible⟩
      | _ =>
          right; left
          intro record isProtected made
          exact never record isProtected (by simpa using made)
    · right; right
      apply settled_fewer capacity _ _ _ (staying_later acts _ _)
      rw [same]
      exact settled_later capacity acts _ _ settled

theorem turned_begun (capacity : Nat) (store : FileStore) (stage : Stage) (call : StoreCall) (records : Records)
    (file : Option Records) : stage.turn capacity store ≠ some (records, file, .begun call) := by
  intro turned
  cases turn_kind capacity store stage _ turned with
  | idle _ _ _ _ _ begun => exact begun call rfl

theorem turn_owed (capacity : Nat) (acts : List StoreAct) (before after : FileStore) (index : Nat)
    (owed : Owed capacity acts before) (stepped : before.step capacity (.turn index) = some after) :
    Owed capacity (acts ++ [.turn index]) after := by
  obtain ⟨earlier, stage, later, next, split, turned, grown⟩ := step_turn capacity before after index stepped
  have keeping := turn_keeping capacity before stage after.records after.file next turned
  have here : stage ∈ before.calls := by simp [split]
  have other (known : Stage) (member : known ∈ earlier ∨ known ∈ later) : known ∈ before.calls ∧ known ∈ after.calls := by
    rw [split, grown]
    simp only [List.mem_append, List.mem_cons]
    exact ⟨member.imp_right .inr, member.imp_right .inr⟩
  have plain : storedPlainly (acts ++ [.turn index]) = storedPlainly acts := by
    simp [storedPlainly, List.filterMap_append]
  have same : staying (acts ++ [.turn index]) after = staying acts after := by rw [staying, plain, staying]
  refine ⟨?_, ?_, ?_⟩
  · intro call member
    rw [grown, List.mem_append, List.mem_cons] at member
    apply List.mem_append_left
    rcases member with inEarlier | now | inLater
    · exact owed.made call (other _ (.inl inEarlier)).1
    · exact absurd (now ▸ turned) (turned_begun _ _ _ _ _ _)
    · exact owed.made call (other _ (.inr inLater)).1
  · intro known member keep keeps
    apply kept_by_later
    rw [grown, List.mem_append, List.mem_cons] at member
    rcases member with inEarlier | rfl | inLater
    · exact owed.keeps known (other known (.inl inEarlier)).1 keep keeps
    · rcases keeping with same | ⟨_, _, _, rfl⟩
      · exact owed.keeps stage here keep (same ▸ keeps)
      · cases keeps
    · exact owed.keeps known (other known (.inr inLater)).1 keep keeps
  · rw [same]
    rcases owed.settled with ⟨known, member, keeps⟩ | never | settled
    · rw [split, List.mem_append, List.mem_cons] at member
      rcases member with inEarlier | rfl | inLater
      · exact .inl ⟨known, (other known (.inl inEarlier)).2, keeps⟩
      · rcases keeping with same | ⟨keep, rfl, sameRecords, rfl⟩
        · exact .inl ⟨next, by simp [grown], same ▸ keeps⟩
        · -- The call has chosen what to evict: what it leaves is settled.
          right; right
          have bounded := (Records.evicted_contract capacity before.records keep).bounded
          apply settled_fewer capacity _ (before.records.removeRecords (before.records.evicted capacity keep)).ids
          · rw [staying_remaining acts after earlier later _ grown, sameRecords, remove_all_ids]
            apply List.monotone_filter_right
            intro id
            simp only [decide_eq_true_eq, List.mem_append, not_or]
            exact fun free => free.2
          · refine bounded.imp (fun few => ?_) fun every => ?_
            · rwa [Records.ids, List.length_map]
            · refine ⟨keep, kept_by_later acts _ keep (owed.keeps _ here keep rfl), fun id member => ?_⟩
              obtain ⟨record, stored, rfl⟩ := List.mem_map.mp member
              exact every record stored
      · exact .inl ⟨known, (other known (.inr inLater)).2, keeps⟩
    · right; left
      intro record isProtected made
      exact never record isProtected (by simpa using made)
    · by_cases owes : stage.keeping = none
      · right; right
        apply settled_later
        apply settled_fewer capacity acts (staying acts before) _ _ settled
        rw [staying_remaining acts before earlier later stage split, staying_remaining acts after earlier later next grown]
        refine turn_remaining capacity before stage after.records after.file next owes turned _ fun record begun => ?_
        exact List.mem_append_right _ (stored_plainly_made acts record (owed.made _ (begun ▸ here)))
      · rcases keeping with same | ⟨keep, rfl, sameRecords, rfl⟩
        · exact .inl ⟨next, by simp [grown], same ▸ owes⟩
        · right; right
          apply settled_later
          apply settled_fewer capacity acts (staying acts before) _ _ settled
          rw [staying_remaining acts before earlier later _ split, staying_remaining acts after earlier later _ grown,
            sameRecords]
          apply List.monotone_filter_right
          intro id
          simp only [decide_eq_true_eq, List.mem_append, not_or]
          exact fun free => ⟨free.1, List.not_mem_nil⟩

end Conformance.Noise
