import SendspinConformance.Base.Turns
import SendspinConformance.Noise.PairingsReplaced

set_option autoImplicit false

namespace Conformance.Noise

open Base

-- A call of a FileClientPairingStore that changes what its file holds: its records, or one of the values beside them
-- (`setOther`), with which the records are saved.
inductive StoreCall where
  | replaceRecordForServerId (record : ClientPairingRecord) (isProtected : List String)
  | removeSupersededRecords (isProtected : List String)
  | storeRecord (record : ClientPairingRecord)
  | removeRecord (pskId : String)
  | markRecordUsed (pskId : String) (now : Int)
  | setOther

-- What a call has yet to do: the records to remove, and the ids it keeps where it then evicts.
structure Work where
  remove : List String
  evictKeeping : Option (List String)

def Work.none : Work := ⟨[], .none⟩

-- Where a call stands. One that has changed a record waits for the lock in _save; the one that
-- has it writes the records as they were when it took it.
inductive Stage where
  | begun (call : StoreCall)
  | working (work : Work)
  | saving (work : Work)
  | writing (payload : Records) (work : Work)
  | done

-- The file holds the records of one save, or is none of them. A thread whose call was cancelled goes on writing and
-- shares its temporary file with the next ones: `strays` counts those that may still leave their mark on the file.
structure FileStore where
  records : Records
  file : Option Records
  calls : List Stage
  strays : Nat := 0

def Stage.isWriting : Stage → Bool
  | .writing _ _ => true
  | _ => false

-- The call is in its _save.
def Stage.isSaving : Stage → Bool
  | .saving _ => true
  | .writing _ _ => true
  | _ => false

-- A call goes on to its next suspension point: the records and the file it leaves, and where it
-- then stands; none where it waits for the lock.
def Stage.turn (capacity : Nat) (store : FileStore) : Stage → Option (Records × Option Records × Stage)
  | .begun (.replaceRecordForServerId record isProtected) =>
      some (store.records.storeRecord record, store.file,
        .saving ⟨store.records.stale record isProtected, some (record.pskId :: isProtected)⟩)
  | .begun (.removeSupersededRecords isProtected) =>
      some (store.records, store.file, .working ⟨store.records.superseded isProtected, .none⟩)
  | .begun (.storeRecord record) => some (store.records.storeRecord record, store.file, .saving .none)
  | .begun (.removeRecord pskId) => some (store.records, store.file, .working ⟨[pskId], .none⟩)
  | .begun (.markRecordUsed pskId now) =>
      some (store.records.markRecordUsed pskId now, store.file,
        if pskId ∈ store.records.ids then .saving .none else .done)
  | .begun .setOther => some (store.records, store.file, .saving .none)
  | .working ⟨pskId :: rest, evictKeeping⟩ =>
      if pskId ∈ store.records.ids then
        some (store.records.removeRecord pskId, store.file, .saving ⟨rest, evictKeeping⟩)
      else some (store.records, store.file, .working ⟨rest, evictKeeping⟩)
  | .working ⟨[], some keep⟩ =>
      some (store.records, store.file, .working ⟨store.records.evicted capacity keep, .none⟩)
  | .working ⟨[], .none⟩ => some (store.records, store.file, .done)
  | .saving work =>
      if store.calls.any Stage.isWriting then .none
      else some (store.records, store.file, .writing store.records work)
  | .writing payload work => some (store.records, some payload, .working work)
  | .done => .none

-- A call is made, or one that was made takes a turn. One in its save fails where its write does, or it is cancelled
-- there; the thread of one cancelled while it writes is abandoned, and leaves in the file what it will until it settles.
inductive StoreAct where
  | call (call : StoreCall)
  | turn (index : Nat)
  | fail (index : Nat)
  | abandon (index : Nat)
  | stray (left : Option Records)
  | settle

def FileStore.step (capacity : Nat) (store : FileStore) : StoreAct → Option FileStore
  | .call call => some { store with calls := store.calls ++ [.begun call] }
  | .turn index => do
      let stage ← store.calls[index]?
      let (records, file, next) ← stage.turn capacity store
      some { store with records, file, calls := store.calls.set index next }
  | .fail index => do
      let stage ← store.calls[index]?
      if stage.isSaving then some { store with calls := store.calls.set index .done } else none
  | .abandon index => do
      let stage ← store.calls[index]?
      if stage.isWriting then some { store with calls := store.calls.set index .done, strays := store.strays + 1 }
      else none
  | .stray left => if store.strays = 0 then none else some { store with file := left }
  | .settle =>
      if store.strays = 0 ∨ store.calls.any Stage.isWriting then none else some { store with strays := store.strays - 1 }

-- The store open() has loaded.
def FileStore.opened (records : Records) : FileStore := { records, file := some records, calls := [] }

def FileStore.quiet (store : FileStore) : Prop := ∀ stage ∈ store.calls, stage = .done

-- No call is under way, and no abandoned thread either.
structure FileStore.Idle (store : FileStore) : Prop where
  quiet : store.quiet
  alone : store.strays = 0

-- No save fails and no call is cancelled in its save.
def Undisturbed (acts : List StoreAct) : Prop := ∀ index, .fail index ∉ acts ∧ .abandon index ∉ acts

-- No call is cancelled while its thread writes.
def NoneAbandoned (acts : List StoreAct) : Prop := ∀ index, .abandon index ∉ acts

theorem undisturbed_kept (acts : List StoreAct) (undisturbed : Undisturbed acts) : NoneAbandoned acts :=
  fun index => (undisturbed index).2

theorem none_abandoned_earlier (acts : List StoreAct) (act : StoreAct) (none : NoneAbandoned (acts ++ [act])) :
    NoneAbandoned acts := fun index member => none index (List.mem_append_left _ member)

theorem undisturbed_earlier (acts : List StoreAct) (act : StoreAct) (undisturbed : Undisturbed (acts ++ [act])) :
    Undisturbed acts :=
  fun index => ⟨fun member => (undisturbed index).1 (List.mem_append_left _ member),
    fun member => (undisturbed index).2 (List.mem_append_left _ member)⟩

-- Without an abandoned thread the file is left to the saves.
theorem step_alone (capacity : Nat) (before after : FileStore) (act : StoreAct) (alone : before.strays = 0)
    (kept : ∀ index, act ≠ .abandon index) (stepped : before.step capacity act = some after) :
    after.strays = 0 ∧ (∀ left, act ≠ .stray left) ∧ act ≠ .settle := by
  cases act with
  | call call =>
      cases stepped
      exact ⟨alone, by simp, by simp⟩
  | turn index =>
      simp only [FileStore.step, Option.bind_eq_bind, Option.bind_eq_some_iff] at stepped
      obtain ⟨_, _, _, _, made⟩ := stepped
      cases made
      exact ⟨alone, by simp, by simp⟩
  | fail index =>
      simp only [FileStore.step, Option.bind_eq_bind, Option.bind_eq_some_iff] at stepped
      obtain ⟨_, _, made⟩ := stepped
      split at made
      · cases made
        exact ⟨alone, by simp, by simp⟩
      · cases made
  | abandon index => exact absurd rfl (kept index)
  | stray left =>
      rw [FileStore.step, if_pos alone] at stepped
      cases stepped
  | settle =>
      rw [FileStore.step, if_pos (Or.inl alone)] at stepped
      cases stepped

-- One turn seen from the call that takes it.
theorem step_turn (capacity : Nat) (before after : FileStore) (index : Nat)
    (stepped : before.step capacity (.turn index) = some after) :
    ∃ earlier stage later next, before.calls = earlier ++ stage :: later ∧
      stage.turn capacity before = some (after.records, after.file, next) ∧ after.calls = earlier ++ next :: later := by
  simp only [FileStore.step, Option.bind_eq_bind, Option.bind_eq_some_iff] at stepped
  obtain ⟨stage, here, ⟨records, file, next⟩, turned, made⟩ := stepped
  cases made
  obtain ⟨earlier, later, split, set⟩ := set_split before.calls index stage here
  exact ⟨earlier, stage, later, next, split, turned, set next⟩

-- A call that ends in its save leaves the records and the file as they are.
theorem step_ended (capacity : Nat) (before after : FileStore) (act : StoreAct)
    (ends : (∃ index, act = .fail index) ∨ ∃ index, act = .abandon index)
    (stepped : before.step capacity act = some after) :
    ∃ earlier stage later, before.calls = earlier ++ stage :: later ∧ stage.isSaving = true ∧
      after.calls = earlier ++ .done :: later ∧ after.records = before.records ∧ after.file = before.file := by
  obtain ⟨index, rfl⟩ | ⟨index, rfl⟩ := ends
  all_goals
    simp only [FileStore.step, Option.bind_eq_bind, Option.bind_eq_some_iff] at stepped
    obtain ⟨stage, here, made⟩ := stepped
    obtain ⟨earlier, later, split, set⟩ := set_split before.calls index stage here
    split at made
    · rename_i saving
      cases made
      refine ⟨earlier, stage, later, split, ?_, set .done, rfl, rfl⟩
      cases stage <;> first | rfl | cases saving
    · cases made

theorem mark_used_ids (records : Records) (pskId : String) (now : Int) :
    (records.markRecordUsed pskId now).ids = records.ids := by
  rw [Records.markRecordUsed]
  cases found : records.values.find? fun record => record.pskId = pskId with
  | none => rfl
  | some record =>
      have member : record.pskId ∈ records.ids := List.mem_map_of_mem (List.mem_of_find?_eq_some found)
      exact (keys_put _ _ _).trans (if_pos member)

theorem mark_used_absent (records : Records) (pskId : String) (now : Int) (absent : pskId ∉ records.ids) :
    records.markRecordUsed pskId now = records := by
  rw [Records.markRecordUsed, List.find?_eq_none.mpr]
  intro record member same
  exact absent (of_decide_eq_true same ▸ List.mem_map_of_mem member)

-- What a turn does to the records and the file: nothing, a change of the records that is yet to be saved, or a part
-- of a save.
inductive Kind (store : FileStore) : Stage → Records × Option Records × Stage → Prop
  | idle (stage next : Stage) (notSaving : ∀ work, stage ≠ .saving work) (wasFree : stage.isWriting = false)
      (isFree : next.isWriting = false) (begun : ∀ call, next ≠ .begun call) : Kind store stage (store.records, store.file, next)
  | changed (stage : Stage) (records : Records) (work : Work) (wasFree : stage.isWriting = false) :
      Kind store stage (records, store.file, .saving work)
  | locks (work : Work) (free : store.calls.any Stage.isWriting = false) :
      Kind store (.saving work) (store.records, store.file, .writing store.records work)
  | writes (payload : Records) (work : Work) :
      Kind store (.writing payload work) (store.records, some payload, .working work)

theorem turn_kind (capacity : Nat) (store : FileStore) (stage : Stage) (result : Records × Option Records × Stage)
    (turned : stage.turn capacity store = some result) : Kind store stage result := by
  cases stage with
  | begun call =>
      cases call with
      | replaceRecordForServerId record isProtected =>
          cases turned
          exact .changed _ _ _ rfl
      | removeSupersededRecords isProtected =>
          cases turned
          exact .idle _ _ (fun _ impossible => by cases impossible) rfl rfl fun _ impossible => by cases impossible
      | storeRecord record =>
          cases turned
          exact .changed _ _ _ rfl
      | removeRecord pskId =>
          cases turned
          exact .idle _ _ (fun _ impossible => by cases impossible) rfl rfl fun _ impossible => by cases impossible
      | markRecordUsed pskId now =>
          by_cases present : pskId ∈ store.records.ids
          · rw [Stage.turn, if_pos present] at turned
            cases turned
            exact .changed _ _ _ rfl
          · rw [Stage.turn, if_neg present, mark_used_absent _ _ _ present] at turned
            cases turned
            exact .idle _ _ (fun _ impossible => by cases impossible) rfl rfl fun _ impossible => by cases impossible
      | setOther =>
          cases turned
          exact .changed _ _ _ rfl
  | working work =>
      rcases work with ⟨_ | ⟨pskId, rest⟩, _ | keep⟩
      · cases turned
        exact .idle _ _ (fun _ impossible => by cases impossible) rfl rfl fun _ impossible => by cases impossible
      · cases turned
        exact .idle _ _ (fun _ impossible => by cases impossible) rfl rfl fun _ impossible => by cases impossible
      all_goals
        rw [Stage.turn] at turned
        split at turned
        · cases turned
          exact .changed _ _ _ rfl
        · cases turned
          exact .idle _ _ (fun _ impossible => by cases impossible) rfl rfl fun _ impossible => by cases impossible
  | saving work =>
      rw [Stage.turn] at turned
      split at turned
      · cases turned
      · rename_i free
        cases turned
        exact .locks work (by simpa using free)
  | writing payload work =>
      cases turned
      exact .writes payload work
  | done => cases turned

-- The file holds the records, or what it did where no record has changed.
def UpToDate (start store : FileStore) : Prop :=
  store.file = some store.records ∨ store.file = start.file ∧ store.records = start.records

-- The file after its last save is up to date, or a save is still to come.
inductive Kept (start store : FileStore) : Prop
  | saving (work : Work) (waits : .saving work ∈ store.calls)
  | writing (work : Work) (holds : .writing store.records work ∈ store.calls)
  | written (free : store.calls.countP Stage.isWriting = 0) (same : UpToDate start store)

structure Saved (start store : FileStore) : Prop where
  oneWriter : store.calls.countP Stage.isWriting ≤ 1
  kept : Kept start store

theorem turn_saved (capacity : Nat) (start before after : FileStore) (index : Nat) (saved : Saved start before)
    (stepped : before.step capacity (.turn index) = some after) : Saved start after := by
  obtain ⟨earlier, stage, later, next, split, turned, grown⟩ := step_turn capacity before after index stepped
  have writers := saved.oneWriter
  have kept := saved.kept
  have other (known : Stage) (member : known ∈ before.calls) (different : known ≠ stage) : known ∈ after.calls := by
    rw [split, List.mem_append, List.mem_cons] at member
    rw [grown, List.mem_append, List.mem_cons]
    exact member.imp_right fun here => .inr (here.resolve_left different)
  have kind := turn_kind capacity before stage _ turned
  generalize records : after.records = nextRecords at kind
  generalize file : after.file = nextFile at kind
  rw [split, List.countP_append, List.countP_cons] at writers
  have counted : after.calls.countP Stage.isWriting =
      earlier.countP Stage.isWriting + (later.countP Stage.isWriting + if next.isWriting = true then 1 else 0) := by
    rw [grown, List.countP_append, List.countP_cons]
  cases kind with
  | idle _ _ notSaving wasFree isFree _ =>
      have same : after.calls.countP Stage.isWriting = before.calls.countP Stage.isWriting := by
        rw [counted, split, List.countP_append, List.countP_cons, wasFree, isFree]
      refine ⟨by rw [same]; exact saved.oneWriter, ?_⟩
      cases kept with
      | saving work waits => exact .saving work (other _ waits fun same => notSaving work same.symm)
      | writing work holds =>
          refine .writing work (records ▸ other _ holds ?_)
          rintro rfl
          cases wasFree
      | written free equal => exact .written (same ▸ free) (by rw [UpToDate, file, records]; exact equal)
  | changed _ _ work wasFree =>
      rw [wasFree] at writers
      exact ⟨by rw [counted]; simpa [Stage.isWriting] using writers, .saving work (by rw [grown]; simp)⟩
  | locks work free =>
      have none : before.calls.countP Stage.isWriting = 0 := by
        rw [List.countP_eq_zero]
        intro stage member writing
        rw [List.any_eq_false] at free
        exact free stage member writing
      rw [split, List.countP_append, List.countP_cons] at none
      have alone : earlier.countP Stage.isWriting = 0 ∧ later.countP Stage.isWriting = 0 := by omega
      refine ⟨by rw [counted, alone.1, alone.2]; exact Nat.le_refl 1, .writing work ?_⟩
      rw [records, grown]
      simp
  | writes _ work =>
      have alone : earlier.countP Stage.isWriting = 0 ∧ later.countP Stage.isWriting = 0 := by
        simp [Stage.isWriting] at writers
        omega
      have free : after.calls.countP Stage.isWriting = 0 := by
        rw [counted, alone.1, alone.2]
        rfl
      refine ⟨by omega, ?_⟩
      cases kept with
      | saving work waits => exact .saving work (other _ waits fun impossible => by cases impossible)
      | writing held holds =>
          -- The one writer is the call that took this turn, so the file is now the records.
          rw [split, List.mem_append, List.mem_cons] at holds
          rcases holds with inEarlier | here | inLater
          · exact absurd rfl (List.countP_eq_zero.mp alone.1 _ inEarlier)
          · cases here
            exact .written free (Or.inl (by rw [file, records]))
          · exact absurd rfl (List.countP_eq_zero.mp alone.2 _ inLater)
      | written none equal =>
          rw [split, List.countP_append, List.countP_cons] at none
          simp [Stage.isWriting] at none

theorem call_saved (start before : FileStore) (call : StoreCall) (saved : Saved start before) :
    Saved start { before with calls := before.calls ++ [.begun call] } := by
  have counted : (before.calls ++ [Stage.begun call]).countP Stage.isWriting = before.calls.countP Stage.isWriting := by
    simp [List.countP_append, Stage.isWriting]
  refine ⟨counted ▸ saved.oneWriter, ?_⟩
  cases saved.kept with
  | saving work waits => exact .saving work (List.mem_append_left _ waits)
  | writing work holds => exact .writing work (List.mem_append_left _ holds)
  | written free same => exact .written (counted ▸ free) same

end Conformance.Noise
