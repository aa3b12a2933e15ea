import Mathlib.Data.List.Sort
import SendspinConformance.Base.Keyed
import SendspinConformance.Noise.Wire

set_option autoImplicit false

namespace Conformance.Noise

open Base

-- keys

def pskSize : Nat := 32

-- What _check_psk lets pass.
abbrev Psk := { psk : Bytes // psk.length = pskSize }

-- trust_store

-- A datetime is the microseconds it stands for.
structure ClientPairingRecord where
  pskId : String
  psk : Psk
  serverId : String
  used : Bool := false
  createdAt : Int
  lastUsedAt : Int
deriving DecidableEq

-- self._records: the records by their psk_id, in the order the ids were first stored.
structure Records where
  values : List ClientPairingRecord
  distinct : (values.map ClientPairingRecord.pskId).Nodup
deriving DecidableEq

namespace Records

def empty : Records := ⟨[], List.nodup_nil⟩

def ids (records : Records) : List String := records.values.map ClientPairingRecord.pskId

-- store_record
def storeRecord (records : Records) (record : ClientPairingRecord) : Records :=
  ⟨put ClientPairingRecord.pskId record records.values, nodup_put _ _ _ records.distinct⟩

-- remove_record
def removeRecord (records : Records) (pskId : String) : Records :=
  ⟨dropKey ClientPairingRecord.pskId pskId records.values, nodup_drop_key _ _ _ records.distinct⟩

def removeRecords (records : Records) (pskIds : List String) : Records := pskIds.foldl removeRecord records

-- mark_record_used, at the time it reads
def markRecordUsed (records : Records) (pskId : String) (now : Int) : Records :=
  match records.values.find? fun record => record.pskId = pskId with
  | none => records
  | some record => records.storeRecord { record with used := true, lastUsedAt := now }

-- _newest_per_server(records).get(server_id)
def newest (serverId : String) (values : List ClientPairingRecord) : Option ClientPairingRecord :=
  values.foldl (fun current record =>
    if record.serverId = serverId then
      match current with
      | none => some record
      | some held => if held.createdAt ≤ record.createdAt then some record else some held
    else current) none

-- record_by_server_id
def recordByServerId (records : Records) (serverId : String) : Option ClientPairingRecord :=
  newest serverId records.values

-- The prior records of the server that replace_record_for_server_id removes.
def stale (records : Records) (record : ClientPairingRecord) (isProtected : List String) : List String :=
  (records.values.filter fun existing =>
    existing.serverId = record.serverId ∧ existing.pskId ≠ record.pskId ∧ existing.pskId ∉ isProtected).map
      ClientPairingRecord.pskId

def evictable (records : Records) (keep : List String) : List ClientPairingRecord :=
  (records.values.filter fun record => record.pskId ∉ keep).insertionSort fun first second =>
    first.lastUsedAt ≤ second.lastUsedAt

-- The records _evict_over_capacity removes.
def evicted (capacity : Nat) (records : Records) (keep : List String) : List String :=
  ((records.evictable keep).take (records.values.length - capacity)).map ClientPairingRecord.pskId

-- replace_record_for_server_id, with nothing else at work on the store
def replaceRecordForServerId (capacity : Nat) (records : Records) (record : ClientPairingRecord)
    (isProtected : List String) : Records :=
  let stored := (records.storeRecord record).removeRecords (records.stale record isProtected)
  stored.removeRecords (stored.evicted capacity (record.pskId :: isProtected))

-- The records remove_superseded_records removes. A record is the newest of its server itself
-- where the two are one, their ids being distinct.
def superseded (records : Records) (isProtected : List String) : List String :=
  (records.values.filter fun record =>
    newest record.serverId records.values ≠ some record ∧ record.pskId ∉ isProtected).map ClientPairingRecord.pskId

-- remove_superseded_records, with nothing else at work on the store
def removeSupersededRecords (records : Records) (isProtected : List String) : Records :=
  records.removeRecords (records.superseded isProtected)

theorem remove_records_values (records : Records) (pskIds : List String) :
    (records.removeRecords pskIds).values = dropKeys ClientPairingRecord.pskId pskIds records.values := by
  induction pskIds generalizing records with
  | nil => simp [removeRecords, dropKeys]
  | cons first rest ih =>
      rw [removeRecords, List.foldl_cons, ← removeRecords, ih, ← foldl_drop_key, ← foldl_drop_key]
      rfl

theorem mem_remove_records (records : Records) (pskIds : List String) (record : ClientPairingRecord) :
    record ∈ (records.removeRecords pskIds).values ↔ record ∈ records.values ∧ record.pskId ∉ pskIds := by
  rw [remove_records_values]
  exact mem_drop_keys _ _ _ _

theorem mem_store_record (records : Records) (record other : ClientPairingRecord) :
    other ∈ (records.storeRecord record).values ↔ other = record ∨ other ∈ records.values ∧ other.pskId ≠ record.pskId :=
  mem_put _ _ _ _

theorem same_id (records : Records) (first second : ClientPairingRecord) (firstStored : first ∈ records.values)
    (secondStored : second ∈ records.values) (same : first.pskId = second.pskId) : first = second :=
  List.inj_on_of_nodup_map records.distinct firstStored secondStored same

theorem mem_stale (records : Records) (record : ClientPairingRecord) (isProtected : List String) (pskId : String) :
    pskId ∈ records.stale record isProtected ↔
      ∃ existing ∈ records.values, existing.pskId = pskId ∧ existing.serverId = record.serverId ∧
        pskId ≠ record.pskId ∧ pskId ∉ isProtected := by
  rw [stale, List.mem_map]
  constructor
  · rintro ⟨existing, member, rfl⟩
    obtain ⟨stored, matched⟩ := List.mem_filter.mp member
    obtain ⟨server, different, unprotected⟩ := of_decide_eq_true matched
    exact ⟨existing, stored, rfl, server, different, unprotected⟩
  · rintro ⟨existing, stored, rfl, server, different, unprotected⟩
    exact ⟨existing, List.mem_filter.mpr ⟨stored, decide_eq_true ⟨server, different, unprotected⟩⟩, rfl⟩

theorem mem_evictable (records : Records) (keep : List String) (record : ClientPairingRecord) :
    record ∈ records.evictable keep ↔ record ∈ records.values ∧ record.pskId ∉ keep := by
  rw [evictable, List.mem_insertionSort, List.mem_filter]
  simp

theorem evicted_evictable (capacity : Nat) (records : Records) (keep : List String) (pskId : String)
    (chosen : pskId ∈ records.evicted capacity keep) :
    ∃ record ∈ records.values, record.pskId = pskId ∧ pskId ∉ keep := by
  obtain ⟨record, member, rfl⟩ := List.mem_map.mp chosen
  obtain ⟨stored, free⟩ := (mem_evictable records keep record).mp (List.mem_of_mem_take member)
  exact ⟨record, stored, rfl, free⟩

end Records

end Conformance.Noise
