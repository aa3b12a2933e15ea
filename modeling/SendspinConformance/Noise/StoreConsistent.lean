import SendspinConformance.Noise.StoreSettled

set_option autoImplicit false

namespace Conformance.Noise

open Base

-- A call that does not remove the record: it stores it, has it among the protected, or is about another one.
def StoreCall.spares (pskId : String) : StoreCall → Prop
  | .replaceRecordForServerId record isProtected => pskId = record.pskId ∨ pskId ∈ isProtected
  | .removeSupersededRecords isProtected => pskId ∈ isProtected
  | .storeRecord _ => True
  | .removeRecord other => pskId ≠ other
  | .markRecordUsed _ _ => True
  | .setOther => True

-- The id of the record that a call stores.
def StoreCall.stores : StoreCall → Option String
  | .replaceRecordForServerId record _ => some record.pskId
  | .storeRecord record => some record.pskId
  | _ => none

def Stage.spares (pskId : String) : Stage → Prop
  | .begun call => call.spares pskId
  | stage => pskId ∉ stage.pending ∧ ∀ keep, stage.keeping = some keep → pskId ∈ keep

theorem superseded_closed (records : Records) (isProtected : List String) (pskId : String) (isOpen : pskId ∈ isProtected) :
    pskId ∉ records.superseded isProtected := by
  intro chosen
  obtain ⟨record, member, rfl⟩ := List.mem_map.mp chosen
  exact (of_decide_eq_true (List.mem_filter.mp member).2).2 isOpen

theorem stored_ids (records : Records) (record : ClientPairingRecord) (pskId : String) :
    pskId ∈ (records.storeRecord record).ids ↔ pskId = record.pskId ∨ pskId ∈ records.ids := by
  constructor
  · intro member
    obtain ⟨other, stored, rfl⟩ := List.mem_map.mp member
    rcases (Records.mem_store_record records record other).mp stored with rfl | ⟨known, _⟩
    · exact .inl rfl
    · exact .inr (List.mem_map_of_mem known)
  · rintro (rfl | known)
    · exact List.mem_map_of_mem ((Records.mem_store_record records record record).mpr (.inl rfl))
    · obtain ⟨other, stored, rfl⟩ := List.mem_map.mp known
      by_cases same : other.pskId = record.pskId
      · rw [same]
        exact List.mem_map_of_mem ((Records.mem_store_record records record record).mpr (.inl rfl))
      · exact List.mem_map_of_mem ((Records.mem_store_record records record other).mpr (.inr ⟨stored, same⟩))

-- A call that spares a record goes on sparing it, and its turns leave it in the store.
theorem turn_spares (capacity : Nat) (store : FileStore) (pskId : String) (stage : Stage) (records : Records)
    (file : Option Records) (next : Stage) (spares : stage.spares pskId) (turned : stage.turn capacity store = some (records, file, next)) :
    next.spares pskId ∧ (pskId ∈ store.records.ids → pskId ∈ records.ids) := by
  cases stage with
  | begun call =>
      cases call with
      | replaceRecordForServerId record isProtected =>
          cases turned
          refine ⟨⟨?_, ?_⟩, fun known => (stored_ids _ _ _).mpr (.inr known)⟩
          · intro stale
            obtain ⟨_, _, _, _, different, closed⟩ := (Records.mem_stale _ _ _ _).mp stale
            exact spares.elim different closed
          · rintro keep ⟨⟩
            exact List.mem_cons.mpr spares
      | removeSupersededRecords isProtected =>
          cases turned
          exact ⟨⟨superseded_closed _ _ _ spares, fun _ impossible => by cases impossible⟩, id⟩
      | storeRecord record =>
          cases turned
          exact ⟨⟨List.not_mem_nil, fun _ impossible => by cases impossible⟩, fun known =>
            (stored_ids _ _ _).mpr (.inr known)⟩
      | removeRecord other =>
          cases turned
          refine ⟨⟨fun mine => ?_, fun _ impossible => by cases impossible⟩, id⟩
          exact spares (List.mem_singleton.mp mine)
      | markRecordUsed other now =>
          cases turned
          constructor
          · split
            · exact ⟨List.not_mem_nil, fun _ impossible => by cases impossible⟩
            · exact ⟨List.not_mem_nil, fun _ impossible => by cases impossible⟩
          · rw [mark_used_ids]
            exact id
      | setOther =>
          cases turned
          exact ⟨⟨List.not_mem_nil, fun _ impossible => by cases impossible⟩, id⟩
  | working work =>
      obtain ⟨free, kept⟩ := spares
      rcases work with ⟨_ | ⟨first, rest⟩, _ | keep⟩
      · cases turned
        exact ⟨⟨List.not_mem_nil, fun _ impossible => by cases impossible⟩, id⟩
      · cases turned
        refine ⟨⟨fun chosen => ?_, fun _ impossible => by cases impossible⟩, id⟩
        obtain ⟨_, _, _, notKept⟩ := Records.evicted_evictable _ _ _ _ chosen
        exact notKept (kept keep rfl)
      all_goals
        have different : pskId ≠ first := fun same => free (same ▸ List.mem_cons_self)
        rw [Stage.turn] at turned
        split at turned
        · cases turned
          refine ⟨⟨fun mine => free (List.mem_cons_of_mem first mine), kept⟩, fun known => ?_⟩
          rw [remove_ids]
          exact List.mem_filter.mpr ⟨known, by simpa using different⟩
        · cases turned
          exact ⟨⟨fun mine => free (List.mem_cons_of_mem first mine), kept⟩, id⟩
  | saving work =>
      rw [Stage.turn] at turned
      split at turned
      · cases turned
      · cases turned
        exact ⟨spares, id⟩
  | writing payload work =>
      cases turned
      exact ⟨spares, id⟩
  | done => cases turned

-- What is known of a record that every call so far spares.
structure Spared (start : FileStore) (acts : List StoreAct) (store : FileStore) (pskId : String) : Prop where
  calls : ∀ stage ∈ store.calls, stage.spares pskId
  held : pskId ∈ start.records.ids → pskId ∈ store.records.ids
  stored : ∀ call, .call call ∈ acts → call.stores = some pskId → pskId ∈ store.records.ids ∨ .begun call ∈ store.calls

-- A step that makes no call: a task goes on, and what it leaves of a stored record.
theorem turned_spared (start : FileStore) (acts : List StoreAct) (act : StoreAct) (pskId : String)
    (before after : FileStore) (earlier later : List Stage) (stage next : Stage)
    (spared : Spared start acts before pskId) (uncalled : ∀ call, act ≠ .call call)
    (split : before.calls = earlier ++ stage :: later) (grown : after.calls = earlier ++ next :: later)
    (spares : next.spares pskId) (left : pskId ∈ before.records.ids → pskId ∈ after.records.ids)
    (stores : ∀ call, stage = .begun call → call.stores = some pskId → pskId ∈ after.records.ids) :
    Spared start (acts ++ [act]) after pskId := by
  refine ⟨fun known member => ?_, fun first => left (spared.held first), fun call made same => ?_⟩
  · rw [grown, List.mem_append, List.mem_cons] at member
    rcases member with inEarlier | rfl | inLater
    · exact spared.calls known (by simp [split, inEarlier])
    · exact spares
    · exact spared.calls known (by simp [split, inLater])
  · rw [List.mem_append, List.mem_singleton] at made
    rcases spared.stored call (made.resolve_right fun now => uncalled call now.symm) same with known | waits
    · exact .inl (left known)
    · rw [split, List.mem_append, List.mem_cons] at waits
      rcases waits with inEarlier | rfl | inLater
      · exact .inr (by simp [grown, inEarlier])
      · exact .inl (stores call rfl same)
      · exact .inr (by simp [grown, inLater])

theorem begun_stores (capacity : Nat) (store : FileStore) (call : StoreCall) (pskId : String) (records : Records)
    (file : Option Records) (next : Stage) (stores : call.stores = some pskId)
    (turned : (Stage.begun call).turn capacity store = some (records, file, next)) : pskId ∈ records.ids := by
  cases call with
  | replaceRecordForServerId record isProtected =>
      cases stores
      cases turned
      exact (stored_ids _ _ _).mpr (.inl rfl)
  | storeRecord record =>
      cases stores
      cases turned
      exact (stored_ids _ _ _).mpr (.inl rfl)
  | _ => cases stores

theorem step_spared (capacity : Nat) (start : FileStore) (acts : List StoreAct) (act : StoreAct) (pskId : String)
    (before after : FileStore) (spared : Spared start acts before pskId)
    (spares : ∀ call, act = .call call → call.spares pskId) (stepped : before.step capacity act = some after) :
    Spared start (acts ++ [act]) after pskId := by
  -- An act that changes neither the records nor the calls.
  have untouched (records : after.records = before.records) (calls : after.calls = before.calls)
      (uncalled : ∀ call, act ≠ .call call) : Spared start (acts ++ [act]) after pskId := by
    refine ⟨calls ▸ spared.calls, records ▸ spared.held, fun call made same => ?_⟩
    rw [records, calls]
    rcases List.mem_append.mp made with earlier | now
    · exact spared.stored call earlier same
    · exact absurd (List.mem_singleton.mp now).symm (uncalled call)
  have ended (uncalled : ∀ call, act ≠ .call call)
      (ends : (∃ index, act = .fail index) ∨ ∃ index, act = .abandon index) : Spared start (acts ++ [act]) after pskId := by
    obtain ⟨earlier, stage, later, split, saving, grown, records, _⟩ := step_ended capacity before after act ends stepped
    refine turned_spared start acts act pskId before after earlier later stage .done spared uncalled split grown
      ⟨List.not_mem_nil, fun _ impossible => by cases impossible⟩ (records ▸ id) ?_
    rintro call rfl
    cases saving
  cases act with
  | call call =>
      cases stepped
      refine ⟨fun stage member => ?_, spared.held, fun other made same => ?_⟩
      · rcases List.mem_append.mp member with known | fresh
        · exact spared.calls stage known
        · rw [List.mem_singleton] at fresh
          subst fresh
          exact spares call rfl
      · rcases List.mem_append.mp made with earlier | now
        · exact (spared.stored other earlier same).imp_right (List.mem_append_left _)
        · cases List.mem_singleton.mp now
          exact .inr (List.mem_append_right _ (List.mem_singleton_self _))
  | turn index =>
      obtain ⟨earlier, stage, later, next, split, turned, grown⟩ := step_turn capacity before after index stepped
      obtain ⟨goesOn, left⟩ := turn_spares capacity before pskId stage _ _ next
        (spared.calls stage (by simp [split])) turned
      refine turned_spared start acts _ pskId before after earlier later stage next spared (by simp) split grown goesOn
        left ?_
      rintro call rfl same
      exact begun_stores capacity before call pskId _ _ next same turned
  | fail index => exact ended (by simp) (.inl ⟨index, rfl⟩)
  | abandon index => exact ended (by simp) (.inr ⟨index, rfl⟩)
  | stray left =>
      rw [FileStore.step] at stepped
      split at stepped
      · cases stepped
      · cases stepped
        exact untouched rfl rfl (by simp)
  | settle =>
      rw [FileStore.step] at stepped
      split at stepped
      · cases stepped
      · cases stepped
        exact untouched rfl rfl (by simp)

-- The records of the store at some point of the run.
def Seen (capacity : Nat) (start : FileStore) (acts : List StoreAct) (records : Records) : Prop :=
  ∃ prior past, prior <+: acts ∧ turns (FileStore.step capacity) start prior = some past ∧ past.records = records

theorem seen_later (capacity : Nat) (start : FileStore) (acts : List StoreAct) (act : StoreAct) (records : Records)
    (seen : Seen capacity start acts records) : Seen capacity start (acts ++ [act]) records := by
  obtain ⟨prior, past, part, ran, same⟩ := seen
  exact ⟨prior, past, part.trans (List.prefix_append acts [act]), ran, same⟩

-- The file is as it was, or the records of a point of the run; and so is what is being written to it.
structure Genuine (capacity : Nat) (start : FileStore) (acts : List StoreAct) (store : FileStore) : Prop where
  alone : store.strays = 0
  file : store.file = start.file ∨ ∃ records, store.file = some records ∧ Seen capacity start acts records
  payloads : ∀ payload work, .writing payload work ∈ store.calls → Seen capacity start acts payload

theorem step_genuine (capacity : Nat) (start : FileStore) (acts : List StoreAct) (act : StoreAct) (before after : FileStore)
    (ran : turns (FileStore.step capacity) start acts = some before) (kept : ∀ index, act ≠ .abandon index)
    (genuine : Genuine capacity start acts before) (stepped : before.step capacity act = some after) :
    Genuine capacity start (acts ++ [act]) after := by
  obtain ⟨alone, noStray, noSettle⟩ := step_alone capacity before after act genuine.alone kept stepped
  have same (file : after.file = before.file) :
      after.file = start.file ∨ ∃ records, after.file = some records ∧ Seen capacity start (acts ++ [act]) records := by
    rw [file]
    exact genuine.file.imp_right fun ⟨records, held, seen⟩ => ⟨records, held, seen_later _ _ _ _ _ seen⟩
  cases act with
  | call call =>
      cases stepped
      refine ⟨alone, same rfl, fun payload work writes => ?_⟩
      rcases List.mem_append.mp writes with known | fresh
      · exact seen_later _ _ _ _ _ (genuine.payloads payload work known)
      · cases List.mem_singleton.mp fresh
  | fail index =>
      obtain ⟨earlier, stage, later, split, _, grown, _, file⟩ := step_ended capacity before after _ (.inl ⟨index, rfl⟩) stepped
      refine ⟨alone, same file, fun payload work writes => seen_later _ _ _ _ _ (genuine.payloads payload work ?_)⟩
      rw [grown, List.mem_append, List.mem_cons] at writes
      rw [split, List.mem_append, List.mem_cons]
      exact writes.imp_right fun other => .inr (other.resolve_left fun impossible => by cases impossible)
  | abandon index => exact absurd rfl (kept index)
  | stray left => exact absurd rfl (noStray left)
  | settle => exact absurd rfl noSettle
  | turn index =>
      obtain ⟨earlier, stage, later, next, split, turned, grown⟩ := step_turn capacity before after index stepped
      have here : stage ∈ before.calls := by simp [split]
      have current : Seen capacity start (acts ++ [.turn index]) before.records :=
        ⟨acts, before, List.prefix_append acts _, ran, rfl⟩
      have others (payload : Records) (work : Work) (writes : .writing payload work ∈ after.calls)
          (fresh : next ≠ .writing payload work) : Seen capacity start (acts ++ [.turn index]) payload := by
        rw [grown, List.mem_append, List.mem_cons] at writes
        apply seen_later
        rcases writes with inEarlier | same | inLater
        · exact genuine.payloads payload work (by simp [split, inEarlier])
        · exact absurd same.symm fresh
        · exact genuine.payloads payload work (by simp [split, inLater])
      have kind := turn_kind capacity before stage _ turned
      generalize after.records = records at kind
      generalize file : after.file = nextFile at kind
      cases kind with
      | idle _ _ _ _ isFree _ =>
          refine ⟨alone, same file, fun payload work writes => others payload work writes ?_⟩
          rintro rfl
          cases isFree
      | changed _ _ _ _ =>
          exact ⟨alone, same file, fun payload work writes =>
            others payload work writes fun impossible => by cases impossible⟩
      | locks held _ =>
          refine ⟨alone, same file, fun payload work writes => ?_⟩
          by_cases same : payload = before.records
          · exact same ▸ current
          · exact others payload work writes fun equal => by cases equal; exact same rfl
      | writes payload held =>
          exact ⟨alone, .inr ⟨payload, file, seen_later _ _ _ _ _ (genuine.payloads _ held here)⟩,
            fun payload work writes => others payload work writes fun impossible => by cases impossible⟩

-- What is known of a store after any run of its calls, whatever order their turns came in and whatever saves failed.
structure Consistent (capacity : Nat) (start : FileStore) (acts : List StoreAct) (store : FileStore) : Prop where
  durable : Undisturbed acts → store.quiet → UpToDate start store
  atomic : NoneAbandoned acts →
    store.file = start.file ∨ ∃ records, store.file = some records ∧ Seen capacity start acts records
  bounded : Undisturbed acts → store.quiet →
    NoReplace acts ∨ Settled capacity acts (store.records.ids.filter fun id => id ∉ storedPlainly acts)
  held : ∀ pskId ∈ start.records.ids, (∀ call, .call call ∈ acts → call.spares pskId) → pskId ∈ store.records.ids
  stored : store.quiet → ∀ call pskId, .call call ∈ acts → call.stores = some pskId →
    (∀ call, .call call ∈ acts → call.spares pskId) → pskId ∈ store.records.ids

theorem calls_spared (capacity : Nat) (start : FileStore) (idle : start.Idle) (acts : List StoreAct) (store : FileStore)
    (pskId : String) (ran : turns (FileStore.step capacity) start acts = some store)
    (spares : ∀ call, .call call ∈ acts → call.spares pskId) : Spared start acts store pskId := by
  refine turns_invariant _ _ (fun acts store => (∀ call, .call call ∈ acts → call.spares pskId) →
    Spared start acts store pskId) (fun _ => ⟨?_, id, ?_⟩) ?_ acts store ran spares
  · intro stage member
    rw [idle.quiet stage member]
    exact ⟨List.not_mem_nil, fun _ impossible => by cases impossible⟩
  · exact fun _ made => (List.not_mem_nil made).elim
  · intro acts before act after _ known stepped spares
    exact step_spared capacity start acts act pskId before after
      (known fun call made => spares call (List.mem_append_left [act] made))
      (fun call same => spares call (by simp [same])) stepped

theorem calls_genuine (capacity : Nat) (start : FileStore) (idle : start.Idle) (acts : List StoreAct) (store : FileStore)
    (ran : turns (FileStore.step capacity) start acts = some store) (none : NoneAbandoned acts) :
    Genuine capacity start acts store := by
  refine turns_invariant _ _ (fun acts store => NoneAbandoned acts → Genuine capacity start acts store) ?_ ?_ acts store
    ran none
  · intro _
    refine ⟨idle.alone, .inl rfl, fun payload work member => ?_⟩
    cases idle.quiet _ member
  · intro acts before act after earlier known stepped none
    exact step_genuine capacity start acts act before after earlier
      (fun index same => none index (by simp [same])) (known (none_abandoned_earlier acts act none)) stepped

-- What a run keeps in which no save fails, where it holds at an idle store and every call and every turn keeps it.
theorem undisturbed_invariant (capacity : Nat) (start : FileStore) (idle : start.Idle) (Inv : List StoreAct → FileStore → Prop)
    (initial : Inv [] start)
    (called : ∀ acts before call, Inv acts before →
      Inv (acts ++ [.call call]) { before with calls := before.calls ++ [.begun call] })
    (turned : ∀ acts before index after, Inv acts before → before.step capacity (.turn index) = some after →
      Inv (acts ++ [.turn index]) after)
    (acts : List StoreAct) (store : FileStore) (ran : turns (FileStore.step capacity) start acts = some store)
    (undisturbed : Undisturbed acts) : Inv acts store := by
  refine turns_invariant _ _ (fun acts store => Undisturbed acts → Inv acts store) (fun _ => initial) ?_ acts store ran
    undisturbed
  intro acts before act after earlier known stepped undisturbed
  have kept := none_abandoned_earlier acts act (undisturbed_kept _ undisturbed)
  have alone := (calls_genuine capacity start idle acts before earlier kept).alone
  have unabandoned (index : Nat) : act ≠ .abandon index := fun same => (undisturbed index).2 (by simp [same])
  obtain ⟨_, noStray, noSettle⟩ := step_alone capacity before after act alone unabandoned stepped
  have here := known (undisturbed_earlier acts act undisturbed)
  cases act with
  | call call =>
      cases stepped
      exact called acts before call here
  | turn index => exact turned acts before index after here stepped
  | fail index => exact absurd (by simp) (undisturbed index).1
  | abandon index => exact absurd rfl (unabandoned index)
  | stray left => exact absurd rfl (noStray left)
  | settle => exact absurd rfl noSettle

theorem calls_saved (capacity : Nat) (start : FileStore) (idle : start.Idle) (acts : List StoreAct) (store : FileStore)
    (ran : turns (FileStore.step capacity) start acts = some store) (undisturbed : Undisturbed acts) :
    Saved start store := by
  refine undisturbed_invariant capacity start idle (fun _ store => Saved start store) ?_
    (fun _ before call => call_saved start before call)
    (fun _ before index after => turn_saved capacity start before after index) acts store ran undisturbed
  have free : start.calls.countP Stage.isWriting = 0 := by
    rw [List.countP_eq_zero]
    intro stage member
    rw [idle.quiet stage member]
    exact Bool.false_ne_true
  exact ⟨by omega, .written free (.inr ⟨rfl, rfl⟩)⟩

theorem calls_owed (capacity : Nat) (start : FileStore) (idle : start.Idle) (acts : List StoreAct) (store : FileStore)
    (ran : turns (FileStore.step capacity) start acts = some store) (undisturbed : Undisturbed acts) :
    Owed capacity acts store := by
  refine undisturbed_invariant capacity start idle (Owed capacity) ⟨?_, ?_, .inr (.inl ?_)⟩
    (fun acts before call => call_owed capacity acts before call)
    (fun acts before index after => turn_owed capacity acts before after index) acts store ran undisturbed
  · intro call member
    cases idle.quiet _ member
  · intro stage member keep keeps
    rw [idle.quiet stage member] at keeps
    cases keeps
  · exact fun _ _ made => (List.not_mem_nil made).elim

-- From any moment at which no call is under way.
theorem calls_consistent (capacity : Nat) (start : FileStore) (idle : start.Idle) (acts : List StoreAct) (store : FileStore)
    (ran : turns (FileStore.step capacity) start acts = some store) : Consistent capacity start acts store := by
  refine ⟨fun undisturbed quiet => ?_, fun none => (calls_genuine capacity start idle acts store ran none).file,
    fun undisturbed quiet => ?_, fun pskId first spares => (calls_spared capacity start idle acts store pskId ran spares).held first,
    fun quiet call pskId made stores spares => ?_⟩
  · cases (calls_saved capacity start idle acts store ran undisturbed).kept with
    | saving work waits => cases quiet _ waits
    | writing work holds => cases quiet _ holds
    | written _ same => exact same
  · rcases (calls_owed capacity start idle acts store ran undisturbed).settled with ⟨stage, member, keeps⟩ | never | settled
    · rw [quiet stage member] at keeps
      exact absurd rfl keeps
    · exact .inl never
    · right
      have nothing : staying acts store = store.records.ids.filter fun id => id ∉ storedPlainly acts := by
        apply List.filter_congr
        intro id _
        have none : id ∉ store.calls.flatMap Stage.pending := by
          intro pending
          obtain ⟨stage, member, mine⟩ := List.mem_flatMap.mp pending
          rw [quiet stage member] at mine
          cases mine
        simp [none]
      rwa [nothing] at settled
  · rcases (calls_spared capacity start idle acts store pskId ran spares).stored call made stores with here | waits
    · exact here
    · cases quiet _ waits

def pairedWith (pskId serverId : String) (createdAt : Int) : ClientPairingRecord :=
  { pskId, psk := ⟨List.replicate pskSize 7, rfl⟩, serverId, createdAt, lastUsedAt := createdAt }

-- Two servers pair at once: the second stores its record while the first one's is written. A write fails then, and
-- the next save makes up for it.
def overlappingCalls : List StoreAct :=
  [.call (.replaceRecordForServerId (pairedWith "a" "one" 1) []), .turn 0, .turn 0,
    .call (.replaceRecordForServerId (pairedWith "b" "two" 2) ["a"]), .turn 1,
    .turn 0, .turn 0, .turn 1, .turn 0, .turn 1, .turn 1, .turn 1,
    .call (.storeRecord (pairedWith "c" "three" 3)), .turn 2, .turn 2, .fail 2,
    .call (.removeRecord "a"), .turn 3, .turn 3, .turn 3, .turn 3, .turn 3]

theorem overlapping_calls_consistent :
    ∃ store, turns (FileStore.step 5) (FileStore.opened Records.empty) overlappingCalls = some store ∧
      store.file.map Records.ids = some ["b", "c"] ∧
      Consistent 5 (FileStore.opened Records.empty) overlappingCalls store :=
  ⟨_, rfl, rfl, calls_consistent 5 (FileStore.opened Records.empty)
    ⟨fun _ member => (List.not_mem_nil member).elim, rfl⟩ overlappingCalls _ rfl⟩

end Conformance.Noise
