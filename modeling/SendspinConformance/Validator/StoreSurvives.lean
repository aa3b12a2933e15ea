import SendspinConformance.Validator.StoreSpared

set_option autoImplicit false

namespace Conformance.Validator.SuiteRunner

open Python Base

-- What a run read of the script.
def usedIn (before after : World) : List Happening := before.script.take (before.script.length - after.script.length)

-- Somebody else files or drops the client's record.
def touches (clientId : String) : Happening → Bool
  | .paired record => record.clientId == clientId
  | .unpaired dropped => dropped == clientId
  | _ => false

theorem used_in (used : List Happening) (before after : World) (taken : before.script = used ++ after.script) :
    usedIn before after = used := by
  rw [usedIn, taken, List.length_append, Nat.add_sub_cancel, List.take_left]

theorem held_untouched (clientId : String) (used : List Happening) (held : Option ServerPairingRecord)
    (untouched : ∀ happening ∈ used, touches clientId happening = false) : heldAfter clientId used held = held := by
  induction used with
  | nil => rfl
  | cons happening rest ih =>
      obtain ⟨apart, others⟩ := List.forall_mem_cons.mp untouched
      have same : heldBy clientId held happening = held := by
        cases happening with
        | paired _ | unpaired _ => exact if_neg (by simpa [touches] using apart)
        | _ => rfl
      rw [heldAfter, List.foldl_cons, same]
      exact ih others

variable (link : Link)

-- The records of other clients are as others left them.
def OthersKept (before after : World) : Prop :=
  ∀ other, other ≠ link.clientId →
    after.pairings.records other = heldAfter other (usedIn before after) (before.pairings.records other)

-- What others do during the last wait leaves this filed for the client.
def Lasts (before after : World) (filed : Option ServerPairingRecord) : Prop :=
  heldAfter link.clientId (lastWait (usedIn before after)) filed = filed

-- Where nobody else changes a record and no exception ends the last wait, the file goes on holding what memory does.
def FileFollows (before after : World) : Prop :=
  Alone (usedIn before after) → interrupted (usedIn before after) = false → before.fresh → after.fresh

structure UnpairedKept (before after : World) : Prop where
  held : ∀ record, link.stored before = some record →
    (link.stored after = some record ↔ Lasts link before after (some record))
  others : OthersKept link before after
  file : FileFollows before after

-- With a single wait R3 came no further than the save of its removal.
def R3Restores (before after : World) (record : ServerPairingRecord) : Prop :=
  if waits (usedIn before after) = 1 then
    before.admitUnpaired = true ∧ heldAfter link.clientId (lastWait (usedIn before after)) none = some record
  else interrupted (usedIn before after) = false ∧ Lasts link before after (some record)

structure R3Kept (before after : World) : Prop where
  held : ∀ record, link.stored before = some record →
    ((link.stored after = some record ∧ after.admitUnpaired = true) ↔ R3Restores link before after record)
  absent : link.stored before = none → after = before
  others : OthersKept link before after
  file : FileFollows before after

structure R4Kept (before : World) (ended : Py (List Finding)) (after : World) : Prop where
  sent : before.unpairsSent < after.unpairsSent → (link.stored after = none ↔ Lasts link before after none)
  early : ended.isOk = true → after.unpairsSent = before.unpairsSent → interrupted (usedIn before after) = false →
    link.stored after = heldAfter link.clientId (usedIn before after) (link.stored before)
  untouched : ended.isOk = true → after.unpairsSent = before.unpairsSent →
    (∀ happening ∈ usedIn before after, touches link.clientId happening = false) →
      (link.stored after = link.stored before ↔ interrupted (usedIn before after) = false)
  others : OthersKept link before after
  file : FileFollows before after

theorem others_kept {used : List Happening} {before after : World} (spared : Spared link.clientId used before after) :
    OthersKept link before after := by
  intro other apart
  rw [used_in used before after spared.taken]
  exact spared.others other apart

theorem stored_own (world : World) (record : ServerPairingRecord) (isStored : link.stored world = some record) :
    record.clientId = link.clientId := world.pairings.filed link.clientId record isStored

-- The save that ends a step is its last wait.
theorem lasts_saved {used more : List Happening} {before after : World} (filed : Option ServerPairingRecord)
    (taken : before.script = used ++ more ++ after.script) (whole : Whole used) (single : Single more) :
    Lasts link before after filed ↔ heldAfter link.clientId more filed = filed := by
  rw [Lasts, used_in _ before after taken, last_wait_append used more whole (single_reached more single),
    single_held link.clientId more filed single]

-- The save that ends a step writes the records where it returns.
theorem file_follows {used more : List Happening} {before after : World} (taken : before.script = used ++ more ++ after.script)
    (single : Single more) (wrote : interrupted more = false → Alone more → after.fresh) : FileFollows before after := by
  intro alone returned _
  rw [used_in _ before after taken] at alone returned
  rw [interrupted_append used more (single_reached more single)] at returned
  exact wrote returned (List.forall_mem_append.mp alone).2

theorem file_follows_here (world : World) : FileFollows world world := fun _ _ fresh => fresh

-- What a program keeps of the records and the file while nobody else changes them.
def Holding (held : World → Prop) (before : World) (_ : Option PyError) (after : World) : Prop :=
  ∃ used, before.script = used ++ after.script ∧ (Alone used → held before → held after)

theorem sequential_holding (held : World → Prop) : Sequential (Holding held) where
  here _ _ := ⟨[], rfl, fun _ => id⟩
  trans := by
    rintro first between raised after ⟨used, taken, early⟩ ⟨more, takenLater, late⟩
    refine ⟨used ++ more, by rw [taken, takenLater, List.append_assoc], fun alone => ?_⟩
    obtain ⟨aloneFirst, aloneSecond⟩ := List.forall_mem_append.mp alone
    exact late aloneSecond ∘ early aloneFirst

theorem await_holding (held : World → Prop) (kept : ∀ before after, FileKept before after → held before → held after)
    {α : Type} (ends : Happening → Option α) : Relates (Holding held) (link.await ends) := by
  intro before ended after ran
  obtain ⟨used, _, _, passed⟩ := link.await_saved ends before after ended ran
  exact ⟨used, passed.taken, fun alone => kept before after (passed.file alone)⟩

-- Without a record of the client's there is nothing to remove.
def Unpaired (world : World) : Prop := world.fresh ∧ link.stored world = none

theorem unpaired_kept_waiting (before after : World) (kept : FileKept before after) (unpaired : Unpaired link before) :
    Unpaired link after :=
  ⟨kept.fresh unpaired.1, by rw [Link.stored, kept.records]; exact unpaired.2⟩

theorem remove_record_unpaired : Relates (Holding (Unpaired link)) link.removeRecord := by
  intro before ended after ran
  rcases link.remove_record_cases before after ended ran with ⟨_, _, rfl⟩ | ⟨filed, used, _, _, passed, _⟩
  · exact ⟨[], rfl, fun _ => id⟩
  · refine ⟨used, passed.taken, fun _ unpaired => ?_⟩
    rw [unpaired.2] at filed
    cases filed

-- A removal that ends the step makes the file right again where a record is stored.
def Removable (world : World) : Prop := world.fresh ∨ (link.stored world).isSome = true

theorem removable_kept_waiting (before after : World) (kept : FileKept before after) (removable : Removable link before) :
    Removable link after :=
  removable.imp kept.fresh fun stored => by rw [Link.stored, kept.records]; exact stored

theorem store_record_removable (record : ServerPairingRecord) (own : record.clientId = link.clientId) :
    Relates (Holding (Removable link)) (link.storeRecord record) := by
  intro before ended after ran
  obtain ⟨used, _, _, passed, _⟩ := link.store_record_saved record before after ended ran
  refine ⟨used, passed.taken, fun alone _ => .inr ?_⟩
  rw [Link.stored, (passed.file alone).records, ← own, Link.put_own]
  rfl

theorem forgotten_relates {rel : World → Option PyError → World → Prop} (sequential : Sequential rel)
    (awaits : ∀ {α : Type} (ends : Happening → Option α), Relates rel (link.await ends)) :
    Relates rel (forgotten link) := by
  apply relates_bind sequential (link.relates_reconnect sequential awaits)
  intro number
  cases number with
  | none => exact relates_pure sequential _
  | some connected =>
      exact relates_bind sequential (link.relates_wait sequential awaits _) fun _ => relates_pure sequential _

theorem restore_admitting_spared (record : ServerPairingRecord) (own : record.clientId = link.clientId)
    (before after : World) (ended : Py Unit) (withheld : before.admitUnpaired = false)
    (ran : (restoreAdmitting link record).from before = some (ended, after)) :
    ∃ last, Single last ∧ Spared link.clientId last before after ∧
      link.stored after = heldAfter link.clientId last (some record) ∧ after.admitUnpaired = (!interrupted last) ∧
      (interrupted last = false → Alone last → after.fresh) := by
  have apart : ∀ other, other ≠ link.clientId →
      (Link.putting record before).pairings.records other = before.pairings.records other :=
    fun other differs => Link.put_other record before other (own ▸ differs)
  have kept : ∀ (last : List Happening) (raised : Option PyError) (saved : World),
      Passed last (Link.putting record before) raised saved →
        link.stored saved = heldAfter link.clientId last (some record) := by
    intro last raised saved passed
    rw [Link.stored, ← own, passed.held, Link.put_own]
  rcases bind_ended ran with ⟨value, saved, stored, set⟩ | ⟨raised, stored, rfl⟩
  · obtain ⟨last, single, cause, passed, wrote⟩ := link.store_record_saved record before saved _ stored
    have spared : Spared link.clientId last before saved := spared_saved single passed rfl apart
    cases set
    refine ⟨last, single, ⟨spared.taken, spared.whole, spared.others, spared.last, spared.still⟩, ?_, ?_,
      fun _ alone => wrote rfl alone⟩
    · exact kept last _ saved passed
    · rw [cause]
      rfl
  · obtain ⟨last, single, cause, passed, _⟩ := link.store_record_saved record before after _ stored
    refine ⟨last, single, spared_saved single passed rfl apart, kept last _ after passed, ?_, fun returned => ?_⟩
    · rw [cause, passed.admits]
      exact withheld
    · rw [cause] at returned
      cases returned

-- However the reconnect of R3 ended, the record is stored again after it.
theorem forgotten_restored {ended : Py (Option Nat)} (record : ServerPairingRecord) (own : record.clientId = link.clientId)
    (before after : World) (withheld : before.admitUnpaired = false)
    (ran : (Program.afterwards (forgotten link) (restoreAdmitting link record)).from before = some (ended, after)) :
    ∃ more last, Whole more ∧ Single last ∧ Spared link.clientId (more ++ last) before after ∧
      link.stored after = heldAfter link.clientId last (some record) ∧ after.admitUnpaired = (!interrupted last) ∧
      (interrupted last = false → Alone last → after.fresh) := by
  obtain ⟨result, reached, finish, reconnected, done⟩ := afterwards_cleaned ran
  obtain ⟨more, spared, _⟩ := forgotten_relates link (sequential_steered link.clientId) (await_steered link)
    before result reached reconnected
  obtain ⟨_, passed⟩ := forgotten_relates link sequential_waited link.await_waited before result reached reconnected
  obtain ⟨last, single, saved, held, admits, wrote⟩ :=
    restore_admitting_spared link record own reached after finish (passed.admits.trans withheld) done
  exact ⟨more, last, spared.whole, single, spared_append spared saved, held, admits, wrote⟩

-- server.unpair fails before it touches the store, is interrupted, or sends its message.
theorem unpair_cases (before after : World) (ended : Py Unit) (ran : link.unpair.from before = some (ended, after)) :
    (after = before ∧ ended = .error link.notConnected) ∨
      ∃ used, used ≠ [] ∧ Spared link.clientId used before after ∧
        ((∃ raised, ended = .error raised ∧ interrupted used = true ∧ after.unpairsSent = before.unpairsSent ∧
            ((∀ happening ∈ used, touches link.clientId happening = false) → link.stored after = none)) ∨
          ended = .ok () ∧ after.unpairsSent = before.unpairsSent + 1 ∧
            (Alone used → before.fresh → after.fresh)) := by
  rw [Link.unpair] at ran
  have chosen := read_ended ran
  cases attached : before.client.bind ServerClient.connection with
  | none =>
      rw [attached] at chosen
      cases chosen
      exact .inl ⟨rfl, rfl⟩
  | some connection =>
      rw [attached] at chosen
      right
      rcases bind_ended chosen with ⟨value, dropped, removed, followed⟩ | ⟨raised, removed, rfl⟩
      · obtain ⟨used, early, wrote, returned, held, unsent⟩ := remove_record_spared link before dropped _ removed
        rcases bind_ended followed with ⟨value, refreshed, served, sends⟩ | ⟨raised, served, rfl⟩
        · obtain ⟨more, single, _, passed⟩ := link.await_saved _ dropped refreshed _ served
          have late : Spared link.clientId more dropped refreshed := spared_saved single passed rfl fun _ _ => rfl
          have whole := spared_append early late
          cases sends
          refine ⟨used ++ more, List.append_ne_nil_of_right_ne_nil _ (single_reached more single),
            ⟨whole.taken, whole.whole, whole.others, whole.last, whole.still⟩, .inr ⟨rfl, ?_, fun alone fresh => ?_⟩⟩
          · exact congrArg (· + 1) (passed.sent.trans unsent)
          · obtain ⟨aloneFirst, aloneSecond⟩ := List.forall_mem_append.mp alone
            refine (passed.file aloneSecond).fresh ?_
            rcases wrote with ⟨_, rfl⟩ | ⟨_, wrote⟩
            · exact fresh
            · exact wrote returned aloneFirst
        · obtain ⟨more, single, cause, passed⟩ := link.await_saved _ dropped after _ served
          have late : Spared link.clientId more dropped after := spared_saved single passed rfl fun _ _ => rfl
          have reached := single_reached more single
          refine ⟨used ++ more, List.append_ne_nil_of_right_ne_nil _ reached, spared_append early late,
            .inl ⟨raised, rfl, ?_, passed.sent.trans unsent, fun untouched => ?_⟩⟩
          · rw [interrupted_append used more reached, cause]
            rfl
          · obtain ⟨quiet, quietLater⟩ := List.forall_mem_append.mp untouched
            have gone : link.stored dropped = none := held.trans (held_untouched link.clientId used none quiet)
            rw [Link.stored, passed.held, held_untouched link.clientId more _ quietLater]
            exact gone
      · obtain ⟨used, spared, _, cause, held, unsent⟩ := remove_record_spared link before after _ removed
        have reached : used ≠ [] := by
          rintro rfl
          cases cause
        exact ⟨used, reached, spared, .inl ⟨raised, rfl, cause, unsent, fun untouched =>
          held.trans (held_untouched link.clientId used none untouched)⟩⟩

variable [UnicodeData]

theorem unpaired_kept (options : SuiteOptions) (before after : List Finding × World) (ended : Py Unit)
    (ran : (unpaired link options).from before = some (ended, after)) : UnpairedKept link before.2 after.2 := by
  have restoring : ((unpairedSteps link options).afterwards (restore link (link.stored before.2)).within).from before =
      some (ended, after) := ran
  obtain ⟨result, between, outcome, stepped, cleaned⟩ := afterwards_cleaned restoring
  obtain ⟨used, spared, _⟩ := unpaired_steps_relates (sequential_steered link.clientId) (await_steered link)
    (remove_record_steered link) options before result between stepped
  have finished := (within_ended cleaned).1
  cases earlier : link.stored before.2 with
  | none =>
      rw [earlier] at finished
      have returned : some ((Except.ok () : Py Unit), between.2) = some (outcome, after.2) := finished
      have same : between.2 = after.2 := (Prod.mk.inj (Option.some.inj returned)).2
      obtain ⟨also, taken, kept⟩ := unpaired_steps_relates (sequential_holding (Unpaired link))
        (await_holding link _ (unpaired_kept_waiting link)) (remove_record_unpaired link) options before result between stepped
      rw [← same]
      refine ⟨fun record isStored => ?_, others_kept link spared, fun alone _ fresh => ?_⟩
      · rw [earlier] at isStored
        cases isStored
      · rw [used_in also _ _ taken] at alone
        exact (kept alone ⟨fresh, earlier⟩).1
  | some record =>
      rw [earlier] at finished
      have own := stored_own link before.2 record earlier
      obtain ⟨more, single, cause, passed, wrote⟩ := link.store_record_saved record between.2 after.2 outcome finished
      have saved : Spared link.clientId more between.2 after.2 :=
        spared_saved single passed rfl fun other apart => Link.put_other record between.2 other (own ▸ apart)
      have whole := spared_append spared saved
      refine ⟨fun held isHeld => ?_, others_kept link whole, file_follows whole.taken single fun returned => wrote ?_⟩
      · rw [earlier, Option.some.injEq] at isHeld
        rw [← isHeld, lasts_saved link (some record) whole.taken spared.whole single, Link.stored, passed.held, ← own,
          Link.put_own]
      · rw [cause] at returned
        exact Option.isNone_iff_eq_none.mp (Option.isSome_eq_false_iff.mp returned)

theorem r3_cases (before after : World) (ended : Py (List Finding)) (record : ServerPairingRecord)
    (isStored : link.stored before = some record) (ran : (r3 link).from before = some (ended, after)) :
    (∃ used, Single used ∧ interrupted used = true ∧ Spared link.clientId used before after ∧
        link.stored after = heldAfter link.clientId used none ∧ after.admitUnpaired = before.admitUnpaired) ∨
      ∃ used last, Whole used ∧ waits used ≠ 0 ∧ Single last ∧ Spared link.clientId (used ++ last) before after ∧
        link.stored after = heldAfter link.clientId last (some record) ∧ after.admitUnpaired = (!interrupted last) ∧
        (interrupted last = false → Alone last → after.fresh) := by
  have own := stored_own link before record isStored
  rw [r3] at ran
  have chosen := read_ended ran
  rw [isStored] at chosen
  rcases bind_ended chosen with ⟨value, cleared, removed, followed⟩ | ⟨raised, removed, _⟩
  · rcases link.remove_record_cases before cleared _ removed with ⟨absent, _⟩ | ⟨_, used, single, _, passed, _⟩
    · rw [isStored] at absent
      cases absent
    · have early : Spared link.clientId used before cleared := spared_saved single passed rfl (link.pop_other before)
      have resumed := change_ended followed
      have tried : ∃ result, (Program.afterwards (forgotten link) (restoreAdmitting link record)).from
          { cleared with admitUnpaired := false } = some (result, after) := by
        rcases bind_ended resumed with ⟨number, last, tried, judged⟩ | ⟨raised, tried, _⟩
        · cases number with
          | none =>
              cases judged
              exact ⟨_, tried⟩
          | some connected =>
              cases judged
              exact ⟨_, tried⟩
        · exact ⟨_, tried⟩
      obtain ⟨result, tried⟩ := tried
      obtain ⟨more, last, whole, ends, late, held, admits, wrote⟩ := forgotten_restored link record own _ after rfl tried
      have passing : Spared link.clientId used before { cleared with admitUnpaired := false } :=
        ⟨early.taken, early.whole, early.others, early.last, early.still⟩
      refine .inr ⟨used ++ more, last, whole_append used more early.whole whole, ?_, ends, ?_, held, admits, wrote⟩
      · rw [waits_append, single_waits used single]
        omega
      · rw [List.append_assoc]
        exact spared_append passing late
  · rcases link.remove_record_cases before after _ removed with ⟨absent, _⟩ | ⟨_, used, single, cause, passed, _⟩
    · rw [isStored] at absent
      cases absent
    · refine .inl ⟨used, single, cause, spared_saved single passed rfl (link.pop_other before), ?_, passed.admits⟩
      rw [Link.stored, passed.held, Link.pop_own]

theorem r3_kept (before after : World) (ended : Py (List Finding))
    (ran : (r3 link).from before = some (ended, after)) : R3Kept link before after := by
  cases stored : link.stored before with
  | none =>
      have same : after = before := by
        rw [r3] at ran
        have chosen := read_ended ran
        rw [stored] at chosen
        cases chosen
        rfl
      rw [same]
      refine ⟨fun record isStored => ?_, fun _ => rfl, others_kept link (spared_nil link.clientId before),
        file_follows_here before⟩
      rw [stored] at isStored
      cases isStored
  | some record =>
      rcases r3_cases link before after ended record stored ran with
        ⟨used, single, cause, spared, held, admits⟩ | ⟨used, last, whole, waited, single, spared, held, admits, wrote⟩
      · refine ⟨fun filed isFiled => ?_, fun absent => ?_, others_kept link spared, fun _ returned _ => ?_⟩
        · rw [stored, Option.some.injEq] at isFiled
          rw [R3Restores, used_in used before after spared.taken, if_pos (single_waits used single), held, admits,
            single_held link.clientId used none single]
          exact and_comm
        · rw [stored] at absent
          cases absent
        · rw [used_in used before after spared.taken, cause] at returned
          cases returned
      · refine ⟨fun filed isFiled => ?_, fun absent => ?_, others_kept link spared, file_follows spared.taken single wrote⟩
        · rw [stored, Option.some.injEq] at isFiled
          have several : waits (used ++ last) ≠ 1 := by
            rw [waits_append, single_waits last single]
            omega
          rw [R3Restores, lasts_saved link (some filed) spared.taken whole single,
            used_in (used ++ last) before after spared.taken, if_neg several, held, admits, Bool.not_eq_true',
            interrupted_append used last (single_reached last single), isFiled]
          exact and_comm
        · rw [stored] at absent
          cases absent

-- What R4 does once server/unpair went out ends with no record, unless others file one during the last save.
theorem unpaired_removed (record : ServerPairingRecord) (own : record.clientId = link.clientId) (number : Nat)
    {start before after : World} {ended : Py (List Finding)} {used : List Happening}
    (early : Spared link.clientId used start before)
    (ran : (Program.afterwards (judgeUnpaired link record number) link.removeRecord).from before = some (ended, after)) :
    (∃ all, Spared link.clientId all start after) ∧ (link.stored after = none ↔ Lasts link start after none) ∧
      after.unpairsSent = before.unpairsSent ∧ ((Alone used → start.fresh → before.fresh) → FileFollows start after) := by
  obtain ⟨result, reached, finish, judged, done⟩ := afterwards_cleaned ran
  obtain ⟨more, judging, unsent⟩ := judge_unpaired_relates (sequential_steered link.clientId) (await_steered link) record
    (store_record_steered link record own) number before result reached judged
  obtain ⟨also, taken, kept⟩ := judge_unpaired_relates (sequential_holding (Removable link))
    (await_holding link _ (removable_kept_waiting link)) record (store_record_removable link record own) number before result
    reached judged
  have same : also = more := List.append_cancel_right (taken.symm.trans judging.taken)
  obtain ⟨last, spared, ends, _, held, stillUnsent⟩ := remove_record_spared link reached after finish done
  have sofar := spared_append early judging
  have whole := spared_append sofar spared
  refine ⟨⟨_, whole⟩, ?_, stillUnsent.trans unsent, fun follows => ?_⟩
  rotate_left
  · rcases ends with ⟨rfl, rfl⟩ | ⟨single, wrote⟩
    · intro alone _ fresh
      rw [used_in _ start after whole.taken, List.append_nil] at alone
      obtain ⟨aloneFirst, aloneSecond⟩ := List.forall_mem_append.mp alone
      refine (kept (same ▸ aloneSecond) (.inl (follows aloneFirst fresh))).resolve_right ?_
      rw [held]
      exact Bool.false_ne_true
    · exact file_follows whole.taken single wrote
  rcases ends with ⟨rfl, _⟩ | ⟨single, _⟩
  · obtain ⟨filed, isFiled⟩ := sofar.last
    have gone : heldAfter link.clientId (lastWait (used ++ more)) filed = none := by
      rw [← isFiled, ← spared.still rfl]
      exact held
    rw [Lasts, used_in _ start after whole.taken, List.append_nil]
    exact iff_of_true held (held_none link.clientId _ filed gone)
  · rw [lasts_saved link none whole.taken sofar.whole single, held]

omit [UnicodeData] in
theorem raised_kept {before after : World} {used : List Happening} (raised : PyError) {cause : Option PyError}
    (passed : Passed used before cause after) (spared : Spared link.clientId used before after) :
    R4Kept link before (.error raised) after where
  sent counted := absurd passed.sent (Nat.ne_of_gt counted)
  early returned := by cases returned
  untouched returned := by cases returned
  others := others_kept link spared
  file alone _ := (passed.file (used_in used before after passed.taken ▸ alone)).fresh

-- R4 returned before server.unpair touched the store.
omit [UnicodeData] in
theorem early_kept {before after : World} {used : List Happening} (ended : Py (List Finding))
    (passed : Passed used before none after) (spared : Spared link.clientId used before after) :
    R4Kept link before ended after where
  sent counted := absurd passed.sent (Nat.ne_of_gt counted)
  early _ _ _ := by
    rw [used_in used before after passed.taken]
    exact passed.held link.clientId
  untouched _ _ quiet := by
    rw [used_in used before after passed.taken] at quiet ⊢
    refine iff_of_true ?_ (passed.ends rfl)
    exact (passed.held link.clientId).trans (held_untouched link.clientId used _ quiet)
  others := others_kept link spared
  file alone _ := (passed.file (used_in used before after passed.taken ▸ alone)).fresh

-- An exception out of server.unpair, which R4 may take for a disconnect, leaves no record.
omit [UnicodeData] in
theorem dropped_kept {before after : World} {used more : List Happening} (ended : Py (List Finding))
    (stored : (link.stored before).isSome = true) (unsent : after.unpairsSent = before.unpairsSent)
    (spared : Spared link.clientId (used ++ more) before after) (reached : more ≠ []) (cause : interrupted more = true)
    (gone : (∀ happening ∈ more, touches link.clientId happening = false) → link.stored after = none) :
    R4Kept link before ended after where
  sent counted := absurd unsent (Nat.ne_of_gt counted)
  early _ _ returned := by
    rw [used_in _ before after spared.taken, interrupted_append used more reached, cause] at returned
    cases returned
  untouched _ _ quiet := by
    rw [used_in _ before after spared.taken] at quiet ⊢
    rw [interrupted_append used more reached, cause, gone (List.forall_mem_append.mp quiet).2]
    refine iff_of_false (fun same => ?_) Bool.noConfusion
    rw [← same] at stored
    cases stored
  others := others_kept link spared
  file _ returned := by
    rw [used_in _ before after spared.taken, interrupted_append used more reached, cause] at returned
    cases returned

theorem r4_kept (before after : World) (ended : Py (List Finding))
    (ran : (r4 link).from before = some (ended, after)) : R4Kept link before ended after := by
  rw [r4] at ran
  have chosen := read_ended ran
  have opens : ∀ result opened, link.openConnection.from before = some (result, opened) →
      ∃ used, Passed used before (exceptionOf result) opened ∧ Spared link.clientId used before opened := by
    intro result opened connected
    obtain ⟨used, passed⟩ := link.relates_open_connection sequential_waited link.await_waited before result opened connected
    obtain ⟨also, spared, _⟩ := link.relates_open_connection (sequential_steered link.clientId) (await_steered link)
      before result opened connected
    have same : also = used := List.append_cancel_right (spared.taken.symm.trans passed.taken)
    exact ⟨used, passed, same ▸ spared⟩
  rcases bind_ended chosen with ⟨number, opened, connected, followed⟩ | ⟨raised, connected, rfl⟩
  swap
  · obtain ⟨used, passed, spared⟩ := opens _ after connected
    exact raised_kept link raised passed spared
  obtain ⟨used, passed, spared⟩ := opens _ opened connected
  cases stored : link.stored before with
  | none =>
      rw [stored] at followed
      cases followed
      exact early_kept link _ passed spared
  | some record =>
      rw [stored] at followed
      cases number with
      | none =>
          cases followed
          exact early_kept link _ passed spared
      | some connection =>
          have own := stored_own link before record stored
          have isStored : (link.stored before).isSome = true := by rw [stored]; rfl
          obtain ⟨result, reached, unpaired, judged⟩ := settled_ended followed
          rcases unpair_cases link opened reached result unpaired with
            ⟨rfl, rfl⟩ | ⟨more, nonempty, late, ⟨raised, rfl, cause, unsent, gone⟩ | ⟨rfl, counted, written⟩⟩
          · cases judged
            exact early_kept link _ passed spared
          · have same : after = reached := by
              by_cases caught : isValueError raised = true
              · simp only [if_pos caught] at judged
                cases judged
                rfl
              · simp only [if_neg caught] at judged
                cases judged
                rfl
            rw [same]
            exact dropped_kept link ended isStored (unsent.trans passed.sent) (spared_append spared late) nonempty cause gone
          · obtain ⟨⟨all, whole⟩, removed, still, follows⟩ :=
              unpaired_removed link record own connection (spared_append spared late) judged
            have sent : after.unpairsSent = before.unpairsSent + 1 := by rw [still, counted, passed.sent]
            refine ⟨fun _ => removed, fun _ unsent => ?_, fun _ unsent => ?_, others_kept link whole, follows fun alone fresh => ?_⟩
            · omega
            · omega
            · obtain ⟨aloneFirst, aloneSecond⟩ := List.forall_mem_append.mp alone
              exact written aloneSecond ((passed.file aloneFirst).fresh fresh)

-- However a step ends, the store holds for the client what it should, exactly where nobody changes the record
-- during the step's last wait, and where an exception does not end the last wait of R3 or of an R4 that sent nothing.
theorem records_survive :
    (∀ options before ended after, (unpaired link options).from before = some (ended, after) →
        UnpairedKept link before.2 after.2) ∧
      (∀ before ended after, (r3 link).from before = some (ended, after) → R3Kept link before after) ∧
      ∀ before ended after, (r4 link).from before = some (ended, after) → R4Kept link before ended after :=
  ⟨fun options before ended after => unpaired_kept link options before after ended,
    fun before ended after => r3_kept link before after ended,
    fun before ended after => r4_kept link before after ended⟩

omit [UnicodeData] in
theorem ok_returned {α : Type} {ended : Py α} (isOk : ended.isOk = true) : ∃ value, ended = .ok value := by
  cases ended with
  | ok value => exact ⟨value, rfl⟩
  | error raised => cases isOk

section runs

def pairedApp : Link := ⟨"client", none, [], fun _ => .notJson ""⟩

def longTerm : ServerPairingRecord := ⟨"psk", [], "client"⟩

def cancelledError : PyError := ⟨"CancelledError", ""⟩

-- The app is paired and connected, and never reconnects.
def pairedWorld (script : List Happening) : World where
  recorder := observeEvent {} 1 "client" .keyed (some "long_term") none
  client := some ⟨some ⟨1, some "long_term"⟩, 0⟩
  pairings := PairingStore.empty.put longTerm
  saved := PairingStore.empty.put longTerm
  script := script

def yes : Happening := .yesNo ⟨.answered, some true⟩

def skips : Happening := .yesNo ⟨.skip, none⟩

-- The waits of a reconnect that fails: the disconnect returns, no close is seen, and no new connection.
def noReturn : List Happening := [.returned, .timedOut, .timedOut]

-- U1 forgets the pairing, the app pairs anew meanwhile, and the run is cancelled while the record is restored.
def restoredWorld : World :=
  pairedWorld ([yes, .returned, .paired ⟨"new", [], "client"⟩] ++ noReturn ++ [skips, skips, .raised cancelledError])

-- R3 runs to its end, is cancelled in the save of its removal, or in the save that restores the record.
def r3World : World := pairedWorld (.returned :: noReturn ++ [.returned])

def r3Removing : World := pairedWorld [.raised cancelledError]

def r3Restoring : World := pairedWorld (.returned :: noReturn ++ [.raised cancelledError])

-- server/unpair goes out, no goodbye comes, and the record is stored and removed again.
def r4World : World := pairedWorld ([.returned, .returned, .timedOut, .returned] ++ noReturn ++ [.returned])

omit [UnicodeData] in
theorem undisturbed_records_survive :
    (∃ ended reported after, (@unpaired noUnicode pairedApp ⟨[.unpaired], false⟩).from ([], restoredWorld) =
        some (ended, (reported, after)) ∧ pairedApp.stored after = some longTerm) ∧
      (∃ findings after, (@r3 noUnicode pairedApp).from r3World = some (.ok findings, after) ∧
        pairedApp.stored after = some longTerm ∧ after.admitUnpaired = true ∧ after.fresh) ∧
      ∃ findings after, (@r4 noUnicode pairedApp).from r4World = some (.ok findings, after) ∧
        r4World.unpairsSent < after.unpairsSent ∧ pairedApp.stored after = none := by
  obtain ⟨suite, forgets, unpairs⟩ := @records_survive pairedApp noUnicode
  refine ⟨?_, ?_, ?_⟩
  · have spent : (((@unpaired noUnicode pairedApp ⟨[.unpaired], false⟩).from ([], restoredWorld)).map
        fun ended => ended.2.2.script.length) = some 0 := by decide +kernel
    obtain ⟨⟨ended, reported, after⟩, ran, spent⟩ := Option.map_eq_some_iff.mp spent
    refine ⟨ended, reported, after, ran, ((suite _ ([], restoredWorld) _ _ ran).held longTerm rfl).mpr ?_⟩
    rw [Lasts, usedIn, spent]
    rfl
  · have spent : (((@r3 noUnicode pairedApp).from r3World).map
        fun ended => (ended.1.isOk, ended.2.script.length)) = some (true, 0) := by decide +kernel
    obtain ⟨⟨ended, after⟩, ran, same⟩ := Option.map_eq_some_iff.mp spent
    obtain ⟨isOk, spent⟩ := Prod.mk.inj same
    obtain ⟨findings, rfl⟩ := ok_returned isOk
    have kept := forgets r3World _ _ ran
    have used : usedIn r3World after = r3World.script := by
      rw [usedIn, spent]
      rfl
    obtain ⟨stored, admits⟩ := (kept.held longTerm rfl).mpr (by rw [R3Restores, Lasts, used]; exact ⟨rfl, rfl⟩)
    refine ⟨findings, after, ran, stored, admits, kept.file ?_ (by rw [used]; rfl) rfl⟩
    rw [used]
    simp [Alone, r3World, pairedWorld, noReturn, others]
  · have spent : (((@r4 noUnicode pairedApp).from r4World).map
        fun ended => (ended.1.isOk, ended.2.script.length, ended.2.unpairsSent)) = some (true, 0, 1) := by decide +kernel
    obtain ⟨⟨ended, after⟩, ran, same⟩ := Option.map_eq_some_iff.mp spent
    obtain ⟨isOk, spent, counted⟩ : ended.isOk = true ∧ after.script.length = 0 ∧ after.unpairsSent = 1 := by
      simpa using same
    obtain ⟨findings, rfl⟩ := ok_returned isOk
    have sent : r4World.unpairsSent < after.unpairsSent := by rw [counted]; exact Nat.zero_lt_one
    refine ⟨findings, after, ran, sent, ((unpairs r4World _ _ ran).sent sent).mpr ?_⟩
    rw [Lasts, usedIn, spent]
    rfl

-- The device is unpaired for good, or unpaired clients stay unapproved.
omit [UnicodeData] in
theorem interrupted_r3_loses :
    (∃ after, (@r3 noUnicode pairedApp).from r3Removing = some (.error cancelledError, after) ∧
        pairedApp.stored r3Removing = some longTerm ∧ pairedApp.stored after = none) ∧
      ∃ after, (@r3 noUnicode pairedApp).from r3Restoring = some (.error cancelledError, after) ∧
        r3Restoring.admitUnpaired = true ∧ after.admitUnpaired = false :=
  ⟨⟨_, rfl, rfl, rfl⟩, ⟨_, rfl, rfl, rfl⟩⟩

end runs

end Conformance.Validator.SuiteRunner
