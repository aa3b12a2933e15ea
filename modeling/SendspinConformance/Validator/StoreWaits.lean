import Mathlib.Data.List.TakeWhile
import SendspinConformance.Validator.LinkWaits

set_option autoImplicit false

namespace Conformance.Validator

open Python Base

-- What happens at any wait and ends none.
def idle : Happening → Bool
  | .called _ | .client _ | .paired _ | .unpaired _ | .written | .locked => true
  | _ => false

-- Somebody else changes the records.
def others : Happening → Bool
  | .paired _ | .unpaired _ => true
  | _ => false

def Alone (used : List Happening) : Prop := ∀ happening ∈ used, others happening = false

-- The file holds the records in memory.
def World.fresh (world : World) : Prop := world.saved = world.pairings

-- The record filed under an id after something happened beside the steps.
def heldBy (clientId : String) (held : Option ServerPairingRecord) : Happening → Option ServerPairingRecord
  | .paired record => if record.clientId = clientId then some record else held
  | .unpaired dropped => if dropped = clientId then none else held
  | _ => held

-- The record filed under an id where only others change the store.
def heldAfter (clientId : String) (used : List Happening) (held : Option ServerPairingRecord) :
    Option ServerPairingRecord :=
  used.foldl (heldBy clientId) held

-- What happened during the last of the waits, which its end follows.
def lastWait (used : List Happening) : List Happening := (used.reverse.tail.takeWhile idle).reverse

-- An exception ended the last of the waits.
def interrupted (used : List Happening) : Bool :=
  match used.getLast? with
  | some (.raised _) => true
  | _ => false

-- How many waits ended.
def waits (used : List Happening) : Nat := used.countP fun happening => !idle happening

-- No wait is left unfinished.
def Whole (used : List Happening) : Prop := ∀ last, used.getLast? = some last → idle last = false

def Single (used : List Happening) : Prop :=
  ∃ quiet last, used = quiet ++ [last] ∧ (∀ happening ∈ quiet, idle happening = true) ∧ idle last = false

-- What others leave of the store and its file where they change no record.
structure FileKept (before after : World) : Prop where
  records : after.pairings = before.pairings
  fresh : before.fresh → after.fresh
  payload : before.payload = before.pairings → after.payload = after.pairings

theorem file_kept_refl (world : World) : FileKept world world := ⟨rfl, id, id⟩

theorem file_kept_trans {before between after : World} (early : FileKept before between) (late : FileKept between after) :
    FileKept before after :=
  ⟨late.records.trans early.records, late.fresh ∘ early.fresh, late.payload ∘ early.payload⟩

-- What a program read of the script while only others changed the store.
structure Passed (used : List Happening) (before : World) (raised : Option PyError) (after : World) : Prop where
  taken : before.script = used ++ after.script
  whole : Whole used
  ends : raised = none → interrupted used = false
  held : ∀ clientId, after.pairings.records clientId = heldAfter clientId used (before.pairings.records clientId)
  admits : after.admitUnpaired = before.admitUnpaired
  sent : after.unpairsSent = before.unpairsSent
  file : Alone used → FileKept before after

def Waited (before : World) (raised : Option PyError) (after : World) : Prop := ∃ used, Passed used before raised after

-- A wait of its own, with the store changed before it.
def Saved (changed : World) (raised : Option PyError) (after : World) : Prop :=
  ∃ used, Single used ∧ interrupted used = raised.isSome ∧ Passed used changed raised after

-- A save that returned has written what was changed.
def Written (changed : World) (raised : Option PyError) (after : World) : Prop :=
  ∃ used, Single used ∧ interrupted used = raised.isSome ∧ Passed used changed raised after ∧
    (raised = none → Alone used → after.fresh)

theorem written_saved {changed after : World} {raised : Option PyError} (written : Written changed raised after) :
    Saved changed raised after := by
  obtain ⟨used, single, cause, passed, _⟩ := written
  exact ⟨used, single, cause, passed⟩

theorem held_after_append (clientId : String) (first second : List Happening) (held : Option ServerPairingRecord) :
    heldAfter clientId (first ++ second) held = heldAfter clientId second (heldAfter clientId first held) :=
  List.foldl_append

-- What was filed before shows only where others leave it.
theorem held_none (clientId : String) (used : List Happening) (held : Option ServerPairingRecord)
    (dropped : heldAfter clientId used held = none) : heldAfter clientId used none = none := by
  induction used generalizing held with
  | nil => rfl
  | cons happening rest ih =>
      cases happening with
      | paired record =>
          by_cases own : record.clientId = clientId
          · simpa only [heldAfter, List.foldl_cons, heldBy, if_pos own] using dropped
          · simp only [heldAfter, List.foldl_cons, heldBy, if_neg own] at dropped ⊢
            exact ih held dropped
      | unpaired other =>
          by_cases own : other = clientId
          · simpa only [heldAfter, List.foldl_cons, heldBy, if_pos own] using dropped
          · simp only [heldAfter, List.foldl_cons, heldBy, if_neg own] at dropped ⊢
            exact ih held dropped
      | _ => exact ih held dropped

theorem whole_nil : Whole [] := by
  intro last isLast
  cases isLast

theorem whole_append (first second : List Happening) (before : Whole first) (after : Whole second) :
    Whole (first ++ second) := by
  intro last isLast
  rw [List.getLast?_append] at isLast
  cases ended : second.getLast? with
  | none =>
      rw [ended] at isLast
      exact before last isLast
  | some latest =>
      rw [ended] at isLast
      cases isLast
      exact after last ended

theorem single_whole (used : List Happening) (single : Single used) : Whole used := by
  obtain ⟨quiet, last, rfl, _, ends⟩ := single
  intro latest isLast
  rw [List.getLast?_concat] at isLast
  cases isLast
  exact ends

theorem interrupted_append (first second : List Happening) (reached : second ≠ []) :
    interrupted (first ++ second) = interrupted second := by
  rw [interrupted, interrupted, List.getLast?_append_of_ne_nil _ reached]

theorem last_wait_append (first second : List Happening) (whole : Whole first) (reached : second ≠ []) :
    lastWait (first ++ second) = lastWait second := by
  have none_idle : first.reverse.takeWhile idle = [] := by
    cases backwards : first.reverse with
    | nil => rfl
    | cons last rest =>
        have isLast : first.getLast? = some last := by
          rw [← List.head?_reverse, backwards]
          rfl
        rw [List.takeWhile_cons, whole last isLast]
        rfl
  have kept : second.reverse ≠ [] := by simpa using reached
  rw [lastWait, lastWait, List.reverse_append, List.tail_append_of_ne_nil kept, List.takeWhile_append, none_idle]
  by_cases all : (second.reverse.tail.takeWhile idle).length = second.reverse.tail.length
  · rw [if_pos all, List.append_nil, (List.takeWhile_prefix idle).eq_of_length all]
  · rw [if_neg all]

theorem last_wait_single (quiet : List Happening) (last : Happening)
    (quieted : ∀ happening ∈ quiet, idle happening = true) : lastWait (quiet ++ [last]) = quiet := by
  rw [lastWait, List.reverse_concat, List.tail_cons, List.takeWhile_eq_self_iff.mpr, List.reverse_reverse]
  intro happening isIn
  exact quieted happening (List.mem_reverse.mp isIn)

theorem single_reached (used : List Happening) (single : Single used) : used ≠ [] := by
  obtain ⟨quiet, last, rfl, _, _⟩ := single
  exact List.concat_ne_nil last quiet

-- The happening that ends a wait leaves the store alone.
theorem held_by_end (clientId : String) (held : Option ServerPairingRecord) (last : Happening)
    (ends : idle last = false) : heldBy clientId held last = held := by
  cases last with
  | paired _ | unpaired _ => cases ends
  | _ => rfl

theorem single_held (clientId : String) (used : List Happening) (held : Option ServerPairingRecord)
    (single : Single used) : heldAfter clientId used held = heldAfter clientId (lastWait used) held := by
  obtain ⟨quiet, last, rfl, quieted, ends⟩ := single
  rw [last_wait_single quiet last quieted, held_after_append]
  exact held_by_end clientId _ last ends

theorem single_waits (used : List Happening) (single : Single used) : waits used = 1 := by
  obtain ⟨quiet, last, rfl, quieted, ends⟩ := single
  have none_ended : quiet.countP (fun happening => !idle happening) = 0 := by
    rw [List.countP_eq_zero]
    intro happening isIn
    rw [quieted happening isIn]
    exact Bool.false_ne_true
  rw [waits, List.countP_append, none_ended, List.countP_singleton, ends]
  rfl

theorem waits_append (first second : List Happening) : waits (first ++ second) = waits first + waits second :=
  List.countP_append

theorem passed_append {first second : List Happening} {before between after : World} {raised : Option PyError}
    (early : Passed first before none between) (late : Passed second between raised after) :
    Passed (first ++ second) before raised after where
  taken := by rw [early.taken, late.taken, List.append_assoc]
  whole := whole_append first second early.whole late.whole
  ends := by
    intro returned
    by_cases reached : second = []
    · rw [reached, List.append_nil]
      exact early.ends rfl
    · rw [interrupted_append first second reached]
      exact late.ends returned
  held clientId := by rw [late.held, early.held, held_after_append]
  admits := late.admits.trans early.admits
  sent := late.sent.trans early.sent
  file alone := by
    obtain ⟨aloneFirst, aloneSecond⟩ := List.forall_mem_append.mp alone
    exact file_kept_trans (early.file aloneFirst) (late.file aloneSecond)

theorem passed_nil (state : World) (raised : Option PyError) : Passed [] state raised state where
  taken := rfl
  whole := whole_nil
  ends _ := rfl
  held _ := rfl
  admits := rfl
  sent := rfl
  file _ := file_kept_refl state

theorem sequential_waited : Sequential Waited where
  here state raised := ⟨[], passed_nil state raised⟩
  trans := by
    rintro first between raised after ⟨used, early⟩ ⟨more, late⟩
    exact ⟨used ++ more, passed_append early late⟩

namespace Link

variable (link : Link)

theorem absorb_idle (world next : World) (happening : Happening) (absorbed : link.absorb world happening = some next) :
    idle happening = true ∧ next.script = world.script ∧ next.admitUnpaired = world.admitUnpaired ∧
      next.unpairsSent = world.unpairsSent ∧
      (∀ clientId, next.pairings.records clientId = heldBy clientId (world.pairings.records clientId) happening) ∧
      (others happening = false → FileKept world next) := by
  cases happening with
  | called _ | client _ =>
      cases absorbed
      exact ⟨rfl, rfl, rfl, rfl, fun _ => rfl, fun _ => ⟨rfl, id, id⟩⟩
  | paired record =>
      cases absorbed
      refine ⟨rfl, rfl, rfl, rfl, fun clientId => ?_, fun alone => by cases alone⟩
      simp only [PairingStore.put, Function.update_apply, heldBy, eq_comm]
  | unpaired dropped =>
      cases absorbed
      refine ⟨rfl, rfl, rfl, rfl, fun clientId => ?_, fun alone => by cases alone⟩
      simp only [PairingStore.pop, Function.update_apply, heldBy, eq_comm]
  | written =>
      cases absorbed
      exact ⟨rfl, rfl, rfl, rfl, fun _ => rfl, fun _ => ⟨rfl, fun _ => rfl, id⟩⟩
  | locked =>
      cases absorbed
      exact ⟨rfl, rfl, rfl, rfl, fun _ => rfl, fun _ => ⟨rfl, id, fun _ => rfl⟩⟩
  | _ => cases absorbed

theorem await_from_saved {α : Type} (ends : Happening → Option α) (script : List Happening) (world after : World)
    (ended : Py α) (ran : awaitFrom link ends script world = some (ended, after)) :
    ∃ quiet last, script = quiet ++ last :: after.script ∧ (∀ happening ∈ quiet, idle happening = true) ∧
      idle last = false ∧ interrupted [last] = (exceptionOf ended).isSome ∧
      (∀ clientId, after.pairings.records clientId = heldAfter clientId quiet (world.pairings.records clientId)) ∧
      after.admitUnpaired = world.admitUnpaired ∧ after.unpairsSent = world.unpairsSent ∧
      (Alone quiet → FileKept world after) := by
  induction script generalizing world with
  | nil => cases ran
  | cons happening rest ih =>
      cases absorbed : link.absorb world happening with
      | some next =>
          simp only [awaitFrom, absorbed] at ran
          obtain ⟨quiet, last, split, quieted, stops, cause, held, admits, sent, file⟩ := ih next ran
          obtain ⟨passes, _, admitted, counted, changed, first⟩ := link.absorb_idle world next happening absorbed
          refine ⟨happening :: quiet, last, congrArg _ split, List.forall_mem_cons.mpr ⟨passes, quieted⟩, stops, cause,
            ?_, admits.trans admitted, sent.trans counted, fun alone => ?_⟩
          · intro clientId
            rw [held, changed]
            rfl
          · obtain ⟨here, rest⟩ := List.forall_mem_cons.mp alone
            exact file_kept_trans (first here) (file rest)
      | none =>
          refine ⟨[], happening, ?_⟩
          cases happening with
          | called _ | client _ | paired _ | unpaired _ | written | locked => cases absorbed
          | raised error =>
              cases ran
              exact ⟨rfl, List.forall_mem_nil _, rfl, rfl, fun _ => rfl, rfl, rfl, fun _ => ⟨rfl, id, id⟩⟩
          | _ =>
              obtain ⟨value, _, same⟩ := Option.map_eq_some_iff.mp ran
              cases same
              exact ⟨rfl, List.forall_mem_nil _, rfl, rfl, fun _ => rfl, rfl, rfl, fun _ => ⟨rfl, id, id⟩⟩

-- Whatever it waits for, a wait ends with one happening, and only others change the store meanwhile.
theorem await_saved {α : Type} (ends : Happening → Option α) (before after : World) (ended : Py α)
    (ran : (link.await ends).from before = some (ended, after)) : Saved before (exceptionOf ended) after := by
  obtain ⟨quiet, last, split, quieted, stops, cause, held, admits, sent, file⟩ :=
    link.await_from_saved ends before.script before after ended ran
  have single : Single (quiet ++ [last]) := ⟨quiet, last, rfl, quieted, stops⟩
  have known : interrupted (quiet ++ [last]) = (exceptionOf ended).isSome := by
    rw [interrupted_append quiet [last] (List.cons_ne_nil last []), cause]
  refine ⟨quiet ++ [last], single, known, ?_⟩
  exact {
    taken := by rw [split, List.append_assoc, List.singleton_append]
    whole := single_whole _ single
    ends := by
      intro returned
      rw [known, returned]
      rfl
    held := by
      intro clientId
      rw [held, held_after_append]
      exact (held_by_end clientId _ last stops).symm
    admits := admits
    sent := sent
    file := fun alone => file (List.forall_mem_append.mp alone).1 }

theorem await_waited {α : Type} (ends : Happening → Option α) : Relates Waited (link.await ends) := by
  intro before ended after ran
  obtain ⟨used, _, _, passed⟩ := link.await_saved ends before after ended ran
  exact ⟨used, passed⟩

-- The world in which a step's own change to the store is yet to be saved.
def putting (record : ServerPairingRecord) (world : World) : World :=
  { world with pairings := world.pairings.put record }

def popping (world : World) : World := { world with pairings := world.pairings.pop link.clientId }

theorem save_written (changed after : World) (ended : Py Unit) (ran : link.save.from changed = some (ended, after)) :
    Written changed (exceptionOf ended) after := by
  have served := change_ended ran
  rcases bind_ended served with ⟨value, reached, waited, wrote⟩ | ⟨raised, waited, rfl⟩
  · obtain ⟨used, single, cause, passed⟩ := link.await_saved _ _ reached _ waited
    cases wrote
    have kept (alone : Alone used) : reached.payload = reached.pairings := (passed.file alone).payload rfl
    refine ⟨used, single, cause, ?_, fun _ alone => kept alone⟩
    exact ⟨passed.taken, passed.whole, passed.ends, passed.held, passed.admits, passed.sent,
      fun alone => ⟨(passed.file alone).records, fun _ => kept alone, fun _ => kept alone⟩⟩
  · obtain ⟨used, single, cause, passed⟩ := link.await_saved _ _ after _ waited
    refine ⟨used, single, cause, ?_, fun returned => by cases returned⟩
    exact ⟨passed.taken, passed.whole, passed.ends, passed.held, passed.admits, passed.sent,
      fun alone => ⟨(passed.file alone).records, (passed.file alone).fresh, fun _ => (passed.file alone).payload rfl⟩⟩

theorem store_record_saved (record : ServerPairingRecord) (before after : World) (ended : Py Unit)
    (ran : (link.storeRecord record).from before = some (ended, after)) :
    Written (putting record before) (exceptionOf ended) after :=
  link.save_written (putting record before) after ended (change_ended ran)

-- A removal saves nothing where no record is filed.
theorem remove_record_cases (before after : World) (ended : Py Unit)
    (ran : link.removeRecord.from before = some (ended, after)) :
    (link.stored before = none ∧ ended = .ok () ∧ after = before) ∨
      ((link.stored before).isSome = true ∧ Written (link.popping before) (exceptionOf ended) after) := by
  have branches : (if (link.stored before).isSome = true then do
        Program.change link.popping
        link.save
      else pure () : Action Unit).from before = some (ended, after) := ran
  by_cases filed : (link.stored before).isSome = true
  · rw [if_pos filed] at branches
    exact .inr ⟨filed, link.save_written (link.popping before) after ended (change_ended branches)⟩
  · rw [if_neg filed] at branches
    cases branches
    exact .inl ⟨by simpa using filed, rfl, rfl⟩

@[simp] theorem put_own (record : ServerPairingRecord) (world : World) :
    (putting record world).pairings.records record.clientId = some record := Function.update_self _ _ _

theorem put_other (record : ServerPairingRecord) (world : World) (other : String) (apart : other ≠ record.clientId) :
    (putting record world).pairings.records other = world.pairings.records other := Function.update_of_ne apart _ _

@[simp] theorem pop_own (world : World) : (link.popping world).pairings.records link.clientId = none :=
  Function.update_self _ _ _

theorem pop_other (world : World) (other : String) (apart : other ≠ link.clientId) :
    (link.popping world).pairings.records other = world.pairings.records other := Function.update_of_ne apart _ _

end Link

end Conformance.Validator
