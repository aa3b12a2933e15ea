import SendspinConformance.Validator.StoreWaits
import SendspinConformance.Validator.SuiteSteps

set_option autoImplicit false

namespace Conformance.Validator.SuiteRunner

open Python Base

-- What a program that changes the store itself, but no record of another client, did with what
-- it read: the client's record came of the last wait, whatever it was when that wait began.
structure Spared (clientId : String) (used : List Happening) (before after : World) : Prop where
  taken : before.script = used ++ after.script
  whole : Whole used
  others : ∀ other, other ≠ clientId →
    after.pairings.records other = heldAfter other used (before.pairings.records other)
  last : ∃ held, after.pairings.records clientId = heldAfter clientId (lastWait used) held
  still : used = [] → after.pairings.records clientId = before.pairings.records clientId

def Steered (clientId : String) (before : World) (_ : Option PyError) (after : World) : Prop :=
  ∃ used, Spared clientId used before after ∧ after.unpairsSent = before.unpairsSent

theorem spared_nil (clientId : String) (state : World) : Spared clientId [] state state where
  taken := rfl
  whole := whole_nil
  others _ _ := rfl
  last := ⟨_, rfl⟩
  still _ := rfl

theorem spared_append {clientId : String} {first second : List Happening} {before between after : World}
    (early : Spared clientId first before between) (late : Spared clientId second between after) :
    Spared clientId (first ++ second) before after where
  taken := by rw [early.taken, late.taken, List.append_assoc]
  whole := whole_append first second early.whole late.whole
  others other apart := by rw [late.others other apart, early.others other apart, held_after_append]
  last := by
    by_cases reached : second = []
    · rw [reached, List.append_nil, late.still reached]
      exact early.last
    · rw [last_wait_append first second early.whole reached]
      exact late.last
  still ended := by
    obtain ⟨noFirst, noSecond⟩ := List.append_eq_nil_iff.mp ended
    rw [late.still noSecond, early.still noFirst]

theorem sequential_steered (clientId : String) : Sequential (Steered clientId) where
  here state _ := ⟨[], spared_nil clientId state, rfl⟩
  trans := by
    rintro first between raised after ⟨used, early, unsent⟩ ⟨more, late, stillUnsent⟩
    exact ⟨used ++ more, spared_append early late, stillUnsent.trans unsent⟩

-- A single wait, which may follow a change of the client's own record.
theorem spared_saved {clientId : String} {used : List Happening} {before changed after : World} {raised : Option PyError}
    (single : Single used) (passed : Passed used changed raised after) (script : changed.script = before.script)
    (others : ∀ other, other ≠ clientId → changed.pairings.records other = before.pairings.records other) :
    Spared clientId used before after where
  taken := script.symm.trans passed.taken
  whole := passed.whole
  others other apart := by rw [passed.held, others other apart]
  last := ⟨changed.pairings.records clientId, by rw [passed.held, single_held clientId used _ single]⟩
  still ended := absurd ended (single_reached used single)

theorem steered_saved {clientId : String} {before changed after : World} {raised : Option PyError}
    (saved : Saved changed raised after) (script : changed.script = before.script)
    (others : ∀ other, other ≠ clientId → changed.pairings.records other = before.pairings.records other)
    (unsent : changed.unpairsSent = before.unpairsSent) : Steered clientId before raised after := by
  obtain ⟨used, single, _, passed⟩ := saved
  exact ⟨used, spared_saved single passed script others, passed.sent.trans unsent⟩

variable (link : Link)

theorem await_steered {α : Type} (ends : Happening → Option α) : Relates (Steered link.clientId) (link.await ends) := by
  intro before ended after ran
  exact steered_saved (link.await_saved ends before after ended ran) rfl (fun _ _ => rfl) rfl

theorem store_record_steered (record : ServerPairingRecord) (own : record.clientId = link.clientId) :
    Relates (Steered link.clientId) (link.storeRecord record) := by
  intro before ended after ran
  refine steered_saved (written_saved (link.store_record_saved record before after ended ran)) rfl ?_ rfl
  intro other apart
  exact Link.put_other record before other (own ▸ apart)

-- Removing the client's record: what is filed afterwards, others filed during the save.
theorem remove_record_spared (before after : World) (ended : Py Unit)
    (ran : link.removeRecord.from before = some (ended, after)) :
    ∃ used, Spared link.clientId used before after ∧
      (used = [] ∧ after = before ∨ Single used ∧ (interrupted used = false → Alone used → after.fresh)) ∧
      interrupted used = (exceptionOf ended).isSome ∧ link.stored after = heldAfter link.clientId used none ∧
      after.unpairsSent = before.unpairsSent := by
  rcases link.remove_record_cases before after ended ran with ⟨absent, rfl, rfl⟩ | ⟨_, used, single, cause, passed, wrote⟩
  · exact ⟨[], spared_nil link.clientId after, .inl ⟨rfl, rfl⟩, rfl, absent, rfl⟩
  · refine ⟨used, spared_saved single passed rfl (link.pop_other before), .inr ⟨single, fun returned => wrote ?_⟩, cause,
      ?_, passed.sent⟩
    · rw [cause] at returned
      exact Option.isSome_eq_false_iff.mp returned |> Option.isNone_iff_eq_none.mp
    · rw [Link.stored, passed.held, Link.pop_own]

theorem remove_record_steered : Relates (Steered link.clientId) link.removeRecord := by
  intro before ended after ran
  obtain ⟨used, spared, _, _, _, unsent⟩ := remove_record_spared link before after ended ran
  exact ⟨used, spared, unsent⟩

-- What every wait, every removal of the client's record and, where a step stores one, its storing does, and programs
-- one after the other keep, the steps do.
section steps

variable {link}
variable {rel : World → Option PyError → World → Prop} (sequential : Sequential rel)
variable (awaits : ∀ {α : Type} (ends : Happening → Option α), Relates rel (link.await ends))

include sequential

omit link in
-- What a step judges at its end leaves the store alone.
theorem judged_relates (judge : World → Py (List Finding)) :
    Relates rel (Program.current >>= fun world => Program.outcome (judge world) : Action (List Finding)) :=
  relates_read fun _ => relates_outcome sequential _

include awaits

theorem declare_relates (number : Nat) : Relates rel (declare link number) := by
  apply relates_bind sequential (link.relates_wait sequential awaits _)
  intro initial
  apply relates_read
  intro state
  split
  · exact relates_pure sequential _
  · apply relates_bind sequential (link.relates_wait sequential awaits _)
    intro _
    apply relates_read
    intro later
    exact relates_pure sequential _

-- U2, U4 and U3 wait for a suitable connection before anything else.
theorem matched_relates (step : Step) (holds : ConnectionRecord → Bool) (why : String) {run : Nat → Action (List Finding)}
    (runs : ∀ number, Relates rel (run number)) :
    Relates rel (do
      match ← link.connectMatching holds with
      | none => return notReached step why
      | some number => run number) := by
  apply relates_bind sequential (link.relates_connect_matching sequential awaits holds)
  intro number
  cases number with
  | none => exact relates_pure sequential _
  | some connected => exact runs connected

theorem declared_relates (step : Step) (number : Nat) (why : String) (condition : ConnectionRecord → Bool)
    (judge : World → Py (List Finding)) :
    Relates rel (do
      if ← declare link number then
        let _ ← link.untilHolds number condition
        Program.outcome (judge (← Program.current))
      else return notReached step why) := by
  apply relates_bind sequential (declare_relates sequential awaits number)
  intro declared
  cases declared with
  | false => exact relates_pure sequential _
  | true => exact relates_bind sequential (link.relates_wait sequential awaits _) fun _ => judged_relates sequential judge

omit sequential awaits in
-- The same of programs that also report.
theorem sequential_reporting (sequential : Sequential rel) : Sequential
    fun (before : List Finding × World) raised (after : List Finding × World) => rel before.2 raised after.2 where
  here state raised := sequential.here state.2 raised
  trans first between raised after := sequential.trans first.2 between.2 raised after.2

omit link awaits in
theorem report_relates (findings : List Finding) :
    Relates (fun (before : List Finding × World) raised (after : List Finding × World) => rel before.2 raised after.2)
      (report findings) :=
  relates_change _ fun state => sequential.here state.2 none

theorem run_step_relates (step : Step) {run : Action (List Finding)} (evidence : Option Evidence)
    (runs : Relates rel run) :
    Relates (fun (before : List Finding × World) raised (after : List Finding × World) => rel before.2 raised after.2)
      (runStep link step run evidence) := by
  have asks : Relates rel (askReady link) := by
    apply Link.relates_forever sequential
    apply relates_bind sequential (awaits _)
    intro answer
    split <;> exact relates_pure sequential _
  have ready : Relates rel (runReady link step run) := by
    apply relates_bind sequential asks
    intro answer
    split
    · exact runs
    · exact relates_pure sequential _
  exact relates_bind (sequential_reporting sequential) (relates_within ready) fun _ => report_relates sequential _

variable [UnicodeData]

theorem u1_relates (removes : Relates rel link.removeRecord) : Relates rel (u1 link) := by
  have connects : Relates rel (unpairedConnection link) := by
    apply relates_read
    intro state
    apply relates_read
    intro again
    split
    · exact relates_bind sequential removes fun _ => link.relates_reconnect sequential awaits
    · exact relates_pure sequential _
  apply relates_bind sequential connects
  intro number
  cases number with
  | none => exact relates_pure sequential _
  | some connected => exact judged_relates sequential _

theorem u2_relates : Relates rel (u2 link) :=
  matched_relates sequential awaits .u2 _ _ fun number => declared_relates sequential awaits .u2 number _ _ _

theorem u4_relates : Relates rel (u4 link) :=
  matched_relates sequential awaits .u4 _ _ fun number => declared_relates sequential awaits .u4 number _ _ _

theorem u3_relates : Relates rel (u3 link) :=
  matched_relates sequential awaits .u3 _ _ fun _ =>
    relates_bind sequential (link.relates_wait sequential awaits _) fun _ => judged_relates sequential _

theorem unpaired_steps_relates (removes : Relates rel link.removeRecord) (options : SuiteOptions) :
    Relates (fun (before : List Finding × World) raised (after : List Finding × World) => rel before.2 raised after.2)
      (unpairedSteps link options) := by
  have injected : Relates (fun (before : List Finding × World) raised (after : List Finding × World) =>
      rel before.2 raised after.2) (runInjected link options) := by
    rw [runInjected]
    split
    · exact run_step_relates sequential awaits .u4 none (u4_relates sequential awaits)
    · exact report_relates sequential _
  apply relates_bind (sequential_reporting sequential)
    (run_step_relates sequential awaits .u1 none (u1_relates sequential awaits removes))
  intro _
  apply relates_bind (sequential_reporting sequential)
    (run_step_relates sequential awaits .u2 (some .human) (u2_relates sequential awaits))
  intro _
  apply relates_bind (sequential_reporting sequential) injected
  intro _
  exact run_step_relates sequential awaits .u3 (some .human) (u3_relates sequential awaits)

theorem judge_unpaired_relates (record : ServerPairingRecord) (stores : Relates rel (link.storeRecord record))
    (number : Nat) : Relates rel (judgeUnpaired link record number) := by
  apply relates_bind sequential (link.relates_wait sequential awaits _)
  intro _
  apply relates_read
  intro state
  apply relates_bind sequential (relates_outcome sequential _)
  intro findings
  apply relates_bind sequential stores
  intro _
  apply relates_bind sequential (link.relates_reconnect sequential awaits)
  intro again
  cases again with
  | none => exact relates_pure sequential _
  | some connected =>
      apply relates_bind sequential (link.relates_wait sequential awaits _)
      intro _
      apply relates_read
      intro later
      apply relates_bind sequential (relates_outcome sequential _)
      intro dropped
      exact relates_pure sequential _

end steps

end Conformance.Validator.SuiteRunner
