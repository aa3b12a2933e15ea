import Mathlib.Data.List.Induction
import Mathlib.Data.List.Nodup
import SendspinConformance.Validator.TerminalPrompter

set_option autoImplicit false

namespace Conformance.Validator.Terminal

open Python

def ReadStatus.IsDone : ReadStatus → Prop
  | .done _ => True
  | _ => False

-- The prompter holds the only read that is not done, and each done one was heard at most once.
structure ReadsKept (prompter : Prompter) : Prop where
  started : ∀ read, prompter.reading = some read → read < prompter.reads.length
  held : ∀ (read : Nat) (status : ReadStatus), prompter.reads[read]? = some status → ¬ status.IsDone →
    prompter.reading = some read
  heard : ∀ delivery ∈ prompter.deliveries, prompter.reads[delivery.read]? = some (.done delivery.input)
  once : (prompter.deliveries.map Delivery.read).Nodup

-- What the waiting question waits for is the read the prompter holds, which no question heard.
structure WaitsKept (prompter : Prompter) (waiting : Waiting) : Prop where
  held : prompter.reading = some waiting.awaits
  fresh : ∀ delivery ∈ prompter.deliveries, delivery.read ≠ waiting.awaits

structure Kept (prompter : Prompter) : Prop where
  reads : ReadsKept prompter
  waits : ∀ waiting, prompter.waiting = some waiting → WaitsKept prompter waiting

theorem is_done_iff (prompter : Prompter) (read : Nat) :
    isDone prompter read = true ↔ ∃ input, prompter.reads[read]? = some (.done input) := by
  rw [isDone]
  cases prompter.reads[read]? with
  | none => simp
  | some status => cases status <;> simp

-- What a question finds as it begins to wait, and the read it then awaits.
structure Awaits (prompter : Prompter) (awaited : Prompter × Nat) : Prop where
  reads : ReadsKept awaited.1
  held : awaited.1.reading = some awaited.2
  started : awaited.2 < awaited.1.reads.length
  fresh : ∀ delivery ∈ prompter.deliveries, delivery.read ≠ awaited.2

theorem start_read_awaits (prompter : Prompter) (kept : ReadsKept prompter)
    (free : ∀ (read : Nat) (status : ReadStatus), prompter.reads[read]? = some status → status.IsDone) :
    Awaits prompter (startRead prompter) := by
  refine ⟨⟨by simp [startRead], ?_, ?_, kept.once⟩, rfl, by simp [startRead], ?_⟩
  · intro read status found undone
    by_cases earlier : read < prompter.reads.length
    · rw [startRead, List.getElem?_append_left earlier] at found
      exact absurd (free read status found) undone
    · rw [startRead, List.getElem?_append_right (Nat.le_of_not_lt earlier), List.getElem?_singleton] at found
      by_cases last : read - prompter.reads.length = 0
      · have same : prompter.reads.length = read := by omega
        rw [startRead, same]
      · rw [if_neg last] at found
        cases found
  · intro delivery member
    have found := kept.heard delivery member
    rw [startRead, List.getElem?_append_left (List.getElem?_eq_some_iff.mp found).choose]
    exact found
  · intro delivery member same
    have started := (List.getElem?_eq_some_iff.mp (kept.heard delivery member)).choose
    rw [startRead] at same
    exact absurd same (Nat.ne_of_lt started)

theorem read_deliveries (prompter : Prompter) : (read prompter).1.deliveries = prompter.deliveries := by
  rw [read]
  split
  · split <;> rfl
  · rfl

theorem await_line_deliveries (prompter : Prompter) (question : Nat) (parse : Parse) :
    (awaitLine prompter question parse).deliveries = prompter.deliveries :=
  read_deliveries prompter

-- A question awaits a new read, or takes over the one that is not done.
theorem read_awaits (prompter : Prompter) (kept : ReadsKept prompter) : Awaits prompter (read prompter) := by
  rw [read]
  cases holds : prompter.reading with
  | none =>
      refine start_read_awaits prompter kept ?_
      intro other status found
      by_contra undone
      have held := kept.held other status found undone
      rw [holds] at held
      cases held
  | some pending =>
      by_cases done : isDone prompter pending = true
      · dsimp only
        rw [if_pos done]
        refine start_read_awaits prompter kept ?_
        intro other status found
        by_contra undone
        have same : pending = other := by
          have heldOther := kept.held other status found undone
          rw [holds] at heldOther
          exact Option.some.inj heldOther
        obtain ⟨input, isDone⟩ := (is_done_iff prompter pending).mp done
        rw [same, found] at isDone
        rw [Option.some.inj isDone] at undone
        exact undone trivial
      · dsimp only
        rw [if_neg done]
        refine ⟨kept, holds, kept.started pending holds, ?_⟩
        intro delivery member same
        apply done
        rw [is_done_iff]
        have same : delivery.read = pending := same
        exact ⟨delivery.input, by rw [← same]; exact kept.heard delivery member⟩

theorem await_line_kept (prompter : Prompter) (kept : ReadsKept prompter) (question : Nat) (parse : Parse) :
    Kept (awaitLine prompter question parse) := by
  have awaits := read_awaits prompter kept
  refine ⟨⟨awaits.reads.started, awaits.reads.held, awaits.reads.heard, awaits.reads.once⟩, ?_⟩
  intro waiting isWaiting
  cases isWaiting
  refine ⟨awaits.held, ?_⟩
  intro delivery member
  rw [await_line_deliveries] at member
  exact awaits.fresh delivery member

-- A read that is not done is the one the prompter holds, and goes on being it.
theorem set_kept (prompter : Prompter) (kept : Kept prompter) (read : Nat) (before after : ReadStatus)
    (found : prompter.reads[read]? = some before) (undone : ¬ before.IsDone) :
    Kept { prompter with reads := prompter.reads.set read after } := by
  refine ⟨⟨?_, ?_, ?_, kept.reads.once⟩, fun waiting isWaiting =>
    ⟨(kept.waits waiting isWaiting).held, (kept.waits waiting isWaiting).fresh⟩⟩
  · intro pending holds
    rw [List.length_set]
    exact kept.reads.started pending holds
  · intro other status same otherUndone
    by_cases isRead : read = other
    · rw [← isRead]
      exact kept.reads.held read before found undone
    · rw [List.getElem?_set_ne isRead] at same
      exact kept.reads.held other status same otherUndone
  · intro delivery member
    have done := kept.reads.heard delivery member
    have isOther : read ≠ delivery.read := by
      intro same
      rw [← same, found] at done
      rw [Option.some.inj done] at undone
      exact undone trivial
    rw [List.getElem?_set_ne isOther]
    exact done

theorem delivered_kept (prompter : Prompter) (kept : Kept prompter) (waiting : Waiting)
    (isWaiting : prompter.waiting = some waiting) (input : Input)
    (found : prompter.reads[waiting.awaits]? = some (.done input)) :
    ReadsKept { prompter with
      deliveries := prompter.deliveries ++ [⟨waiting.question, waiting.awaits, input⟩], reading := none } ∧
    ReadsKept { prompter with deliveries := prompter.deliveries ++ [⟨waiting.question, waiting.awaits, input⟩] } := by
  obtain ⟨held, fresh⟩ := kept.waits waiting isWaiting
  have heard : ∀ delivery ∈ prompter.deliveries ++ [⟨waiting.question, waiting.awaits, input⟩],
      prompter.reads[delivery.read]? = some (.done delivery.input) := by
    intro delivery member
    cases List.mem_append.mp member with
    | inl earlier => exact kept.reads.heard delivery earlier
    | inr last =>
        rw [List.mem_singleton.mp last]
        exact found
  have once : ((prompter.deliveries ++ [(⟨waiting.question, waiting.awaits, input⟩ : Delivery)]).map Delivery.read).Nodup := by
    rw [List.map_append, List.nodup_append]
    refine ⟨kept.reads.once, List.nodup_singleton _, ?_⟩
    intro read earlier other last
    obtain ⟨delivery, member, rfl⟩ := List.mem_map.mp earlier
    rw [List.mem_singleton.mp last]
    exact fresh delivery member
  refine ⟨⟨by simp, ?_, heard, once⟩, ⟨kept.reads.started, kept.reads.held, heard, once⟩⟩
  intro other status same undone
  have isHeld := kept.reads.held other status same undone
  rw [held] at isHeld
  rw [← Option.some.inj isHeld, found] at same
  rw [← Option.some.inj same] at undone
  exact absurd trivial undone

theorem finish_kept (prompter : Prompter) (kept : ReadsKept prompter) (question : Nat) (outcome : Py (Answer Value)) :
    Kept (finish prompter question outcome) :=
  ⟨⟨kept.started, kept.held, kept.heard, kept.once⟩, fun waiting isWaiting => by cases isWaiting⟩

theorem resumed_kept (prompter : Prompter) (kept : Kept prompter) (waiting : Waiting)
    (isWaiting : prompter.waiting = some waiting) (input : Input)
    (found : prompter.reads[waiting.awaits]? = some (.done input)) : Kept (resumed prompter waiting input) := by
  obtain ⟨taken, ended⟩ := delivered_kept prompter kept waiting isWaiting input found
  cases input with
  | ended => exact finish_kept _ ended _ _
  | line text =>
      rw [resumed]
      dsimp only
      cases takeLine waiting.parse text with
      | error raised => exact finish_kept _ taken _ _
      | ok answer =>
          cases answer with
          | none => exact await_line_kept _ taken _ _
          | some answer => exact finish_kept _ taken _ _

-- The ways a step can go, each with what it starts from.
theorem step_cases (prompter next : Prompter) (event : Event) (stepped : step prompter event = some next) :
    (∃ parse, event = .ask parse ∧ prompter.waiting = none ∧
      next = awaitLine { prompter with asked := prompter.asked + 1 } prompter.asked parse) ∨
    (event = .cancel ∧ next = { prompter with waiting := none }) ∨
    (∃ read input, event = .returns read input ∧ prompter.reads[read]? = some .blocked ∧
      next = { prompter with reads := prompter.reads.set read (.returned input) }) ∨
    (∃ read input, event = .told read ∧ prompter.reads[read]? = some (.returned input) ∧
      next = { prompter with reads := prompter.reads.set read (.done input) }) ∨
    (∃ waiting input, event = .resume ∧ prompter.waiting = some waiting ∧
      prompter.reads[waiting.awaits]? = some (.done input) ∧ next = resumed prompter waiting input) := by
  cases event with
  | ask parse =>
      cases idle : prompter.waiting with
      | none =>
          simp only [step, idle, Option.some.injEq] at stepped
          exact .inl ⟨parse, rfl, rfl, stepped.symm⟩
      | some waiting => simp [step, idle] at stepped
  | cancel =>
      obtain ⟨waiting, _, same⟩ := Option.map_eq_some_iff.mp stepped
      exact .inr (.inl ⟨rfl, same.symm⟩)
  | returns read input =>
      simp only [step] at stepped
      split at stepped
      · next blocked => exact .inr (.inr (.inl ⟨read, input, rfl, blocked, (Option.some.inj stepped).symm⟩))
      · cases stepped
  | told read =>
      simp only [step] at stepped
      split at stepped
      · next input returned => exact .inr (.inr (.inr (.inl ⟨read, input, rfl, returned, (Option.some.inj stepped).symm⟩)))
      · cases stepped
  | resume =>
      simp only [step] at stepped
      split at stepped
      · cases stepped
      · next waiting isWaiting =>
          split at stepped
          · next input done =>
              exact .inr (.inr (.inr (.inr ⟨waiting, input, rfl, isWaiting, done, (Option.some.inj stepped).symm⟩)))
          · cases stepped

theorem step_returns (prompter next : Prompter) (read : Nat) (input : Input)
    (stepped : step prompter (.returns read input) = some next) :
    prompter.reads[read]? = some .blocked ∧ next = { prompter with reads := prompter.reads.set read (.returned input) } := by
  obtain ⟨_, isAsk, _⟩ | ⟨isCancel, _⟩ | ⟨_, _, isReturn, blocked, rfl⟩ | ⟨_, _, isTold, _⟩ |
      ⟨_, _, isResume, _⟩ :=
    step_cases prompter next _ stepped
  · cases isAsk
  · cases isCancel
  · cases isReturn
    exact ⟨blocked, rfl⟩
  · cases isTold
  · cases isResume

theorem step_resume (prompter next : Prompter) (stepped : step prompter .resume = some next) :
    ∃ waiting input, prompter.waiting = some waiting ∧ prompter.reads[waiting.awaits]? = some (.done input) ∧
      next = resumed prompter waiting input := by
  obtain ⟨_, isAsk, _⟩ | ⟨isCancel, _⟩ | ⟨_, _, isReturn, _⟩ | ⟨_, _, isTold, _⟩ |
      ⟨waiting, input, _, isWaiting, done, rfl⟩ :=
    step_cases prompter next _ stepped
  · cases isAsk
  · cases isCancel
  · cases isReturn
  · cases isTold
  · exact ⟨waiting, input, isWaiting, done, rfl⟩

theorem step_kept (prompter next : Prompter) (event : Event) (kept : Kept prompter)
    (stepped : step prompter event = some next) : Kept next := by
  obtain ⟨parse, rfl, _, rfl⟩ | ⟨rfl, rfl⟩ | ⟨read, input, rfl, found, rfl⟩ | ⟨read, input, rfl, found, rfl⟩ |
    ⟨waiting, input, rfl, isWaiting, found, rfl⟩ := step_cases prompter next event stepped
  · refine await_line_kept _ ?_ _ _
    exact ⟨kept.reads.started, kept.reads.held, kept.reads.heard, kept.reads.once⟩
  · exact ⟨⟨kept.reads.started, kept.reads.held, kept.reads.heard, kept.reads.once⟩,
      fun waiting isWaiting => by cases isWaiting⟩
  · exact set_kept prompter kept read .blocked _ found id
  · exact set_kept prompter kept read (.returned input) _ found id
  · exact resumed_kept prompter kept waiting isWaiting input found

theorem run_snoc (events : List Event) (event : Event) :
    run (events ++ [event]) = (run events).bind fun prompter => step prompter event := by
  rw [run, run, List.foldlM_append]
  cases events.foldlM step {} with
  | none => rfl
  | some prompter => exact bind_pure (step prompter event)

theorem run_kept (events : List Event) (prompter : Prompter) (ran : run events = some prompter) : Kept prompter := by
  induction events using List.reverseRecOn generalizing prompter with
  | nil =>
      cases ran
      exact ⟨⟨by simp, by simp, by simp, List.nodup_nil⟩, by simp⟩
  | append_singleton earlier event ih =>
      rw [run_snoc] at ran
      obtain ⟨middle, ranEarlier, stepped⟩ := Option.bind_eq_some_iff.mp ran
      exact step_kept middle prompter event (ih middle ranEarlier) stepped

-- A read that is done stays done, and no later question comes to await it.
theorem await_line_done (prompter : Prompter) (question : Nat) (parse : Parse) (read : Nat) (input : Input)
    (found : prompter.reads[read]? = some (.done input)) :
    (awaitLine prompter question parse).reads[read]? = some (.done input) ∧
      ∀ waiting, (awaitLine prompter question parse).waiting = some waiting → waiting.awaits ≠ read := by
  have inside := (List.getElem?_eq_some_iff.mp found).choose
  have started : ∀ awaited, awaited = startRead prompter →
      awaited.1.reads[read]? = some (.done input) ∧ awaited.2 ≠ read := by
    rintro awaited rfl
    refine ⟨?_, Nat.ne_of_gt inside⟩
    rw [startRead, List.getElem?_append_left inside]
    exact found
  have apart : (Terminal.read prompter).1.reads[read]? = some (.done input) ∧ (Terminal.read prompter).2 ≠ read := by
    rw [Terminal.read]
    cases prompter.reading with
    | none => exact started _ rfl
    | some pending =>
        dsimp only
        split
        · exact started _ rfl
        · next undone =>
            refine ⟨found, ?_⟩
            rintro rfl
            exact undone ((is_done_iff prompter pending).mpr ⟨input, found⟩)
  refine ⟨apart.1, ?_⟩
  intro waiting isWaiting
  cases isWaiting
  exact apart.2

-- What the waiting question does once its read is done.
theorem resumed_delivers (prompter : Prompter) (waiting : Waiting) (input : Input) :
    (resumed prompter waiting input).deliveries =
      prompter.deliveries ++ [⟨waiting.question, waiting.awaits, input⟩] := by
  cases input with
  | ended => rfl
  | line text =>
      rw [resumed]
      dsimp only
      cases takeLine waiting.parse text with
      | error raised => rfl
      | ok answer =>
          cases answer with
          | none => exact await_line_deliveries _ _ _
          | some answer => rfl

theorem resumed_done (prompter : Prompter) (waiting : Waiting) (input other : Input) (read : Nat)
    (found : prompter.reads[read]? = some (.done other)) :
    (resumed prompter waiting input).reads[read]? = some (.done other) ∧
      ∀ later, (resumed prompter waiting input).waiting = some later → later.awaits ≠ read := by
  cases input with
  | ended => exact ⟨found, fun later isWaiting => by cases isWaiting⟩
  | line text =>
      rw [resumed]
      dsimp only
      cases takeLine waiting.parse text with
      | error raised => exact ⟨found, fun later isWaiting => by cases isWaiting⟩
      | ok answer =>
          cases answer with
          | none => exact await_line_done _ _ _ read other found
          | some answer => exact ⟨found, fun later isWaiting => by cases isWaiting⟩

theorem step_grows (prompter next : Prompter) (event : Event) (stepped : step prompter event = some next) :
    prompter.deliveries ⊆ next.deliveries := by
  obtain ⟨parse, rfl, _, rfl⟩ | ⟨rfl, rfl⟩ | ⟨read, input, rfl, found, rfl⟩ | ⟨read, input, rfl, found, rfl⟩ |
    ⟨waiting, input, rfl, isWaiting, found, rfl⟩ := step_cases prompter next event stepped
  · rw [await_line_deliveries]
    exact List.Subset.refl _
  · exact List.Subset.refl _
  · exact List.Subset.refl _
  · exact List.Subset.refl _
  · rw [resumed_delivers]
    exact List.subset_append_left _ _

theorem run_grows (events more : List Event) (prompter later : Prompter) (ran : run events = some prompter)
    (ranMore : run (events ++ more) = some later) : prompter.deliveries ⊆ later.deliveries := by
  induction more using List.reverseRecOn generalizing later with
  | nil =>
      rw [List.append_nil, ran] at ranMore
      rw [Option.some.inj ranMore]
      exact List.Subset.refl _
  | append_singleton earlier event ih =>
      rw [← List.append_assoc, run_snoc] at ranMore
      obtain ⟨middle, ranEarlier, stepped⟩ := Option.bind_eq_some_iff.mp ranMore
      exact List.Subset.trans (ih middle ranEarlier) (step_grows middle later event stepped)

theorem run_split (events more : List Event) (state : Prompter) (ran : run (events ++ more) = some state) :
    ∃ earlier, run events = some earlier := by
  rw [run, List.foldlM_append] at ran
  obtain ⟨earlier, ranEarlier, _⟩ := Option.bind_eq_some_iff.mp ran
  exact ⟨earlier, ranEarlier⟩

-- The read that returned is the one the waiting question awaits, and that question goes on
-- waiting for it until it resumes or is cancelled.
theorem awaited_through (before middle : List Event) (read : Nat) (input : Input) (earlier state : Prompter)
    (waiting : Waiting) (ran : run before = some earlier) (isWaiting : earlier.waiting = some waiting)
    (noCancel : .cancel ∉ middle) (noResume : .resume ∉ middle)
    (ranOn : run (before ++ .returns read input :: middle) = some state) :
    state.waiting = some waiting ∧ waiting.awaits = read ∧
      (state.reads[read]? = some (.returned input) ∨ state.reads[read]? = some (.done input)) := by
  induction middle using List.reverseRecOn generalizing state with
  | nil =>
      rw [run_snoc, ran, Option.bind_some] at ranOn
      obtain ⟨blocked, rfl⟩ := step_returns earlier state read input ranOn
      have kept := run_kept before earlier ran
      have held := kept.reads.held read .blocked blocked id
      rw [(kept.waits waiting isWaiting).held] at held
      refine ⟨isWaiting, Option.some.inj held, .inl ?_⟩
      rw [List.getElem?_set_self (List.getElem?_eq_some_iff.mp blocked).choose]
  | append_singleton more event ih =>
      rw [← List.cons_append, ← List.append_assoc, run_snoc] at ranOn
      obtain ⟨between, ranMore, stepped⟩ := Option.bind_eq_some_iff.mp ranOn
      obtain ⟨stillWaiting, awaits, status⟩ := ih between (fun member => noCancel (List.mem_append_left _ member))
        (fun member => noResume (List.mem_append_left _ member)) ranMore
      have kept := run_kept _ between ranMore
      obtain ⟨parse, rfl, idle, rfl⟩ | ⟨rfl, _⟩ | ⟨other, given, rfl, blocked, rfl⟩ |
          ⟨other, given, rfl, returned, rfl⟩ | ⟨_, _, rfl, _⟩ := step_cases between state event stepped
      · rw [stillWaiting] at idle
        cases idle
      · exact absurd (List.mem_append_right more (List.mem_singleton.mpr rfl)) noCancel
      · -- no other read is blocked while this one is awaited
        have held := kept.reads.held other .blocked blocked id
        rw [(kept.waits waiting stillWaiting).held, awaits] at held
        rw [← Option.some.inj held] at blocked
        rw [blocked] at status
        cases status with
        | inl wasReturned => cases wasReturned
        | inr wasDone => cases wasDone
      · have held := kept.reads.held other (.returned given) returned id
        rw [(kept.waits waiting stillWaiting).held, awaits] at held
        have same := Option.some.inj held
        subst same
        refine ⟨stillWaiting, awaits, .inr ?_⟩
        rw [List.getElem?_set_self (List.getElem?_eq_some_iff.mp returned).choose]
        rw [returned] at status
        cases status with
        | inl wasReturned =>
            cases wasReturned
            rfl
        | inr wasDone => cases wasDone
      · exact absurd (List.mem_append_right more (List.mem_singleton.mpr rfl)) noResume

-- The event loop is told of a line that returned while no question waited before it asks another.
def ToldFirst (events : List Event) : Prop :=
  ∀ before read input middle parse after earlier,
    events = before ++ .returns read input :: (middle ++ .ask parse :: after) → run before = some earlier →
    earlier.waiting = none → .told read ∈ middle

theorem told_first_shorter (events more : List Event) (told : ToldFirst (events ++ more)) : ToldFirst events := by
  intro before read input middle parse after earlier split ran idle
  exact told before read input middle parse (after ++ more) earlier (by rw [split]; simp) ran idle

-- A read that returned to no question is heard by none.
theorem unheard_through (before after : List Event) (read : Nat) (input : Input) (earlier state : Prompter)
    (ran : run before = some earlier) (idle : earlier.waiting = none)
    (told : ToldFirst (before ++ .returns read input :: after))
    (ranOn : run (before ++ .returns read input :: after) = some state) :
    (∀ delivery ∈ state.deliveries, delivery.read ≠ read) ∧
      (state.reads[read]? = some (.returned input) ∧ state.waiting = none ∧ .told read ∉ after ∨
        state.reads[read]? = some (.done input) ∧
          ∀ waiting, state.waiting = some waiting → waiting.awaits ≠ read) := by
  induction after using List.reverseRecOn generalizing state with
  | nil =>
      rw [run_snoc, ran, Option.bind_some] at ranOn
      obtain ⟨blocked, rfl⟩ := step_returns earlier state read input ranOn
      refine ⟨?_, .inl ⟨?_, idle, List.not_mem_nil⟩⟩
      · intro delivery member same
        have done := (run_kept before earlier ran).reads.heard delivery member
        rw [same, blocked] at done
        cases done
      · rw [List.getElem?_set_self (List.getElem?_eq_some_iff.mp blocked).choose]
  | append_singleton more event ih =>
      rw [← List.cons_append, ← List.append_assoc] at told
      rw [← List.cons_append, ← List.append_assoc, run_snoc] at ranOn
      obtain ⟨between, ranMore, stepped⟩ := Option.bind_eq_some_iff.mp ranOn
      obtain ⟨unheard, status⟩ := ih between (told_first_shorter _ _ told) ranMore
      obtain ⟨parse, rfl, noneWaits, rfl⟩ | ⟨rfl, rfl⟩ | ⟨other, given, rfl, blocked, rfl⟩ |
        ⟨other, given, rfl, returned, rfl⟩ | ⟨waiting, given, rfl, isWaiting, done, rfl⟩ :=
        step_cases between state event stepped
      · rw [await_line_deliveries]
        refine ⟨unheard, .inr ?_⟩
        obtain ⟨_, _, untold⟩ | ⟨done, _⟩ := status
        · exact absurd (told before read input more parse [] earlier (by simp) ran idle) untold
        · exact await_line_done _ _ _ read input done
      · refine ⟨unheard, ?_⟩
        obtain ⟨returned, _, untold⟩ | ⟨done, _⟩ := status
        · exact .inl ⟨returned, rfl, by simpa using untold⟩
        · exact .inr ⟨done, fun waiting isWaiting => by cases isWaiting⟩
      · have isOther : other ≠ read := by
          rintro rfl
          rw [blocked] at status
          obtain ⟨returned, _⟩ | ⟨done, _⟩ := status
          · cases returned
          · cases done
        refine ⟨unheard, ?_⟩
        rw [List.getElem?_set_ne isOther]
        obtain ⟨returned, noneWaits, untold⟩ | later := status
        · exact .inl ⟨returned, noneWaits, by simpa using untold⟩
        · exact .inr later
      · refine ⟨unheard, ?_⟩
        by_cases isRead : other = read
        · subst isRead
          rw [List.getElem?_set_self (List.getElem?_eq_some_iff.mp returned).choose]
          obtain ⟨wasReturned, noneWaits, _⟩ | ⟨done, _⟩ := status
          · rw [returned] at wasReturned
            cases wasReturned
            exact .inr ⟨rfl, fun waiting isWaiting => by rw [noneWaits] at isWaiting; cases isWaiting⟩
          · rw [returned] at done
            cases done
        · rw [List.getElem?_set_ne isRead]
          obtain ⟨wasReturned, noneWaits, untold⟩ | later := status
          · exact .inl ⟨wasReturned, noneWaits, by simpa [Ne.symm isRead] using untold⟩
          · exact .inr later
      · obtain ⟨_, noneWaits, _⟩ | ⟨wasDone, apart⟩ := status
        · rw [noneWaits] at isWaiting
          cases isWaiting
        · refine ⟨?_, .inr (resumed_done between waiting given input read wasDone)⟩
          rw [resumed_delivers]
          intro delivery member
          cases List.mem_append.mp member with
          | inl earlier => exact unheard delivery earlier
          | inr last =>
              rw [List.mem_singleton.mp last]
              exact apart waiting isWaiting

-- What becomes of the lines the reader thread returned in a run.
structure LinesDelivered (events : List Event) (state : Prompter) : Prop where
  outstanding : ∀ first second : Nat, state.reads[first]? = some .blocked → state.reads[second]? = some .blocked →
    first = second
  once : (state.deliveries.map Delivery.read).Nodup
  heard : ∀ before read input middle after earlier waiting,
    events = before ++ .returns read input :: (middle ++ .resume :: after) → run before = some earlier →
    earlier.waiting = some waiting → .cancel ∉ middle → .resume ∉ middle →
    ⟨waiting.question, read, input⟩ ∈ state.deliveries
  -- a question that has not gone on yet can, and then has the line
  resumes : ∀ before read input middle earlier waiting,
    events = before ++ .returns read input :: middle → run before = some earlier →
    earlier.waiting = some waiting → .cancel ∉ middle → .resume ∉ middle →
    ∃ ready next, (ready = state ∨ step state (.told read) = some ready) ∧ step ready .resume = some next ∧
      next.deliveries = state.deliveries ++ [⟨waiting.question, read, input⟩]
  dropped : ∀ before read input after earlier,
    events = before ++ .returns read input :: after → run before = some earlier → earlier.waiting = none →
    ∀ delivery ∈ state.deliveries, delivery.read ≠ read

theorem resume_delivers (state : Prompter) (waiting : Waiting) (input : Input) (isWaiting : state.waiting = some waiting)
    (done : state.reads[waiting.awaits]? = some (.done input)) :
    ∃ next, step state .resume = some next ∧
      next.deliveries = state.deliveries ++ [⟨waiting.question, waiting.awaits, input⟩] := by
  refine ⟨resumed state waiting input, ?_, resumed_delivers state waiting input⟩
  simp only [step, isWaiting, done]

theorem lines_delivered (events : List Event) (state : Prompter) (ran : run events = some state)
    (told : ToldFirst events) : LinesDelivered events state where
  outstanding := by
    intro first second blocked alsoBlocked
    have kept := run_kept events state ran
    have held := kept.reads.held first .blocked blocked id
    rw [kept.reads.held second .blocked alsoBlocked id] at held
    exact (Option.some.inj held).symm
  once := (run_kept events state ran).reads.once
  heard := by
    intro before read input middle after earlier waiting split ranBefore isWaiting noCancel noResume
    have cut : events = (before ++ .returns read input :: middle) ++ [.resume] ++ after := by rw [split]; simp
    rw [cut] at ran
    obtain ⟨resumed, ranResume⟩ := run_split _ after state ran
    apply run_grows _ after resumed state ranResume ran
    rw [run_snoc] at ranResume
    obtain ⟨between, ranBetween, stepped⟩ := Option.bind_eq_some_iff.mp ranResume
    obtain ⟨stillWaiting, awaits, status⟩ :=
      awaited_through before middle read input earlier between waiting ranBefore isWaiting noCancel noResume ranBetween
    obtain ⟨other, given, otherWaits, done, rfl⟩ := step_resume between resumed stepped
    rw [stillWaiting] at otherWaits
    cases otherWaits
    rw [awaits] at done
    rw [done] at status
    rw [resumed_delivers, awaits]
    cases status with
    | inl wasReturned => cases wasReturned
    | inr wasDone =>
        cases wasDone
        exact List.mem_append_right _ (List.mem_singleton.mpr rfl)
  resumes := by
    intro before read input middle earlier waiting split ranBefore isWaiting noCancel noResume
    rw [split] at ran
    obtain ⟨stillWaiting, rfl, status⟩ :=
      awaited_through before middle read input earlier state waiting ranBefore isWaiting noCancel noResume ran
    cases status with
    | inr done =>
        obtain ⟨next, stepped, delivers⟩ := resume_delivers state waiting input stillWaiting done
        exact ⟨state, next, .inl rfl, stepped, delivers⟩
    | inl returned =>
        have inside := (List.getElem?_eq_some_iff.mp returned).choose
        obtain ⟨next, stepped, delivers⟩ :=
          resume_delivers { state with reads := state.reads.set waiting.awaits (.done input) } waiting input stillWaiting
            (List.getElem?_set_self inside)
        exact ⟨_, next, .inr (by simp only [step, returned]), stepped, delivers⟩
  dropped := by
    intro before read input after earlier split ranBefore idle
    rw [split] at ran told
    exact (unheard_through before after read input earlier state ranBefore idle told ran).1

-- A code prompt is cancelled, the line typed for it returns and is known of before the next prompt.
def droppedLine : List Event :=
  [.ask parseText, .cancel, .returns 0 (.line "123456"), .told 0, .ask parseText, .returns 1 (.line "654321"), .told 1,
    .resume]

theorem dropped_line_delivered :
    ∃ state, run droppedLine = some state ∧ state.deliveries = [⟨1, 1, .line "654321"⟩] ∧
      LinesDelivered droppedLine state := by
  refine ⟨_, rfl, by decide +kernel, lines_delivered droppedLine _ rfl ?_⟩
  intro before read input middle parse after earlier split ran idle
  rcases before with _ | ⟨_, _ | ⟨_, _ | ⟨_, _ | ⟨_, _ | ⟨_, _ | ⟨_, _ | ⟨_, _ | ⟨_, before⟩⟩⟩⟩⟩⟩⟩⟩ <;>
    simp [droppedLine] at split
  · obtain ⟨_, _, ⟨isRead, _⟩, rest⟩ := split
    cases middle with
    | nil => simp at rest
    | cons first more =>
        obtain ⟨same, _⟩ := List.cons.inj rest
        rw [← same, isRead]
        exact List.mem_cons_self
  · obtain ⟨_, _, _, _, _, _, rest⟩ := split
    have asked : .ask parse ∈ [Event.told 1, .resume] := by rw [rest]; simp
    simp at asked

-- The next prompt is asked before the event loop is told of the line, and is answered with it.
def takenLine : List Event :=
  [.ask parseText, .cancel, .returns 0 (.line "123456"), .ask parseText, .told 0, .resume]

theorem old_line_answers :
    ∃ state, run takenLine = some state ∧ state.deliveries = [⟨1, 0, .line "123456"⟩] ∧
      ¬ LinesDelivered takenLine state := by
  refine ⟨_, rfl, by decide +kernel, ?_⟩
  intro delivered
  refine delivered.dropped [.ask parseText, .cancel] 0 (.line "123456") [.ask parseText, .told 0, .resume] _ rfl rfl rfl
    ⟨1, 0, .line "123456"⟩ ?_ rfl
  decide +kernel

end Conformance.Validator.Terminal
