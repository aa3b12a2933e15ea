import Mathlib.Logic.Basic

set_option autoImplicit false

namespace Conformance.Base

-- A program on a state: it returns, it raises, or it never ends (none). What it did to
-- the state stays when it raises.
abbrev Program (σ ε α : Type) := ExceptT ε (StateT σ Option) α

section

variable {σ ρ ε α β : Type}

-- How a program started in a state ends, and in which state.
def Program.from (program : Program σ ε α) (before : σ) : Option (Except ε α × σ) := program.run.run before

namespace Program

def never : Program σ ε α := ExceptT.mk fun _ => none

def current : Program σ ε σ := ExceptT.mk fun state => some (.ok state, state)

def change (changed : σ → σ) : Program σ ε Unit := ExceptT.mk fun state => some (.ok (), changed state)

def outcome (ended : Except ε α) : Program σ ε α := ExceptT.mk fun state => some (ended, state)

-- try: program finally: cleanup
def afterwards (program : Program σ ε α) (cleanup : Program σ ε Unit) : Program σ ε α := ExceptT.mk fun before =>
  match program.from before with
  | none => none
  | some (ended, between) =>
      match cleanup.from between with
      | none => none
      | some (.ok _, after) => some (ended, after)
      | some (.error raised, after) => some (.error raised, after)

-- The program with its exception as a value.
def settled (program : Program σ ε α) : Program σ ε (Except ε α) := ExceptT.mk fun before =>
  (program.from before).map fun result => (.ok result.1, result.2)

-- A program on one part of a state, which cannot touch the other.
def within (program : Program σ ε α) : Program (ρ × σ) ε α := ExceptT.mk fun before =>
  (program.from before.2).map fun result => (result.1, (before.1, result.2))

-- A program with a state of its own beside the state it is started in.
def opened (own : ρ) (program : Program (ρ × σ) ε α) : Program σ ε α := ExceptT.mk fun before =>
  (program.from (own, before)).map fun result => (result.1, result.2.2)

-- Its turns until one gives a result, at most `turns` of them.
def repeated (turn : Program σ ε (Option α)) : Nat → Program σ ε α
  | 0 => never
  | turns + 1 => do
      match ← turn with
      | some result => pure result
      | none => repeated turn turns

end Program

-- Every end of the program, started where `pre` holds, is one `post` allows.
def Meets (pre : σ → Prop) (program : Program σ ε α) (post : Except ε α → σ → Prop) : Prop :=
  ∀ before ended after, pre before → program.from before = some (ended, after) → post ended after

-- What holds after a value, and what holds after an exception.
def upon (returned : α → σ → Prop) (raised : ε → σ → Prop) : Except ε α → σ → Prop
  | .ok value => returned value
  | .error error => raised error

def exceptionOf : Except ε α → Option ε
  | .ok _ => none
  | .error raised => some raised

-- The program keeps what holds of one part of its state, however it ends.
def Keeps (held : ρ → Prop) (program : Program (ρ × σ) ε α) : Prop :=
  Meets (fun state => held state.1) program fun _ state => held state.1

-- What relates the states before and after a program, by the exception it ended with, if any.
def Relates (rel : σ → Option ε → σ → Prop) (program : Program σ ε α) : Prop :=
  ∀ before ended after, program.from before = some (ended, after) → rel before (exceptionOf ended) after

-- A relation that programs run one after the other keep: where nothing was done, and across a value.
structure Sequential (rel : σ → Option ε → σ → Prop) : Prop where
  here : ∀ state raised, rel state raised state
  trans : ∀ first between raised after, rel first none between → rel between raised after → rel first raised after

-- What holds of every value the program returns, from any state.
def Gives (program : Program σ ε α) (post : α → Prop) : Prop :=
  Meets (fun _ => True) program (upon (fun value _ => post value) fun _ _ => True)

theorem from_bind (program : Program σ ε α) (next : α → Program σ ε β) (before : σ) :
    (program >>= next).from before =
      match program.from before with
      | none => none
      | some (.ok value, between) => (next value).from between
      | some (.error raised, between) => some (.error raised, between) := by
  simp only [Program.from, ExceptT.run_bind, StateT.run_bind]
  cases ended : program.run.run before with
  | none => rfl
  | some result =>
      cases result with
      | mk outcome between =>
          cases outcome with
          | ok value => rfl
          | error raised => rfl

theorem from_within (program : Program σ ε α) (before : ρ × σ) :
    program.within.from before = (program.from before.2).map fun result => (result.1, (before.1, result.2)) := rfl

theorem from_opened (own : ρ) (program : Program (ρ × σ) ε α) (before : σ) :
    (program.opened own).from before = (program.from (own, before)).map fun result => (result.1, result.2.2) := rfl

theorem from_settled (program : Program σ ε α) (before : σ) :
    program.settled.from before = (program.from before).map fun result => (.ok result.1, result.2) := rfl

theorem from_afterwards (program : Program σ ε α) (cleanup : Program σ ε Unit) (before : σ) :
    (program.afterwards cleanup).from before =
      match program.from before with
      | none => none
      | some (ended, between) =>
          match cleanup.from between with
          | none => none
          | some (.ok _, after) => some (ended, after)
          | some (.error raised, after) => some (.error raised, after) := rfl

-- What a sequence ends with: its first program's exception, or what follows it.
theorem bind_ended {program : Program σ ε α} {next : α → Program σ ε β} {before after : σ}
    {ended : Except ε β} (ran : (program >>= next).from before = some (ended, after)) :
    (∃ value between, program.from before = some (.ok value, between) ∧
      (next value).from between = some (ended, after)) ∨
      ∃ raised, program.from before = some (.error raised, after) ∧ ended = .error raised := by
  rw [from_bind] at ran
  cases first : program.from before with
  | none =>
      rw [first] at ran
      cases ran
  | some result =>
      rcases result with ⟨outcome, between⟩
      rw [first] at ran
      cases outcome with
      | ok value => exact .inl ⟨value, between, rfl, ran⟩
      | error raised =>
          cases ran
          exact .inr ⟨raised, rfl, rfl⟩

-- The cleanup runs however the program ended, and its own exception comes first.
theorem afterwards_ended {program : Program σ ε α} {cleanup : Program σ ε Unit} {before after : σ} {ended : Except ε α}
    (ran : (program.afterwards cleanup).from before = some (ended, after)) :
    ∃ result between, program.from before = some (result, between) ∧
      ((cleanup.from between = some (.ok (), after) ∧ ended = result) ∨
        ∃ raised, cleanup.from between = some (.error raised, after) ∧ ended = .error raised) := by
  rw [from_afterwards] at ran
  cases middle : program.from before with
  | none =>
      rw [middle] at ran
      cases ran
  | some reached =>
      rcases reached with ⟨result, between⟩
      rw [middle] at ran
      dsimp only at ran
      cases cleaned : cleanup.from between with
      | none =>
          rw [cleaned] at ran
          cases ran
      | some finish =>
          rcases finish with ⟨outcome, state⟩
          rw [cleaned] at ran
          cases outcome with
          | ok _ =>
              cases ran
              exact ⟨ended, between, rfl, .inl ⟨cleaned, rfl⟩⟩
          | error raised =>
              cases ran
              exact ⟨result, between, rfl, .inr ⟨raised, cleaned, rfl⟩⟩

theorem afterwards_cleaned {program : Program σ ε α} {cleanup : Program σ ε Unit} {before after : σ}
    {ended : Except ε α} (ran : (program.afterwards cleanup).from before = some (ended, after)) :
    ∃ result between finish, program.from before = some (result, between) ∧
      cleanup.from between = some (finish, after) := by
  obtain ⟨result, between, middle, ⟨cleaned, _⟩ | ⟨raised, cleaned, _⟩⟩ := afterwards_ended ran
  · exact ⟨result, between, _, middle, cleaned⟩
  · exact ⟨result, between, _, middle, cleaned⟩

-- What follows the reading of the state, or a change of it, starts there.
theorem read_ended {next : σ → Program σ ε α} {before after : σ} {ended : Except ε α}
    (ran : (Program.current >>= next).from before = some (ended, after)) :
    (next before).from before = some (ended, after) := ran

theorem change_ended {changed : σ → σ} {next : Unit → Program σ ε α} {before after : σ} {ended : Except ε α}
    (ran : (Program.change changed >>= next).from before = some (ended, after)) :
    (next ()).from (changed before) = some (ended, after) := ran

-- What follows a settled program starts with what that ended with.
theorem settled_ended {program : Program σ ε α} {next : Except ε α → Program σ ε β} {before after : σ}
    {ended : Except ε β} (ran : (program.settled >>= next).from before = some (ended, after)) :
    ∃ result between, program.from before = some (result, between) ∧
      (next result).from between = some (ended, after) := by
  rw [from_bind, from_settled] at ran
  cases middle : program.from before with
  | none =>
      rw [middle] at ran
      cases ran
  | some reached =>
      rw [middle] at ran
      exact ⟨reached.1, reached.2, rfl, ran⟩

theorem within_ended {program : Program σ ε α} {before after : ρ × σ} {ended : Except ε α}
    (ran : program.within.from before = some (ended, after)) :
    program.from before.2 = some (ended, after.2) ∧ after.1 = before.1 := by
  rw [from_within, Option.map_eq_some_iff] at ran
  rcases ran with ⟨result, inner, same⟩
  cases same
  exact ⟨inner, rfl⟩

theorem meets_weaken {pre wider : σ → Prop} {program : Program σ ε α} {post looser : Except ε α → σ → Prop}
    (met : Meets wider program post) (covered : ∀ state, pre state → wider state)
    (allowed : ∀ ended state, post ended state → looser ended state) : Meets pre program looser := by
  intro before ended after started ran
  exact allowed ended after (met before ended after (covered before started) ran)

theorem meets_pure {pre : σ → Prop} {post : Except ε α → σ → Prop} (value : α)
    (holds : ∀ state, pre state → post (.ok value) state) : Meets pre (pure value : Program σ ε α) post := by
  intro before ended after started ran
  cases ran
  exact holds before started

-- What follows the reading of the state starts in the state that was read.
theorem meets_read {pre : σ → Prop} {next : σ → Program σ ε α} {post : Except ε α → σ → Prop}
    (follows : ∀ state, pre state → Meets (fun before => before = state) (next state) post) :
    Meets pre (Program.current >>= next) post := by
  intro before ended after started ran
  exact follows before started before ended after rfl ran

theorem meets_change {pre : σ → Prop} {post : Except ε Unit → σ → Prop} (changed : σ → σ)
    (holds : ∀ state, pre state → post (.ok ()) (changed state)) :
    Meets pre (Program.change changed : Program σ ε Unit) post := by
  intro before ended after started ran
  cases ran
  exact holds before started

theorem meets_bind {pre : σ → Prop} {program : Program σ ε α} {next : α → Program σ ε β}
    {post : Except ε β → σ → Prop} (between : α → σ → Prop)
    (first : Meets pre program (upon between fun raised => post (.error raised)))
    (second : ∀ value, Meets (between value) (next value) post) : Meets pre (program >>= next) post := by
  intro before ended after started ran
  rw [from_bind] at ran
  cases middle : program.from before with
  | none =>
      rw [middle] at ran
      cases ran
  | some result =>
      obtain ⟨outcome, state⟩ := result
      rw [middle] at ran
      have reached := first before outcome state started middle
      cases outcome with
      | ok value => exact second value state ended after reached ran
      | error raised =>
          cases ran
          exact reached

theorem meets_throw {pre : σ → Prop} {post : Except ε α → σ → Prop} (error : ε)
    (holds : ∀ state, pre state → post (.error error) state) : Meets pre (throw error : Program σ ε α) post := by
  intro before ended after started ran
  cases ran
  exact holds before started

theorem keeps_pure {held : ρ → Prop} (value : α) : Keeps held (pure value : Program (ρ × σ) ε α) := by
  apply meets_pure
  intro _ kept
  exact kept

theorem keeps_never {held : ρ → Prop} : Keeps held (Program.never : Program (ρ × σ) ε α) := by
  intro _ _ _ _ ran
  cases ran

theorem keeps_current {held : ρ → Prop} : Keeps held (Program.current : Program (ρ × σ) ε (ρ × σ)) := by
  intro before ended after kept ran
  cases ran
  exact kept

theorem keeps_change {held : ρ → Prop} (changed : ρ × σ → ρ × σ)
    (kept : ∀ state, held state.1 → held (changed state).1) :
    Keeps held (Program.change changed : Program (ρ × σ) ε Unit) :=
  meets_change changed kept

theorem keeps_bind {held : ρ → Prop} {program : Program (ρ × σ) ε α} {next : α → Program (ρ × σ) ε β}
    (first : Keeps held program) (second : ∀ value, Keeps held (next value)) : Keeps held (program >>= next) := by
  refine @meets_bind (ρ × σ) ε α β _ program next _ (fun _ state => held state.1) ?_ second
  refine meets_weaken first (fun _ kept => kept) ?_
  intro ended state kept
  cases ended <;> exact kept

-- A program on the other part cannot touch this one.
theorem keeps_within {held : ρ → Prop} (program : Program σ ε α) :
    Keeps held (program.within : Program (ρ × σ) ε α) := by
  intro before ended after started ran
  rw [from_within, Option.map_eq_some_iff] at ran
  obtain ⟨result, _, same⟩ := ran
  cases same
  exact started

theorem meets_within {held : ρ → Prop} {program : Program σ ε α} {post : α → Prop} (given : Gives program post) :
    Meets (fun state : ρ × σ => held state.1) program.within
      (upon (fun value state => held state.1 ∧ post value) fun _ state => held state.1) := by
  intro before ended after started ran
  rw [from_within, Option.map_eq_some_iff] at ran
  obtain ⟨result, inner, same⟩ := ran
  cases same
  have returned := given before.2 result.1 result.2 trivial inner
  cases outcome : result.1 with
  | ok value =>
      rw [outcome] at returned
      exact ⟨started, returned⟩
  | error _ => exact started

theorem keeps_settled {held : ρ → Prop} {program : Program (ρ × σ) ε α} (kept : Keeps held program) :
    Keeps held program.settled := by
  intro before ended after started ran
  rw [from_settled, Option.map_eq_some_iff] at ran
  obtain ⟨result, inner, same⟩ := ran
  cases same
  exact kept before result.1 result.2 started inner

theorem keeps_repeated {held : ρ → Prop} {turn : Program (ρ × σ) ε (Option α)} (kept : Keeps held turn)
    (turns : Nat) : Keeps held (Program.repeated turn turns) := by
  induction turns with
  | zero => exact keeps_never
  | succ turns ih =>
      apply keeps_bind kept
      intro value
      cases value with
      | some result => exact keeps_pure result
      | none => exact ih

theorem relates_pure {rel : σ → Option ε → σ → Prop} (sequential : Sequential rel) (value : α) :
    Relates rel (pure value : Program σ ε α) := by
  intro before ended after ran
  cases ran
  exact sequential.here before _

theorem relates_outcome {rel : σ → Option ε → σ → Prop} (sequential : Sequential rel) (ended : Except ε α) :
    Relates rel (Program.outcome ended : Program σ ε α) := by
  intro before result after ran
  cases ran
  exact sequential.here before _

theorem relates_bind {rel : σ → Option ε → σ → Prop} (sequential : Sequential rel) {program : Program σ ε α}
    {next : α → Program σ ε β} (first : Relates rel program) (second : ∀ value, Relates rel (next value)) :
    Relates rel (program >>= next) := by
  intro before ended after ran
  rcases bind_ended ran with ⟨value, between, done, followed⟩ | ⟨raised, done, rfl⟩
  · exact sequential.trans before between _ after (first before _ between done) (second value between ended after followed)
  · exact first before _ after done

-- What follows the reading of the state starts in the state that was read.
theorem relates_read {rel : σ → Option ε → σ → Prop} {next : σ → Program σ ε α}
    (follows : ∀ state, Relates rel (next state)) : Relates rel (Program.current >>= next) := by
  intro before ended after ran
  exact follows before before ended after ran

theorem relates_repeated {rel : σ → Option ε → σ → Prop} (sequential : Sequential rel)
    {turn : Program σ ε (Option α)} (related : Relates rel turn) (turns : Nat) :
    Relates rel (Program.repeated turn turns) := by
  induction turns with
  | zero =>
      intro before ended after ran
      cases ran
  | succ turns ih =>
      apply relates_bind sequential related
      intro value
      cases value with
      | some result => exact relates_pure sequential result
      | none => exact ih

theorem relates_change {rel : σ → Option ε → σ → Prop} (changed : σ → σ)
    (holds : ∀ state, rel state none (changed state)) : Relates rel (Program.change changed : Program σ ε Unit) := by
  intro before ended after ran
  cases ran
  exact holds before

theorem relates_within {rel : σ → Option ε → σ → Prop} {program : Program σ ε α} (related : Relates rel program) :
    Relates (fun before raised after => rel before.2 raised after.2) (program.within : Program (ρ × σ) ε α) := by
  intro before ended after ran
  exact related before.2 ended after.2 (within_ended ran).1

theorem gives_opened {own : ρ} {program : Program (ρ × σ) ε α} {post : α → Prop}
    (met : Meets (fun state => state.1 = own) program (upon (fun value _ => post value) fun _ _ => True)) :
    Gives (program.opened own) post := by
  intro before ended after _ ran
  rw [from_opened, Option.map_eq_some_iff] at ran
  obtain ⟨result, inner, same⟩ := ran
  cases same
  have held := met (own, before) result.1 result.2 rfl inner
  cases outcome : result.1 with
  | ok value =>
      rw [outcome] at held
      exact held
  | error _ => trivial

theorem gives_pure {post : α → Prop} (value : α) (holds : post value) : Gives (pure value : Program σ ε α) post := by
  apply meets_pure
  intro _ _
  exact holds

theorem gives_throw {post : α → Prop} (error : ε) : Gives (throw error : Program σ ε α) post := by
  apply meets_throw
  intro _ _
  trivial

theorem gives_outcome {post : α → Prop} (ended : Except ε α) (holds : ∀ value, ended = .ok value → post value) :
    Gives (Program.outcome ended : Program σ ε α) post := by
  intro before result after _ ran
  cases ran
  cases ended with
  | ok value => exact holds value rfl
  | error _ => trivial

theorem gives_bind {program : Program σ ε α} {next : α → Program σ ε β} {post : β → Prop} (between : α → Prop)
    (first : Gives program between) (second : ∀ value, between value → Gives (next value) post) :
    Gives (program >>= next) post := by
  refine @meets_bind σ ε α β (fun _ => True) program next _ (fun value _ => between value) first ?_
  intro value before ended after reached ran
  exact second value reached before ended after trivial ran

-- Whatever the first program returns, the second gives.
theorem gives_then {program : Program σ ε α} {next : α → Program σ ε β} {post : β → Prop}
    (second : ∀ value, Gives (next value) post) : Gives (program >>= next) post := by
  apply gives_bind fun _ => True
  · intro before ended after _ _
    cases ended <;> trivial
  · intro value _
    exact second value

theorem gives_afterwards {program : Program σ ε α} {post : α → Prop} (cleanup : Program σ ε Unit)
    (given : Gives program post) : Gives (program.afterwards cleanup) post := by
  intro before ended after _ ran
  rcases afterwards_ended ran with ⟨result, between, middle, ⟨_, rfl⟩ | ⟨raised, _, rfl⟩⟩
  · have held := given before ended between trivial middle
    cases ended with
    | ok value => exact held
    | error _ => trivial
  · trivial

end

end Conformance.Base
