import SendspinConformance.Validator.Link

set_option autoImplicit false

namespace Conformance.Validator

open Python Base

theorem meets_any {α : Type} {pre : World → Prop} (program : Action α) :
    Meets pre program (upon (fun _ _ => True) fun _ _ => True) := by
  intro before ended after started ran
  cases ended <;> trivial

-- The rule of a sequence for what holds of returned values alone.
theorem meets_then {α β : Type} {pre : World → Prop} {program : Action α} {next : α → Action β}
    {post : β → World → Prop} (between : α → World → Prop)
    (first : Meets pre program (upon between fun _ _ => True))
    (second : ∀ value, Meets (between value) (next value) (upon post fun _ _ => True)) :
    Meets pre (program >>= next) (upon post fun _ _ => True) :=
  @meets_bind World PyError α β pre program next (upon post fun _ _ => True) between first second

-- Turns that end with a result end as the turn that gave it.
theorem meets_repeated {α : Type} {turn : Action (Option α)} {post : α → World → Prop}
    (each : Meets (fun _ => True) turn
      (upon (fun value after => ∀ result, value = some result → post result after) fun _ _ => True))
    (turns : Nat) : Meets (fun _ => True) (Program.repeated turn turns) (upon post fun _ _ => True) := by
  induction turns with
  | zero =>
      intro before ended after _ ran
      cases ran
  | succ turns ih =>
      rw [Program.repeated]
      refine meets_then _ each fun value => ?_
      cases value with
      | none => exact meets_weaken ih (fun _ _ => trivial) fun _ _ held => held
      | some result =>
          apply meets_pure
          intro state held
          exact held result rfl

namespace Link

variable (link : Link)

-- What a wait saw: it ended with its condition met, or ran out of time after a last look.
theorem meets_wait (condition : World → Bool) :
    Meets (fun _ => True) (link.waitUntil condition)
      (upon (fun met after =>
          (met = true → condition after = true) ∧
          (met = false → ∃ looked, condition looked = false ∧ link.wake.from looked = some (.ok false, after)))
        fun _ _ => True) := by
  intro before ended after _ ran
  refine meets_repeated ?_ (before.script.length + 1) before ended after trivial ran
  apply meets_read
  intro state _
  by_cases holds : condition state = true
  · rw [if_pos holds]
    apply meets_pure
    intro found isState result same
    cases same
    rw [isState]
    exact ⟨fun _ => holds, fun missed => (Bool.noConfusion missed)⟩
  · rw [if_neg holds]
    refine meets_then (fun woken after => link.wake.from state = some (.ok woken, after)) ?_ ?_
    · intro found ended after isState ran
      rw [isState] at ran
      cases ended with
      | ok woken => exact ran
      | error raised => trivial
    · intro woken
      cases woken with
      | true =>
          apply meets_pure
          intro later _ result same
          cases same
      | false =>
          apply meets_pure
          intro later waited result same
          cases same
          exact ⟨fun met => Bool.noConfusion met, fun _ => ⟨state, by simpa using holds, waited⟩⟩

-- Whatever it waited for, _next answers with what the recorder shows when it ends.
theorem meets_next (watermark : Nat) :
    Meets (fun _ => True) (link.next watermark)
      (upon (fun result after => result = link.newest after watermark) fun _ _ => True) := by
  have answers : Meets (fun _ => True)
      (Program.current >>= fun world => (pure (link.newest world watermark) : Action (Option Nat)))
      (upon (fun result after => result = link.newest after watermark) fun _ _ => True) := by
    apply meets_read
    intro state _
    apply meets_pure
    intro found isState
    exact isState ▸ rfl
  have waits : ∀ dialed : Bool, Meets (fun _ => True)
      (if dialed = true then do
          let _ ← link.waitUntil (link.settled watermark)
          return link.newest (← Program.current) watermark
        else do
          return link.newest (← Program.current) watermark)
      (upon (fun result after => result = link.newest after watermark) fun _ _ => True) := by
    intro dialed
    cases dialed with
    | true => exact meets_then _ (meets_any _) fun _ => answers
    | false => exact answers
  rw [next]
  apply meets_read
  intro state _
  refine meets_weaken ?_ (fun _ _ => trivial) fun _ _ held => held
  by_cases dials : (link.url.isSome && (link.connectionsSince state watermark).isEmpty) = true
  · simp only [dials]
    exact meets_then _ (meets_any _) waits
  · simp only [dials]
    exact meets_then _ (meets_any _) waits

-- What every single wait does, and programs one after the other keep, all of these do.
section related

variable {rel : World → Option PyError → World → Prop} (sequential : Sequential rel)
variable (awaits : ∀ {α : Type} (ends : Happening → Option α), Relates rel (link.await ends))

include sequential

omit link in
theorem relates_forever {α : Type} {turn : Action (Option α)} (related : Relates rel turn) :
    Relates rel (foreverHere turn) := by
  intro before ended after ran
  exact relates_repeated sequential related (before.script.length + 1) before ended after ran

include awaits

theorem relates_wait (condition : World → Bool) : Relates rel (link.waitUntil condition) := by
  apply relates_forever sequential
  apply relates_read
  intro state
  by_cases holds : condition state = true
  · rw [if_pos holds]
    exact relates_pure sequential _
  · rw [if_neg holds]
    apply relates_bind sequential (awaits _)
    intro woken
    cases woken <;> exact relates_pure sequential _

theorem relates_close : Relates rel link.close := by
  have waits (last : Nat) : Relates rel (do
      if isOpen (← Program.current) (some last) then
        let _ ← link.untilHolds last ConnectionRecord.closed) := by
    apply relates_read
    intro state
    by_cases isOpened : isOpen state (some last) = true
    · rw [if_pos isOpened]
      exact relates_bind sequential (link.relates_wait sequential awaits _) fun _ => relates_pure sequential ()
    · rw [if_neg isOpened]
      exact relates_pure sequential ()
  rw [close]
  apply relates_read
  intro state
  apply relates_read
  intro again
  by_cases serves : (link.url.isNone && ((link.current state).bind (connection again)).isSome) = true
  · simp only [if_pos serves]
    refine relates_bind sequential (awaits _) fun _ => ?_
    cases link.current state with
    | none => exact relates_pure sequential ()
    | some last => exact waits last
  · simp only [if_neg serves]
    cases link.current state with
    | none => exact relates_pure sequential ()
    | some last => exact waits last

theorem relates_next (watermark : Nat) : Relates rel (link.next watermark) := by
  have answers : Relates rel
      (Program.current >>= fun world => (pure (link.newest world watermark) : Action (Option Nat))) := by
    apply relates_read
    intro state
    exact relates_pure sequential _
  have waits : ∀ dialed : Bool, Relates rel
      (if dialed = true then do
          let _ ← link.waitUntil (link.settled watermark)
          return link.newest (← Program.current) watermark
        else do
          return link.newest (← Program.current) watermark) := by
    intro dialed
    cases dialed with
    | true => exact relates_bind sequential (link.relates_wait sequential awaits _) fun _ => answers
    | false => exact answers
  rw [next]
  apply relates_read
  intro state
  by_cases dials : (link.url.isSome && (link.connectionsSince state watermark).isEmpty) = true
  · simp only [dials]
    exact relates_bind sequential (awaits _) waits
  · simp only [dials]
    exact relates_bind sequential (relates_pure sequential _) waits

theorem relates_reconnect : Relates rel link.reconnect := by
  apply relates_bind sequential (link.relates_close sequential awaits)
  intro _
  apply relates_read
  intro state
  exact link.relates_next sequential awaits _

theorem relates_open_connection : Relates rel link.openConnection := by
  rw [openConnection]
  apply relates_read
  intro state
  apply relates_read
  intro again
  by_cases opened : isOpen again (link.current state) = true
  · rw [if_pos opened]
    exact relates_pure sequential _
  · rw [if_neg opened]
    exact link.relates_reconnect sequential awaits

theorem relates_matching (holds : ConnectionRecord → Bool) (tries : Nat) (asks : Bool) (number : Option Nat) :
    Relates rel (link.matching holds tries asks number) := by
  induction tries generalizing asks number with
  | zero =>
      rw [matching]
      apply relates_read
      intro state
      split <;> exact relates_pure sequential _
  | succ tries ih =>
      have reconnects (next : Option Nat → Action (Option Nat)) (missed : next none = pure none)
          (connects : ∀ number, next (some number) = link.matching holds tries true (some number)) :
          Relates rel (link.reconnect >>= next) := by
        apply relates_bind sequential (link.relates_reconnect sequential awaits)
        intro connected
        cases connected with
        | none =>
            rw [missed]
            exact relates_pure sequential _
        | some number =>
            rw [connects]
            exact ih true (some number)
      rw [matching]
      apply relates_read
      intro state
      by_cases suited : suits holds state number = true
      · rw [if_pos suited]
        exact relates_pure sequential _
      · rw [if_neg suited]
        cases asks with
        | false => exact reconnects _ rfl fun _ => rfl
        | true =>
            refine relates_bind sequential ?_ fun retried => ?_
            · rw [map_eq_pure_bind]
              exact relates_bind sequential (awaits _) fun _ => relates_pure sequential _
            · cases retried with
              | false => exact relates_pure sequential _
              | true => exact reconnects _ rfl fun _ => rfl

theorem relates_connect_matching (holds : ConnectionRecord → Bool) : Relates rel (link.connectMatching holds) := by
  apply relates_read
  intro state
  exact link.relates_matching sequential awaits holds matchAttempts false _

end related

theorem newest_none (world : World) (watermark : Nat) (absent : link.newest world watermark = none) :
    link.connectionsSince world watermark = [] := by
  rw [newest, Option.or_eq_none_iff, List.head?_eq_none_iff, List.head?_eq_none_iff] at absent
  exact absent.2

-- A restart is reported as not seen only if the last look still showed the old connection
-- open, or no new connection of the client's shows.
theorem await_reconnect_none (previous : Nat) (before after : World)
    (ran : (link.awaitReconnect previous).from before = some (.ok none, after)) :
    (∃ looked, (record looked previous).closed = false ∧ link.wake.from looked = some (.ok false, after)) ∨
      link.connectionsSince after previous = [] := by
  have met : Meets (fun _ => True) (link.awaitReconnect previous)
      (upon (fun result after => result = none →
        (∃ looked, (record looked previous).closed = false ∧ link.wake.from looked = some (.ok false, after)) ∨
          link.connectionsSince after previous = []) fun _ _ => True) := by
    rw [awaitReconnect]
    refine meets_then _ (link.meets_wait fun world => (record world previous).closed) fun found => ?_
    cases found with
    | true =>
        refine meets_weaken (link.meets_next previous) (fun _ _ => trivial) ?_
        intro ended state held
        cases ended with
        | ok result =>
            intro absent
            exact Or.inr (link.newest_none state previous (held.symm.trans absent))
        | error raised => trivial
    | false =>
        apply meets_pure
        intro state waited _
        exact Or.inl (waited.2 rfl)
  exact met before _ after trivial ran rfl

end Link

end Conformance.Validator
