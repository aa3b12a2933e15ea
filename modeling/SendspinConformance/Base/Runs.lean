import Mathlib.Data.List.Induction

set_option autoImplicit false

namespace Conformance.Base

variable {σ τ ε α : Type}

-- A run that may stop early: foldlM over a step that answers a state or an error.
-- An invariant relates what has been read so far to the state it left.
theorem run_invariant (step : σ → α → Except ε σ) (Inv : List α → σ → Prop)
    (preserved : ∀ done state entry next, Inv done state → step state entry = .ok next → Inv (done ++ [entry]) next)
    (rest : List α) (done : List α) (state final : σ) (inv : Inv done state)
    (ran : rest.foldlM step state = .ok final) : Inv (done ++ rest) final := by
  induction rest generalizing done state with
  | nil =>
      have same : state = final := by simpa [pure, Except.pure] using ran
      simpa [← same] using inv
  | cons entry rest ih =>
      cases stepped : step state entry with
      | error raised => simp [List.foldlM_cons, stepped, bind, Except.bind] at ran
      | ok next =>
          have later : rest.foldlM step next = .ok final := by
            simpa [List.foldlM_cons, stepped, bind, Except.bind] using ran
          simpa using ih (done ++ [entry]) next (preserved done state entry next inv stepped) later

-- A run that stops early stops at one entry, with the invariant still true before it.
theorem run_stopped (step : σ → α → Except ε σ) (Inv : List α → σ → Prop)
    (preserved : ∀ done state entry next, Inv done state → step state entry = .ok next → Inv (done ++ [entry]) next)
    (rest : List α) (done : List α) (state : σ) (raised : ε) (inv : Inv done state)
    (ran : rest.foldlM step state = .error raised) :
    ∃ before entry after last, rest = before ++ entry :: after ∧ Inv (done ++ before) last ∧
      step last entry = .error raised := by
  induction rest generalizing done state with
  | nil => simp [pure, Except.pure] at ran
  | cons entry rest ih =>
      cases stepped : step state entry with
      | error other =>
          have same : other = raised := by simpa [List.foldlM_cons, stepped, bind, Except.bind] using ran
          exact ⟨[], entry, rest, state, rfl, by simpa using inv, by rw [stepped, same]⟩
      | ok next =>
          have later : rest.foldlM step next = .error raised := by
            simpa [List.foldlM_cons, stepped, bind, Except.bind] using ran
          obtain ⟨before, stop, after, last, split, kept, failed⟩ :=
            ih (done ++ [entry]) next (preserved done state entry next inv stepped) later
          exact ⟨entry :: before, stop, after, last, by rw [split]; rfl, by simpa using kept, failed⟩

theorem run_append (step : σ → α → Except ε σ) (first second : List α) (state : σ) :
    (first ++ second).foldlM step state = (first.foldlM step state).bind (second.foldlM step) := by
  simp only [List.foldlM_append]
  rfl

-- Two runs over the same entries from related states: while the first goes on, so
-- does the second, and the states stay related.
theorem run_simulation (step : σ → α → Except ε σ) (other : τ → α → Except ε τ) (Rel : σ → τ → Prop)
    (simulated : ∀ left right entry next, Rel left right → step left entry = .ok next →
      ∃ moved, other right entry = .ok moved ∧ Rel next moved)
    (entries : List α) (left final : σ) (right : τ) (related : Rel left right)
    (ran : entries.foldlM step left = .ok final) :
    ∃ moved, entries.foldlM other right = .ok moved ∧ Rel final moved := by
  induction entries generalizing left right with
  | nil =>
      have same : left = final := by simpa [pure, Except.pure] using ran
      exact ⟨right, rfl, by simpa [← same] using related⟩
  | cons entry rest ih =>
      cases stepped : step left entry with
      | error raised => simp [List.foldlM_cons, stepped, bind, Except.bind] at ran
      | ok next =>
          have later : rest.foldlM step next = .ok final := by
            simpa [List.foldlM_cons, stepped, bind, Except.bind] using ran
          obtain ⟨moved, movedStep, movedRel⟩ := simulated left right entry next related stepped
          obtain ⟨last, lastRun, lastRel⟩ := ih next moved movedRel later
          exact ⟨last, by simpa [List.foldlM_cons, movedStep, bind, Except.bind] using lastRun, lastRel⟩

-- A run over entries that are read before they are acted on: it goes on exactly while
-- each entry can be read and the turn on what was read goes on.
theorem run_view {β ω : Type} (step : σ → α → Except ε σ) (view : α → Option β) (turn : σ → β → Except ω σ)
    (agrees : ∀ state entry next,
      step state entry = .ok next ↔ ∃ read, view entry = some read ∧ turn state read = .ok next)
    (entries : List α) (state final : σ) :
    entries.foldlM step state = .ok final ↔
      ∃ log, entries.mapM view = some log ∧ log.foldlM turn state = .ok final := by
  induction entries generalizing state with
  | nil => simp [pure, Except.pure]
  | cons entry rest ih =>
      have first : (entry :: rest).foldlM step state = .ok final ↔
          ∃ next, step state entry = .ok next ∧ rest.foldlM step next = .ok final := by
        rw [List.foldlM_cons]
        cases step state entry <;> simp [bind, Except.bind]
      rw [first]
      constructor
      · rintro ⟨next, stepped, ran⟩
        obtain ⟨read, seen, turned⟩ := (agrees state entry next).mp stepped
        obtain ⟨log, readRest, ranRest⟩ := (ih next).mp ran
        refine ⟨read :: log, by simp [List.mapM_cons, seen, readRest], ?_⟩
        simpa [List.foldlM_cons, turned, bind, Except.bind] using ranRest
      · rintro ⟨log, readAll, ran⟩
        rw [List.mapM_cons] at readAll
        cases seen : view entry with
        | none => simp [seen] at readAll
        | some read =>
            cases readRest : rest.mapM view with
            | none => simp [seen, readRest] at readAll
            | some others =>
                have same : read :: others = log := by simpa [seen, readRest] using readAll
                rw [← same, List.foldlM_cons] at ran
                cases turned : turn state read with
                | error stopped => simp [turned, bind, Except.bind] at ran
                | ok next =>
                    refine ⟨next, (agrees state entry next).mpr ⟨read, seen, turned⟩, ?_⟩
                    exact (ih next).mpr ⟨others, readRest, by simpa [turned, bind, Except.bind] using ran⟩

theorem map_all_append {β : Type} (read : α → Option β) (first second : List α) (answers : List β) :
    (first ++ second).mapM read = some answers ↔
      ∃ left right, first.mapM read = some left ∧ second.mapM read = some right ∧ answers = left ++ right := by
  rw [List.mapM_append]
  cases first.mapM read with
  | none => simp
  | some left =>
      cases second.mapM read with
      | none => simp
      | some right => simp [eq_comm]

theorem map_all_cons {β : Type} (read : α → Option β) (head : α) (tail : List α) (answers : List β) :
    (head :: tail).mapM read = some answers ↔
      ∃ first rest, read head = some first ∧ tail.mapM read = some rest ∧ answers = first :: rest := by
  rw [List.mapM_cons]
  cases read head with
  | none => simp
  | some first =>
      cases tail.mapM read with
      | none => simp
      | some rest => simp [eq_comm]

theorem map_all_some {β γ : Type} (read : β → Option γ) (source : α → β) (answer : α → γ) (items : List α)
    (each : ∀ item ∈ items, read (source item) = some (answer item)) :
    (items.map source).mapM read = some (items.map answer) := by
  induction items with
  | nil => rfl
  | cons item rest ih =>
      have later := ih fun other member => each other (List.mem_cons_of_mem item member)
      rw [List.map_cons, map_all_cons]
      exact ⟨answer item, rest.map answer, each item List.mem_cons_self, later, rfl⟩

theorem map_steps_ok {β : Type} (step : α → Except ε β) (entries : List α) (answers : List β) :
    entries.mapM step = .ok answers ↔ List.Forall₂ (fun entry answer => step entry = .ok answer) entries answers := by
  induction entries generalizing answers with
  | nil =>
      cases answers with
      | nil => exact ⟨fun _ => .nil, fun _ => rfl⟩
      | cons answer others => exact ⟨fun ran => (by cases ran), fun answered => (by cases answered)⟩
  | cons entry rest ih =>
      rw [List.mapM_cons]
      cases stepped : step entry with
      | error stopped =>
          apply Iff.intro
          · intro ran
            cases ran
          · intro answered
            cases answered with
            | cons first _ => rw [stepped] at first; cases first
      | ok answer =>
          cases later : rest.mapM step with
          | error stopped =>
              apply Iff.intro
              · intro ran
                cases ran
              · intro answered
                cases answered with
                | cons _ others => rw [(ih _).mpr others] at later; cases later
          | ok others =>
              apply Iff.intro
              · intro ran
                have same : answer :: others = answers := by
                  simpa [later, bind, Except.bind, pure, Except.pure] using ran
                rw [← same]
                exact .cons stepped ((ih others).mp later)
              · intro answered
                cases answered with
                | cons first remaining =>
                    rw [stepped] at first
                    rw [(ih _).mpr remaining] at later
                    cases first
                    cases later
                    rfl

theorem map_steps_total {β : Type} (step : α → Except ε β) (entries : List α) :
    (∃ answers, entries.mapM step = .ok answers) ↔ ∀ entry ∈ entries, ∃ answer, step entry = .ok answer := by
  simp only [map_steps_ok]
  induction entries with
  | nil => exact ⟨fun _ _ member => absurd member List.not_mem_nil, fun _ => ⟨[], .nil⟩⟩
  | cons entry rest ih =>
      rw [List.forall_mem_cons, ← ih]
      apply Iff.intro
      · intro ⟨_, answered⟩
        cases answered with
        | cons first others => exact ⟨⟨_, first⟩, _, others⟩
      · intro ⟨⟨answer, first⟩, answers, others⟩
        exact ⟨answer :: answers, .cons first others⟩

theorem map_steps_error {β : Type} (step : α → Except ε β) (entries : List α) (stopped : ε)
    (failed : entries.mapM step = .error stopped) : ∃ entry ∈ entries, step entry = .error stopped := by
  induction entries with
  | nil => cases failed
  | cons entry rest ih =>
      rw [List.mapM_cons] at failed
      cases stepped : step entry with
      | error other =>
          rw [stepped] at failed
          cases failed
          exact ⟨entry, List.mem_cons_self, stepped⟩
      | ok answer =>
          cases later : rest.mapM step with
          | error other =>
              rw [stepped, later] at failed
              cases failed
              obtain ⟨found, inRest, made⟩ := ih later
              exact ⟨found, List.mem_cons_of_mem entry inRest, made⟩
          | ok others =>
              rw [stepped, later] at failed
              cases failed

theorem map_steps_members {β : Type} (step : α → Except ε β) (entries : List α) (answers : List β)
    (ran : entries.mapM step = .ok answers) :
    (∀ answer ∈ answers, ∃ entry ∈ entries, step entry = .ok answer) ∧
    (∀ entry ∈ entries, ∃ answer ∈ answers, step entry = .ok answer) := by
  have answered := (map_steps_ok step entries answers).mp ran
  clear ran
  induction answered with
  | nil => exact ⟨fun _ member => absurd member List.not_mem_nil, fun _ member => absurd member List.not_mem_nil⟩
  | @cons entry answer rest others first _ ih =>
      refine ⟨?_, ?_⟩
      · intro other member
        cases List.mem_cons.mp member with
        | inl same => exact ⟨entry, List.mem_cons_self, same ▸ first⟩
        | inr later =>
            obtain ⟨found, inRest, made⟩ := ih.1 other later
            exact ⟨found, List.mem_cons_of_mem entry inRest, made⟩
      · intro other member
        cases List.mem_cons.mp member with
        | inl same => exact ⟨answer, List.mem_cons_self, same ▸ first⟩
        | inr later =>
            obtain ⟨found, inRest, made⟩ := ih.2 other later
            exact ⟨found, List.mem_cons_of_mem answer inRest, made⟩

-- What one step's answer shows of its entry, a run's answers show of the entries.
theorem map_steps_view {β γ : Type} (step : α → Except ε β) (view : β → γ) (other : α → γ)
    (agrees : ∀ entry answer, step entry = .ok answer → view answer = other entry)
    (entries : List α) (answers : List β) (ran : entries.mapM step = .ok answers) :
    answers.map view = entries.map other := by
  induction entries generalizing answers with
  | nil =>
      cases ran
      rfl
  | cons entry rest ih =>
      rw [List.mapM_cons] at ran
      cases stepped : step entry with
      | error stopped => simp [stepped, bind, Except.bind] at ran
      | ok answer =>
          cases later : rest.mapM step with
          | error stopped => simp [stepped, later, bind, Except.bind] at ran
          | ok others =>
              have same : answer :: others = answers := by
                simpa [stepped, later, bind, Except.bind, pure, Except.pure] using ran
              rw [← same, List.map_cons, List.map_cons, agrees entry answer stepped, ih others later]

-- The item at a place of a log each step may add one item to was added by the step that found the log that long.
theorem log_position {β : Type} (step : σ → α → σ) (log : σ → List β) (added : σ → α → Option β)
    (grows : ∀ state entry, log (step state entry) = log state ++ (added state entry).toList)
    (entries : List α) (start : σ) (position : Nat) (item : β) (later : (log start).length ≤ position)
    (held : (log (entries.foldl step start))[position]? = some item) :
    ∃ before entry after, entries = before ++ entry :: after ∧ (log (before.foldl step start)).length = position ∧
      added (before.foldl step start) entry = some item := by
  induction entries using List.reverseRecOn with
  | nil =>
      obtain ⟨shorter, _⟩ := List.getElem?_eq_some_iff.mp held
      rw [List.foldl_nil] at shorter
      omega
  | append_singleton earlier entry ih =>
      rw [List.foldl_append, List.foldl_cons, List.foldl_nil, grows] at held
      by_cases inEarlier : position < (log (earlier.foldl step start)).length
      · rw [List.getElem?_append_left inEarlier] at held
        obtain ⟨before, first, after, split, length, adds⟩ := ih held
        exact ⟨before, first, after ++ [entry], by rw [split]; simp, length, adds⟩
      · rw [List.getElem?_append_right (Nat.le_of_not_lt inEarlier)] at held
        cases made : added (earlier.foldl step start) entry with
        | none => simp [made] at held
        | some other =>
            rw [made, Option.toList_some, List.getElem?_singleton] at held
            by_cases last : position - (log (earlier.foldl step start)).length = 0
            · rw [if_pos last] at held
              exact ⟨earlier, entry, [], rfl, by omega, by rw [made, ← held]⟩
            · rw [if_neg last] at held
              cases held

end Conformance.Base
