import Mathlib.Data.List.Forall2
import Mathlib.Data.List.Induction
import SendspinConformance.Base.Runs

set_option autoImplicit false

namespace Conformance.Base

variable {σ α : Type}

-- A run of acts, each of which a state may refuse.
def turns (step : σ → α → Option σ) (start : σ) (acts : List α) : Option σ := acts.foldlM step start

theorem turns_append (step : σ → α → Option σ) (start : σ) (acts more : List α) :
    turns step start (acts ++ more) = (turns step start acts).bind fun state => turns step state more :=
  List.foldlM_append

theorem turns_cons (step : σ → α → Option σ) (start : σ) (act : α) (acts : List α) :
    turns step start (act :: acts) = (step start act).bind fun state => turns step state acts := rfl

theorem turns_snoc (step : σ → α → Option σ) (start : σ) (acts : List α) (act : α) :
    turns step start (acts ++ [act]) = (turns step start acts).bind fun state => step state act := by
  rw [turns_append]
  refine congrArg _ (funext fun state => ?_)
  rw [turns_cons]
  cases step state act <;> rfl

-- What holds at the start and what every act keeps holds after every run, of the acts taken and the state they left.
theorem turns_invariant (step : σ → α → Option σ) (start : σ) (Inv : List α → σ → Prop) (initial : Inv [] start)
    (kept : ∀ acts before act after, turns step start acts = some before → Inv acts before →
      step before act = some after → Inv (acts ++ [act]) after)
    (acts : List α) (state : σ) (ran : turns step start acts = some state) : Inv acts state := by
  induction acts using List.reverseRecOn generalizing state with
  | nil =>
      cases ran
      exact initial
  | append_singleton acts act ih =>
      rw [turns_snoc, Option.bind_eq_some_iff] at ran
      obtain ⟨before, earlier, stepped⟩ := ran
      exact kept acts before act state earlier (ih before earlier) stepped

-- The tasks before and after one that takes a turn stay as they are.
theorem set_split {τ : Type} (tasks : List τ) (index : Nat) (task : τ) (here : tasks[index]? = some task) :
    ∃ before after, tasks = before ++ task :: after ∧ ∀ next, tasks.set index next = before ++ next :: after := by
  obtain ⟨inside, same⟩ := List.getElem?_eq_some_iff.mp here
  refine ⟨tasks.take index, tasks.drop (index + 1), ?_, fun next => List.set_eq_take_append_cons_drop .. |>.trans (if_pos inside)⟩
  rw [← same, List.getElem_cons_drop inside, List.take_append_drop]

-- What every item gives, each beside its own.
theorem map_all_matched {τ ω : Type} (read : τ → Option ω) (items : List τ) (answers : List ω) :
    items.mapM read = some answers ↔ List.Forall₂ (fun item answer => read item = some answer) items answers := by
  induction items generalizing answers with
  | nil => simp [eq_comm]
  | cons item rest ih =>
      rw [map_all_cons, List.forall₂_cons_left_iff]
      constructor
      · rintro ⟨first, others, isFirst, isRest, rfl⟩
        exact ⟨first, others, isFirst, (ih others).mp isRest, rfl⟩
      · rintro ⟨first, others, isFirst, isRest, rfl⟩
        exact ⟨first, others, isFirst, (ih others).mpr isRest, rfl⟩

theorem map_all_each {τ ω : Type} (read : τ → Option ω) (items : List τ) (answers : List ω)
    (all : items.mapM read = some answers) (item : τ) (member : item ∈ items) :
    ∃ answer ∈ answers, read item = some answer := by
  induction items generalizing answers with
  | nil => cases member
  | cons head rest ih =>
      obtain ⟨first, others, isFirst, isRest, rfl⟩ := (map_all_cons read head rest answers).mp all
      rcases List.mem_cons.mp member with rfl | inRest
      · exact ⟨first, List.mem_cons_self, isFirst⟩
      · obtain ⟨answer, known, found⟩ := ih others isRest inRest
        exact ⟨answer, List.mem_cons_of_mem first known, found⟩

theorem map_all_given {τ ω : Type} (read : τ → Option ω) (items : List τ)
    (each : ∀ item ∈ items, read item ≠ none) : ∃ answers, items.mapM read = some answers := by
  induction items with
  | nil => exact ⟨[], rfl⟩
  | cons item rest ih =>
      obtain ⟨others, isRest⟩ := ih fun other member => each other (List.mem_cons_of_mem item member)
      obtain ⟨first, isFirst⟩ := Option.ne_none_iff_exists'.mp (each item List.mem_cons_self)
      exact ⟨first :: others, (map_all_cons read item rest _).mpr ⟨first, others, isFirst, isRest, rfl⟩⟩

end Conformance.Base
