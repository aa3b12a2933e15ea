import Mathlib.Data.List.Nodup
import Mathlib.Data.List.ProdSigma
import Mathlib.Data.List.Range

set_option autoImplicit false

namespace Conformance.Base

variable {α β : Type}

-- A loop that appends one made item a turn and counts the turns numbers the items.
def numberNext (make : Nat → α → β) (state : List β × Nat) (item : α) : List β × Nat :=
  (state.1 ++ [make state.2 item], state.2 + 1)

theorem fold_numbered (make : Nat → α → β) (items : List α) (front : List β) (start : Nat) :
    items.foldl (numberNext make) (front, start) =
      (front ++ (items.zipIdx start).map (fun entry => make entry.2 entry.1), start + items.length) := by
  induction items generalizing front start with
  | nil => simp
  | cons item rest ih =>
      rw [List.foldl_cons, numberNext, ih, List.zipIdx_cons, List.map_cons, List.append_assoc, List.length_cons]
      refine Prod.ext rfl ?_
      change start + 1 + rest.length = start + (rest.length + 1)
      omega

theorem numbered_view {γ : Type} (make : Nat → α → β) (view : β → γ) (other : α → γ)
    (agrees : ∀ number item, view (make number item) = other item) (items : List α) (start : Nat) :
    ((items.zipIdx start).map fun entry => make entry.2 entry.1).map view = items.map other := by
  rw [List.map_map]
  have same : (view ∘ fun entry : α × Nat => make entry.2 entry.1) = other ∘ Prod.fst := by
    funext entry
    exact agrees entry.2 entry.1
  rw [same, ← List.map_map, List.zipIdx_map_fst]

theorem numbered_numbers (make : Nat → α → β) (number : β → Nat)
    (agrees : ∀ given item, number (make given item) = given) (items : List α) (start : Nat) :
    ((items.zipIdx start).map fun entry => make entry.2 entry.1).map number = List.range' start items.length := by
  rw [List.map_map]
  have same : (number ∘ fun entry : α × Nat => make entry.2 entry.1) = Prod.snd := by
    funext entry
    exact agrees entry.2 entry.1
  rw [same, List.zipIdx_map_snd]

theorem disjoint_rows (first second : α) (row : List β) :
    List.Disjoint (row.map fun item => (first, item)) (row.map fun item => (second, item)) ↔
      row = [] ∨ first ≠ second := by
  cases row with
  | nil => simp
  | cons item rest =>
      apply Iff.intro
      · intro apart
        refine Or.inr fun same => ?_
        rw [same] at apart
        exact apart (List.mem_cons_self) (List.mem_cons_self)
      · intro different pair inFirst inSecond
        obtain ⟨_, _, fromFirst⟩ := List.mem_map.mp inFirst
        obtain ⟨_, _, fromSecond⟩ := List.mem_map.mp inSecond
        cases different with
        | inl empty => cases empty
        | inr apart => exact apart ((congrArg Prod.fst fromFirst).trans (congrArg Prod.fst fromSecond).symm)

-- The pairs of two lists repeat when one list repeats and the other holds something.
theorem nodup_product_iff (first : List α) (second : List β) :
    (first ×ˢ second).Nodup ↔ (second = [] ∨ first.Nodup) ∧ (first = [] ∨ second.Nodup) := by
  change (first.flatMap fun item => second.map (Prod.mk item)).Nodup ↔ _
  have rows : ∀ item : α, (second.map (Prod.mk item)).Nodup ↔ second.Nodup := fun item =>
    List.nodup_map_iff fun _ _ same => congrArg Prod.snd same
  have apart : first.Pairwise (Function.onFun List.Disjoint fun item => second.map (Prod.mk item)) ↔
      second = [] ∨ first.Nodup := by
    have each : (Function.onFun List.Disjoint fun item : α => second.map (Prod.mk item)) =
        fun left right => second = [] ∨ left ≠ right := by
      funext left right
      exact propext (disjoint_rows left right second)
    rw [each]
    cases second with
    | nil => simp [List.pairwise_iff_getElem]
    | cons item rest => simp [List.Nodup]
  rw [List.nodup_flatMap, apart]
  simp only [rows]
  cases first with
  | nil => simp
  | cons item rest =>
      apply Iff.intro
      · intro ⟨once, distinct⟩
        exact ⟨distinct, Or.inr (once item List.mem_cons_self)⟩
      · intro ⟨distinct, once⟩
        exact ⟨fun _ _ => once.resolve_left (by simp), distinct⟩

-- Two blocks of consecutive numbers, `gap` apart, share none until they are longer than it.
theorem blocks_apart (base gap count : Nat) :
    ((List.range count).map (base + ·) ++ (List.range count).map (base + gap + ·)).Nodup ↔ count ≤ gap := by
  rw [List.nodup_append]
  have once : ∀ start : Nat, ((List.range count).map (start + ·)).Nodup := fun start =>
    (List.nodup_map_iff fun _ _ same => Nat.add_left_cancel same).mpr List.nodup_range
  apply Iff.intro
  · intro ⟨_, _, apart⟩
    by_contra beyond
    have inFirst : base + gap ∈ (List.range count).map (base + ·) :=
      List.mem_map.mpr ⟨gap, List.mem_range.mpr (by omega), rfl⟩
    have inSecond : base + gap ∈ (List.range count).map (base + gap + ·) :=
      List.mem_map.mpr ⟨0, List.mem_range.mpr (by omega), rfl⟩
    exact apart _ inFirst _ inSecond rfl
  · intro within
    refine ⟨once base, once (base + gap), ?_⟩
    intro first inFirst second inSecond
    obtain ⟨low, lowIn, isFirst⟩ := List.mem_map.mp inFirst
    obtain ⟨high, highIn, isSecond⟩ := List.mem_map.mp inSecond
    rw [List.mem_range] at lowIn highIn
    omega

end Conformance.Base
