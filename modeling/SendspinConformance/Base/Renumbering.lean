import Mathlib.Data.Nat.Nth
import Mathlib.Algebra.Order.BigOperators.Group.List

set_option autoImplicit false

namespace Conformance.Base

-- Values that name places of a sequence, and what renumbering the places makes of them.
class Renumbered (α : Type) where
  places : α → List Nat
  renumber : (Nat → Nat) → α → α
  places_renumber : ∀ f value, places (renumber f value) = (places value).map f
  renumber_agree : ∀ f g value, (∀ place ∈ places value, f place = g place) → renumber f value = renumber g value
  renumber_twice : ∀ f g value, renumber f (renumber g value) = renumber (f ∘ g) value
  renumber_same : ∀ value, renumber id value = value

export Renumbered (places renumber)

variable {α β : Type} [Renumbered α] [Renumbered β]

@[simp] theorem places_renumber (f : Nat → Nat) (value : α) : places (renumber f value) = (places value).map f :=
  Renumbered.places_renumber f value

theorem renumber_agree (f g : Nat → Nat) (value : α) (agree : ∀ place ∈ places value, f place = g place) :
    renumber f value = renumber g value :=
  Renumbered.renumber_agree f g value agree

theorem renumber_twice (f g : Nat → Nat) (value : α) : renumber f (renumber g value) = renumber (f ∘ g) value :=
  Renumbered.renumber_twice f g value

theorem renumber_same (value : α) : renumber id value = value := Renumbered.renumber_same value

theorem renumber_fixed (f : Nat → Nat) (value : α) :
    renumber f value = value ↔ ∀ place ∈ places value, f place = place := by
  apply Iff.intro
  · intro same place member
    have placed : (places value).map f = (places value).map id := by rw [← places_renumber, same, List.map_id]
    exact List.map_inj_left.mp placed place member
  · intro fixed
    rw [renumber_agree f id value fixed, renumber_same]

instance : Renumbered Nat where
  places place := [place]
  renumber f place := f place
  places_renumber _ _ := rfl
  renumber_agree _ _ _ agree := agree _ (List.mem_singleton.mpr rfl)
  renumber_twice _ _ _ := rfl
  renumber_same _ := rfl

instance : Renumbered (Option α) where
  places := fun value => value.elim [] places
  renumber f := Option.map (renumber f)
  places_renumber f value := by cases value <;> simp
  renumber_agree f g value agree := by
    cases value with
    | none => rfl
    | some inner => exact congrArg some (renumber_agree f g inner agree)
  renumber_twice f g value := by cases value <;> simp [renumber_twice]
  renumber_same value := by cases value <;> simp [renumber_same]

instance : Renumbered (List α) where
  places items := items.flatMap places
  renumber f := List.map (renumber f)
  places_renumber f items := by simp [List.flatMap_map, List.map_flatMap]
  renumber_agree f g items agree := by
    apply List.map_congr_left
    intro item member
    exact renumber_agree f g item fun place inner => agree place (List.mem_flatMap.mpr ⟨item, member, inner⟩)
  renumber_twice f g items := by simp [renumber_twice]
  renumber_same items := List.map_id'' renumber_same items

instance : Renumbered (α × β) where
  places pair := places pair.1 ++ places pair.2
  renumber f pair := (renumber f pair.1, renumber f pair.2)
  places_renumber f pair := by simp
  renumber_agree f g pair agree := by
    rw [renumber_agree f g pair.1 fun place member => agree place (List.mem_append_left _ member),
      renumber_agree f g pair.2 fun place member => agree place (List.mem_append_right _ member)]
  renumber_twice f g pair := by simp [renumber_twice]
  renumber_same pair := by simp [renumber_same]

-- An error names no place.
instance {ε : Type} : Renumbered (Except ε α) where
  places answer :=
    match answer with
    | .ok value => places value
    | .error _ => []
  renumber f := Except.map (renumber f)
  places_renumber f answer := by cases answer <;> simp [Except.map]
  renumber_agree f g answer agree := by
    cases answer with
    | error raised => rfl
    | ok value => exact congrArg Except.ok (renumber_agree f g value agree)
  renumber_twice f g answer := by cases answer <;> simp [Except.map, renumber_twice]
  renumber_same answer := by cases answer <;> simp [Except.map, renumber_same]

theorem renumber_list (f : Nat → Nat) (items : List α) : renumber f items = items.map (renumber f) := rfl

-- A function that commutes with every increasing renumbering keeping 0 in its place.
def Anchored (judge : α → β) : Prop :=
  ∀ f, StrictMono f → f 0 = 0 → ∀ value, judge (renumber f value) = renumber f (judge value)

-- A function that commutes with every increasing renumbering.
def Unanchored (judge : α → β) : Prop := ∀ f, StrictMono f → ∀ value, judge (renumber f value) = renumber f (judge value)

section

variable (f : Nat → Nat) (named : List Nat)

-- The places named and every place past them, so that there is always a next one.
def Taken (place : Nat) : Prop := place ∈ 0 :: named ∨ named.sum < place

-- A renumbering of the places named, carried on increasing past them.
def carriedOn (place : Nat) : Nat := if place ∈ 0 :: named then f place else ((0 :: named).map f).sum + 1 + place

theorem named_bounded (place : Nat) (member : place ∈ 0 :: named) : place ≤ named.sum := by
  have bounded := List.le_sum_of_mem member
  rwa [List.sum_cons, Nat.zero_add] at bounded

theorem taken_infinite : (Set.ofPred (Taken named)).Infinite := by
  apply Set.infinite_of_not_bddAbove
  intro bounded
  obtain ⟨top, isTop⟩ := bounded
  have past : Taken named (named.sum + top + 1) := Or.inr (by omega)
  have capped := isTop past
  omega

theorem carried_on_increasing (increasing : StrictMonoOn f {place | place ∈ 0 :: named}) (first second : Nat)
    (taken : Taken named first) (before : first < second) : carriedOn f named first < carriedOn f named second := by
  by_cases secondNamed : second ∈ 0 :: named
  · have bounded := named_bounded named second secondNamed
    have firstNamed : first ∈ 0 :: named := by
      cases taken with
      | inl isNamed => exact isNamed
      | inr past => omega
    rw [carriedOn, carriedOn, if_pos firstNamed, if_pos secondNamed]
    exact increasing firstNamed secondNamed before
  · rw [carriedOn, carriedOn, if_neg secondNamed]
    by_cases firstNamed : first ∈ 0 :: named
    · rw [if_pos firstNamed]
      have bounded := List.le_sum_of_mem (List.mem_map_of_mem (f := f) firstNamed)
      omega
    · rw [if_neg firstNamed]
      omega

-- Counting the places taken closes the gaps between them: places and their images are
-- both reached, increasing, from the counts.
theorem increasing_factors (zero : f 0 = 0) (increasing : StrictMonoOn f {place | place ∈ 0 :: named}) :
    ∃ rank left right : Nat → Nat, ∃ size, StrictMono left ∧ StrictMono right ∧ left 0 = 0 ∧ right 0 = 0 ∧ 0 < size ∧
      (∀ place ∈ named, left (rank place) = place ∧ right (rank place) = f place ∧ rank place < size) ∧
      ∀ count < size, right count = f (left count) := by
  classical
  have infinite := taken_infinite named
  have takenNamed : ∀ place ∈ 0 :: named, Taken named place := fun place member => Or.inl member
  have reached : ∀ place ∈ 0 :: named, Nat.nth (Taken named) (Nat.count (Taken named) place) = place :=
    fun place member => Nat.nth_count (takenNamed place member)
  have kept : ∀ place ∈ 0 :: named, carriedOn f named place = f place := fun place member => if_pos member
  have small : ∀ place ∈ 0 :: named, Nat.count (Taken named) place < Nat.count (Taken named) (named.sum + 1) :=
    fun place member => Nat.count_strict_mono (takenNamed place member)
      (Nat.lt_succ_of_le (named_bounded named place member))
  have start : Nat.nth (Taken named) 0 = 0 := by simpa using reached 0 List.mem_cons_self
  refine ⟨Nat.count (Taken named), Nat.nth (Taken named), carriedOn f named ∘ Nat.nth (Taken named),
    Nat.count (Taken named) (named.sum + 1), Nat.nth_strictMono infinite, ?_, start, ?_, ?_, ?_, ?_⟩
  · intro first second before
    exact carried_on_increasing f named increasing _ _ (Nat.nth_mem_of_infinite infinite first)
      (Nat.nth_strictMono infinite before)
  · rw [Function.comp_apply, start, kept 0 List.mem_cons_self, zero]
  · exact Nat.lt_of_le_of_lt (Nat.zero_le _) (small 0 List.mem_cons_self)
  · intro place member
    have listed := List.mem_cons_of_mem 0 member
    exact ⟨reached place listed, by rw [Function.comp_apply, reached place listed, kept place listed],
      small place listed⟩
  · intro count inside
    have bounded := Nat.nth_lt_of_lt_count inside
    cases Nat.nth_mem_of_infinite infinite count with
    | inl isNamed => exact kept _ isNamed
    | inr past => omega

end

-- Commuting with the increasing maps is commuting with those increasing on the places of
-- the value: what is answered names no other places.
theorem anchored_on_places (judge : α → β) (anchored : Anchored judge) (f : Nat → Nat) (value : α) (zero : f 0 = 0)
    (increasing : StrictMonoOn f {place | place ∈ 0 :: places value}) :
    judge (renumber f value) = renumber f (judge value) := by
  obtain ⟨rank, left, right, size, leftMono, rightMono, leftZero, rightZero, nonempty, factors, agrees⟩ :=
    increasing_factors f (places value) zero increasing
  have fromLeft : renumber left (renumber rank value) = value := by
    rw [renumber_twice, renumber_agree (left ∘ rank) id value fun place member => (factors place member).1,
      renumber_same]
  have fromRight : renumber right (renumber rank value) = renumber f value := by
    rw [renumber_twice]
    exact renumber_agree _ _ value fun place member => (factors place member).2.1
  -- A renumbering that moves only what is past the counts moves nothing that is answered.
  let past : Nat → Nat := fun place => if place < size then place else place + 1
  have pastMono : StrictMono past := by
    intro first second before
    simp only [past]
    split <;> split <;> omega
  have still : renumber past (renumber rank value) = renumber rank value := by
    rw [renumber_fixed, places_renumber]
    intro place member
    obtain ⟨origin, listed, same⟩ := List.mem_map.mp member
    rw [← same]
    exact if_pos (factors origin listed).2.2
  have answered : ∀ place ∈ places (judge (renumber rank value)), place < size := by
    have fixed : renumber past (judge (renumber rank value)) = judge (renumber rank value) := by
      rw [← anchored past pastMono (if_pos nonempty), still]
    intro place member
    by_contra outside
    have moved := (renumber_fixed past _).mp fixed place member
    rw [show past place = place + 1 from if_neg outside] at moved
    omega
  calc
    judge (renumber f value) = renumber right (judge (renumber rank value)) := by
      rw [← fromRight, anchored right rightMono rightZero]
    _ = renumber (f ∘ left) (judge (renumber rank value)) :=
      renumber_agree _ _ _ fun place member => agrees place (answered place member)
    _ = renumber f (judge value) := by
      rw [← renumber_twice, ← anchored left leftMono leftZero, fromLeft]

-- The same without an anchor: the places are first moved up by one, out of the way of 0.
theorem unanchored_on_places (judge : α → β) (unanchored : Unanchored judge) (f : Nat → Nat) (value : α)
    (increasing : StrictMonoOn f {place | place ∈ places value}) :
    judge (renumber f value) = renumber f (judge value) := by
  let raised : Nat → Nat := fun place => if place = 0 then 0 else f (place - 1) + 1
  have lifted : StrictMonoOn raised {place | place ∈ 0 :: places (renumber Nat.succ value)} := by
    intro first firstListed second secondListed before
    simp only [places_renumber, Set.mem_ofPred_eq, List.mem_cons, List.mem_map] at firstListed secondListed
    obtain isZero | ⟨origin, listed, same⟩ := secondListed
    · omega
    · obtain isZero | ⟨earlier, early, fromEarlier⟩ := firstListed
      · simp [raised, isZero, ← same]
      · rw [← same, ← fromEarlier] at before ⊢
        simpa [raised] using increasing early listed (by simpa using before)
  have shifted := anchored_on_places judge (fun g mono _ => unanchored g mono) raised (renumber Nat.succ value) rfl lifted
  have commutes : raised ∘ Nat.succ = Nat.succ ∘ f := by
    funext place
    simp [raised]
  have next : StrictMono Nat.succ := fun _ _ before => Nat.succ_lt_succ before
  rw [renumber_twice, commutes, ← renumber_twice, unanchored _ next, unanchored _ next, renumber_twice raised,
    commutes, ← renumber_twice] at shifted
  have lowered := congrArg (renumber Nat.pred) shifted
  have cancels : Nat.pred ∘ Nat.succ = id := rfl
  rwa [renumber_twice, renumber_twice, cancels, renumber_same, renumber_same] at lowered

end Conformance.Base
