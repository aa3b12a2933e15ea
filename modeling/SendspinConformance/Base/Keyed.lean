import Mathlib.Data.List.Nodup
import Mathlib.Data.List.Perm.Basic

set_option autoImplicit false

namespace Conformance.Base

variable {α κ : Type} [DecidableEq κ] (key : α → κ)

-- The values of a dict in the order their keys were first set: items[key(item)] = item
def put (item : α) (items : List α) : List α :=
  if key item ∈ items.map key then items.map fun other => if key other = key item then item else other
  else items ++ [item]

-- items.pop(dropped, None)
def dropKey (dropped : κ) (items : List α) : List α := items.filter fun item => key item ≠ dropped

def dropKeys (dropped : List κ) (items : List α) : List α := items.filter fun item => key item ∉ dropped

theorem keys_put (item : α) (items : List α) :
    (put key item items).map key = if key item ∈ items.map key then items.map key else items.map key ++ [key item] := by
  rw [put]
  split
  · rw [List.map_map]
    apply List.map_congr_left
    intro other _
    simp only [Function.comp_apply]
    split
    · rename_i same
      exact same.symm
    · rfl
  · rw [List.map_append, List.map_singleton]

theorem nodup_put (item : α) (items : List α) (distinct : (items.map key).Nodup) :
    ((put key item items).map key).Nodup := by
  rw [keys_put]
  split
  · exact distinct
  · rename_i absent
    exact List.nodup_append.mpr ⟨distinct, List.nodup_singleton _, fun other member last same => by
      rw [List.mem_singleton] at same
      exact fun equal => absent (same ▸ equal ▸ member)⟩

theorem mem_put (item other : α) (items : List α) :
    other ∈ put key item items ↔ other = item ∨ other ∈ items ∧ key other ≠ key item := by
  rw [put]
  split
  · rename_i present
    rw [List.mem_map]
    constructor
    · rintro ⟨entry, member, rfl⟩
      by_cases same : key entry = key item
      · exact .inl (if_pos same)
      · rw [if_neg same]
        exact .inr ⟨member, same⟩
    · rintro (rfl | ⟨member, different⟩)
      · obtain ⟨entry, member, same⟩ := List.mem_map.mp present
        exact ⟨entry, member, if_pos same⟩
      · exact ⟨other, member, if_neg different⟩
  · rename_i absent
    rw [List.mem_append, List.mem_singleton]
    constructor
    · rintro (member | rfl)
      · exact .inr ⟨member, fun same => absent (same ▸ List.mem_map_of_mem member)⟩
      · exact .inl rfl
    · rintro (rfl | ⟨member, _⟩)
      · exact .inr rfl
      · exact .inl member

theorem mem_drop_keys (dropped : List κ) (item : α) (items : List α) :
    item ∈ dropKeys key dropped items ↔ item ∈ items ∧ key item ∉ dropped := by
  rw [dropKeys, List.mem_filter]
  simp

theorem nodup_drop_key (dropped : κ) (items : List α) (distinct : (items.map key).Nodup) :
    ((dropKey key dropped items).map key).Nodup := distinct.sublist (List.filter_sublist.map key)

-- Keys dropped one after the other.
theorem foldl_drop_key (dropped : List κ) (items : List α) :
    dropped.foldl (fun items next => dropKey key next items) items = dropKeys key dropped items := by
  induction dropped generalizing items with
  | nil => simp [dropKeys]
  | cons first rest ih =>
      rw [List.foldl_cons, ih, dropKeys, dropKeys, dropKey, List.filter_filter]
      apply List.filter_congr
      intro item _
      simp [Bool.and_comm]

-- What is dropped of a dict counts against what is left.
theorem drop_keys_length (dropped : List κ) (items : List α) (distinct : (items.map key).Nodup) (once : dropped.Nodup)
    (known : ∀ next ∈ dropped, next ∈ items.map key) :
    (dropKeys key dropped items).length + dropped.length = items.length := by
  have found : ((items.filter fun item => key item ∈ dropped).map key).Perm dropped := by
    apply (List.perm_ext_iff_of_nodup (distinct.sublist (List.filter_sublist.map key)) once).mpr
    intro next
    rw [List.mem_map]
    constructor
    · rintro ⟨item, member, rfl⟩
      exact of_decide_eq_true (List.mem_filter.mp member).2
    · intro member
      obtain ⟨item, stored, rfl⟩ := List.mem_map.mp (known next member)
      exact ⟨item, List.mem_filter.mpr ⟨stored, decide_eq_true member⟩, rfl⟩
  have counted := found.length_eq
  rw [List.length_map] at counted
  have parts := @List.length_eq_length_filter_add _ items fun item => decide (key item ∈ dropped)
  rw [parts, counted, dropKeys, Nat.add_comm]
  simp only [decide_not]

end Conformance.Base
