import Mathlib.Data.List.Dedup
import Mathlib.Data.List.Nodup

set_option autoImplicit false

namespace Conformance.Base

variable {α κ β : Type} [DecidableEq κ]

-- The keys in the order they first occur.
def distinct (keys : List κ) : List κ := keys.reverse.dedup.reverse

theorem mem_distinct (keys : List κ) (key : κ) : key ∈ distinct keys ↔ key ∈ keys := by
  rw [distinct, List.mem_reverse, List.mem_dedup, List.mem_reverse]

theorem nodup_distinct (keys : List κ) : (distinct keys).Nodup :=
  List.nodup_reverse.mpr (List.nodup_dedup _)

theorem distinct_head (first : κ) (rest : List κ) : (distinct (first :: rest)).head? = some first := by
  have last : [first] <:+ (rest.reverse ++ [first]).dedup := by
    rw [List.dedup_append]
    exact List.suffix_union_right _ _
  obtain ⟨before, split⟩ := last
  rw [distinct, List.reverse_cons, List.head?_reverse, ← split, List.getLast?_concat]

-- What a dict of lists holds after dict.setdefault(key, []).append(value) over the items.
def grouped (items : List (κ × β)) : List (κ × List β) :=
  (distinct (items.map Prod.fst)).map fun key => (key, (items.filter fun item => item.1 = key).map Prod.snd)

def valuesOf (items : List (κ × β)) (key : κ) : List β := (items.filter fun item => item.1 = key).map Prod.snd

theorem mem_values_of (items : List (κ × β)) (key : κ) (value : β) :
    value ∈ valuesOf items key ↔ (key, value) ∈ items := by
  rw [valuesOf, List.mem_map]
  apply Iff.intro
  · intro ⟨item, member, same⟩
    obtain ⟨inItems, isKey⟩ := List.mem_filter.mp member
    have pair : item = (key, value) := Prod.ext (by simpa using isKey) same
    exact pair ▸ inItems
  · intro member
    exact ⟨(key, value), List.mem_filter.mpr ⟨member, by simp⟩, rfl⟩

theorem grouped_keys (items : List (κ × β)) : (grouped items).map Prod.fst = distinct (items.map Prod.fst) := by
  rw [grouped, List.map_map]
  exact List.map_id _

theorem mem_grouped (items : List (κ × β)) (key : κ) (values : List β) :
    (key, values) ∈ grouped items ↔ key ∈ items.map Prod.fst ∧ values = valuesOf items key := by
  rw [grouped, List.mem_map]
  apply Iff.intro
  · intro ⟨other, member, same⟩
    obtain ⟨rfl, rfl⟩ := Prod.mk.inj same
    exact ⟨(mem_distinct _ _).mp member, rfl⟩
  · intro ⟨member, same⟩
    exact ⟨key, (mem_distinct _ _).mpr member, by rw [same, valuesOf]⟩

theorem values_of_append (first second : List (κ × β)) (key : κ) :
    valuesOf (first ++ second) key = valuesOf first key ++ valuesOf second key := by
  rw [valuesOf, List.filter_append, List.map_append, valuesOf, valuesOf]

theorem values_of_some (items : List (κ × β)) (key : κ) : key ∈ items.map Prod.fst ↔ valuesOf items key ≠ [] := by
  apply Iff.intro
  · intro member none
    obtain ⟨item, inItems, rfl⟩ := List.mem_map.mp member
    have value : item.2 ∈ valuesOf items item.1 := (mem_values_of items item.1 item.2).mpr inItems
    rw [none] at value
    cases value
  · intro some
    obtain ⟨value, member⟩ := List.exists_mem_of_ne_nil _ some
    exact List.mem_map.mpr ⟨(key, value), (mem_values_of items key value).mp member, rfl⟩

theorem values_of_once (items : List (κ × β)) (key : κ) (unique : (items.map Prod.fst).Nodup) :
    (valuesOf items key).length ≤ 1 := by
  have counted : (valuesOf items key).length = (items.map Prod.fst).count key := by
    rw [valuesOf, List.length_map, ← List.countP_eq_length_filter, List.count, List.countP_map]
    rfl
  rw [counted]
  exact List.nodup_iff_count_le_one.mp unique key

-- A key no two items share is found once.
theorem filter_once (items : List α) (keyOf : α → κ) (unique : (items.map keyOf).Nodup) (item : α)
    (member : item ∈ items) : items.filter (fun other => keyOf other = keyOf item) = [item] := by
  induction items with
  | nil => cases member
  | cons first rest ih =>
      rw [List.map_cons, List.nodup_cons] at unique
      cases List.mem_cons.mp member with
      | inl same =>
          have others : rest.filter (fun other => keyOf other = keyOf item) = [] := by
            rw [List.filter_eq_nil_iff]
            intro other later shared
            have key : keyOf other = keyOf item := by simpa using shared
            exact unique.1 (same ▸ key ▸ List.mem_map_of_mem later)
          rw [List.filter_cons_of_pos (by simp [same]), others, same]
      | inr later =>
          have different : keyOf first ≠ keyOf item := by
            intro shared
            exact unique.1 (shared ▸ List.mem_map_of_mem later)
          rw [List.filter_cons_of_neg (by simpa using different)]
          exact ih unique.2 later

theorem found_once (items : List α) (keyOf : α → κ) (key : κ) (unique : (items.map keyOf).Nodup)
    (member : key ∈ items.map keyOf) : ∃ item, items.filter (fun other => keyOf other = key) = [item] := by
  obtain ⟨item, inItems, rfl⟩ := List.mem_map.mp member
  exact ⟨item, filter_once items keyOf unique item inItems⟩

end Conformance.Base
