import Mathlib.Data.List.Basic

set_option autoImplicit false

namespace Conformance.Base

variable {α : Type}

-- Insertion before a place of a list, at its end when the place is past it.
def insertAt (place : Nat) (item : α) (items : List α) : List α := items.take place ++ item :: items.drop place

theorem insert_at_split (place : Nat) (item : α) (items : List α) :
    ∃ front back, items = front ++ back ∧ insertAt place item items = front ++ item :: back ∧
      front = items.take place :=
  ⟨items.take place, items.drop place, (List.take_append_drop place items).symm, rfl, rfl⟩

theorem length_insert_at (place : Nat) (item : α) (items : List α) :
    (insertAt place item items).length = items.length + 1 := by
  obtain ⟨front, back, same, inserted, _⟩ := insert_at_split place item items
  rw [inserted, same]
  simp
  omega

theorem insert_at_append (place : Nat) (item : α) (front back : List α) (within : place ≤ front.length) :
    insertAt place item (front ++ back) = insertAt place item front ++ back := by
  rw [insertAt, insertAt, List.take_append_of_le_length within, List.drop_append_of_le_length within,
    List.append_assoc, List.cons_append]

theorem insert_at_middle (item : α) (front back : List α) :
    insertAt front.length item (front ++ back) = front ++ item :: back := by
  rw [insertAt, List.take_left, List.drop_left]

theorem insert_at_length (item : α) (items : List α) : insertAt items.length item items = items ++ [item] := by
  rw [insertAt, List.take_length, List.drop_length]

end Conformance.Base
