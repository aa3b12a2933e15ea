import Mathlib.Data.List.TakeDrop

set_option autoImplicit false

namespace Conformance.Base

variable {α : Type}

-- range(start, stop, step), which is empty where stop is not beyond start
def steps (start stop step : Nat) : List Nat :=
  (List.range ((stop - start + step - 1) / step)).map fun turn => start + turn * step

-- [items[i : i + width] for i in range(start, len(items), width)]
def slices (items : List α) (start width : Nat) : List (List α) :=
  (steps start items.length width).map fun index => (items.drop index).take width

theorem range_slices_flatten (items : List α) (start width count : Nat) :
    ((List.range count).map fun turn => (items.drop (start + turn * width)).take width).flatten =
      (items.drop start).take (count * width) := by
  induction count with
  | zero => simp
  | succ count ih =>
      rw [List.range_succ, List.map_append, List.flatten_append, ih, Nat.succ_mul, List.take_add, List.drop_drop]
      simp

-- Slices cut one after the other join to what they were cut from.
theorem slices_flatten (items : List α) (start width : Nat) (positive : 0 < width) :
    (slices items start width).flatten = items.drop start := by
  have covers : (items.drop start).length ≤ (items.length - start + width - 1) / width * width := by
    rw [List.length_drop]
    have rounded := Nat.div_add_mod (items.length - start + width - 1) width
    have small := Nat.mod_lt (items.length - start + width - 1) positive
    rw [Nat.mul_comm] at rounded
    omega
  rw [slices, steps, List.map_map]
  exact (range_slices_flatten items start width _).trans (List.take_of_length_le covers)

theorem slices_length (items : List α) (start width : Nat) (slice : List α) (cut : slice ∈ slices items start width) :
    slice.length ≤ width := by
  obtain ⟨index, _, rfl⟩ := List.mem_map.mp cut
  rw [List.length_take]
  exact Nat.min_le_left _ _

theorem slices_nonempty (items : List α) (start width : Nat) (long : start < items.length) (positive : 0 < width) :
    slices items start width ≠ [] := by
  intro none
  have rest := slices_flatten items start width positive
  rw [none, List.flatten_nil] at rest
  have lengths := congrArg List.length rest
  rw [List.length_nil, List.length_drop] at lengths
  omega

end Conformance.Base
