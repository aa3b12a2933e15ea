import Mathlib.Algebra.Order.Floor.Ring
import Mathlib.Data.Int.Log
import Mathlib.Data.Rat.Floor
import Mathlib.Tactic.FieldSimp
import Mathlib.Tactic.Linarith
import Mathlib.Tactic.Positivity

set_option autoImplicit false

namespace Conformance.Base

-- A binary floating-point format: its significand's bits, and the exponent below which
-- a number is subnormal. Numbers too large for a format are not treated.
structure FloatFormat where
  precision : Nat
  minExponent : Int

def FloatFormat.binary32 : FloatFormat := ⟨24, -126⟩

def FloatFormat.binary64 : FloatFormat := ⟨53, -1022⟩

-- The nearest integer, a tie going to the even one.
def nearestEven (number : Rat) : Int :=
  let low := ⌊number⌋
  let rest := number - low
  if rest < 1 / 2 then low
  else if 1 / 2 < rest then low + 1
  else if low % 2 = 0 then low
  else low + 1

variable (format : FloatFormat)

def exponentOf (number : Rat) : Int :=
  if number = 0 then format.minExponent else max (Int.log 2 |number|) format.minExponent

-- The exponent of a number's last place.
def lastPlace (number : Rat) : Int := exponentOf format number - (format.precision - 1)

-- The format's number nearest to a number.
def roundTo (number : Rat) : Rat :=
  nearestEven (number / 2 ^ lastPlace format number) * 2 ^ lastPlace format number

-- A number of the format.
def Representable (number : Rat) : Prop :=
  ∃ (significand exponent : Int), number = significand * 2 ^ exponent ∧
    |significand| < 2 ^ format.precision ∧ format.minExponent - (format.precision - 1) ≤ exponent

theorem nearest_even_int (number : Int) : nearestEven number = number := by
  have rest : (number : Rat) - number < 1 / 2 := by rw [sub_self]; norm_num
  simp only [nearestEven, Int.floor_intCast, rest, if_true]

theorem nearest_even_near (number : Rat) : nearestEven number = ⌊number⌋ ∨ nearestEven number = ⌊number⌋ + 1 := by
  rw [nearestEven]
  split_ifs <;> simp

-- Rounding passes no integer.
theorem nearest_even_bounded (number : Rat) (bound : Int) (below : -(bound : Rat) ≤ number) (above : number ≤ bound) :
    |nearestEven number| ≤ bound := by
  have low : -bound ≤ ⌊number⌋ := Int.le_floor.mpr (by exact_mod_cast below)
  have high : ⌊number⌋ ≤ bound := by exact_mod_cast (Int.floor_le number).trans above
  rw [abs_le]
  obtain same | same := nearest_even_near number
  · rw [same]
    exact ⟨low, high⟩
  · by_cases atBound : ⌊number⌋ = bound
    · -- the number is the bound itself, which is kept
      have isBound : number = bound := le_antisymm above (by rw [← atBound]; exact Int.floor_le number)
      rw [isBound, nearest_even_int]
      refine ⟨?_, le_refl bound⟩
      rw [atBound] at low
      exact low
    · rw [same]
      omega

variable {format}

theorem two_zpow_pos (exponent : Int) : (0 : Rat) < 2 ^ exponent := zpow_pos (by norm_num) exponent

theorem zpow_split (first second : Int) : (2 : Rat) ^ (first + second) = 2 ^ first * 2 ^ second :=
  zpow_add₀ (by norm_num) first second

theorem log_below (number : Rat) (exponent : Int) (some : number ≠ 0) (small : |number| < 2 ^ exponent) :
    Int.log 2 |number| < exponent :=
  (Int.lt_zpow_iff_log_lt Nat.one_lt_two (abs_pos.mpr some)).mp (by exact_mod_cast small)

theorem below_log (number : Rat) : |number| < 2 ^ (Int.log 2 |number| + 1) := by
  exact_mod_cast Int.lt_zpow_succ_log_self Nat.one_lt_two |number|

theorem log_scaled (number : Rat) (exponent : Int) (some : number ≠ 0) :
    Int.log 2 |number * 2 ^ exponent| = Int.log 2 |number| + exponent := by
  have positive := abs_pos.mpr some
  have scaled : |number * 2 ^ exponent| = |number| * 2 ^ exponent := by
    rw [abs_mul, abs_of_pos (two_zpow_pos exponent)]
  have scaledPositive : 0 < |number| * 2 ^ exponent := mul_pos positive (two_zpow_pos exponent)
  rw [scaled]
  apply le_antisymm
  · have small : |number| * 2 ^ exponent < 2 ^ (Int.log 2 |number| + exponent + 1) := by
      rw [show Int.log 2 |number| + exponent + 1 = Int.log 2 |number| + 1 + exponent by ring, zpow_split]
      exact mul_lt_mul_of_pos_right (below_log number) (two_zpow_pos exponent)
    have bound := (Int.lt_zpow_iff_log_lt Nat.one_lt_two scaledPositive).mp (by exact_mod_cast small)
    omega
  · apply (Int.zpow_le_iff_le_log Nat.one_lt_two scaledPositive).mp
    rw [Nat.cast_ofNat, zpow_split]
    have large : (2 : Rat) ^ Int.log 2 |number| ≤ |number| := by
      exact_mod_cast Int.zpow_log_le_self Nat.one_lt_two positive
    exact mul_le_mul_of_nonneg_right large (two_zpow_pos exponent).le

-- The last place of a number of the format is no finer than its own exponent.
theorem last_place_le (number : Rat) (significand exponent : Int) (same : number = significand * 2 ^ exponent)
    (small : |significand| < 2 ^ format.precision) (within : format.minExponent - (format.precision - 1) ≤ exponent) :
    lastPlace format number ≤ exponent := by
  rw [lastPlace, exponentOf]
  by_cases zero : number = 0
  · rw [if_pos zero]
    exact within
  · have below : |number| < 2 ^ (format.precision + exponent : Int) := by
      rw [same, abs_mul, abs_of_pos (two_zpow_pos exponent), zpow_split, zpow_natCast]
      exact mul_lt_mul_of_pos_right (by exact_mod_cast small) (two_zpow_pos exponent)
    have bound := log_below number _ zero below
    rw [if_neg zero]
    omega

-- A number of the format is kept.
theorem round_to_exact (number : Rat) (isNumber : Representable format number) : roundTo format number = number := by
  obtain ⟨significand, exponent, same, small, within⟩ := isNumber
  have coarse := last_place_le number significand exponent same small within
  obtain ⟨steps, gap⟩ := Int.le.dest coarse
  have quotient : number / 2 ^ lastPlace format number = ((significand * 2 ^ steps : Int) : Rat) := by
    rw [div_eq_iff (two_zpow_pos _).ne']
    conv_lhs => rw [same, ← gap, add_comm, zpow_split, zpow_natCast]
    push_cast
    ring
  rw [roundTo, quotient, nearest_even_int, ← quotient, div_mul_cancel₀ _ (two_zpow_pos _).ne']

theorem quotient_bounded (number : Rat) : |number / 2 ^ lastPlace format number| < 2 ^ format.precision := by
  rw [abs_div, abs_of_pos (two_zpow_pos _), div_lt_iff₀ (two_zpow_pos _), ← zpow_natCast, ← zpow_split, lastPlace,
    exponentOf]
  by_cases zero : number = 0
  · rw [if_pos zero, zero, abs_zero]
    exact two_zpow_pos _
  · rw [if_neg zero]
    refine (below_log number).trans_le (zpow_le_zpow_right₀ (by norm_num) ?_)
    have larger := le_max_left (Int.log 2 |number|) format.minExponent
    omega

-- Rounding gives a number of the format, whose last place is that of what was rounded.
theorem round_to_form (number : Rat) (precise : 0 < format.precision) :
    ∃ (significand exponent : Int), roundTo format number = significand * 2 ^ exponent ∧
      |significand| < 2 ^ format.precision ∧ lastPlace format number ≤ exponent := by
  have bounds := abs_le.mp (@quotient_bounded format number).le
  have bounded := nearest_even_bounded (number / 2 ^ lastPlace format number) (2 ^ format.precision)
    (by push_cast; exact bounds.1) (by push_cast; exact bounds.2)
  by_cases full : |nearestEven (number / 2 ^ lastPlace format number)| = 2 ^ format.precision
  · -- the significand carried into one more bit: 2 ^ precision is 1 at a higher place
    have coarser : lastPlace format number ≤ format.precision + lastPlace format number := by omega
    have carried (sign : Int) (isSign : |sign| = 1)
        (same : nearestEven (number / 2 ^ lastPlace format number) = sign * 2 ^ format.precision) :
        ∃ (significand exponent : Int), roundTo format number = significand * 2 ^ exponent ∧
          |significand| < 2 ^ format.precision ∧ lastPlace format number ≤ exponent := by
      refine ⟨sign, format.precision + lastPlace format number, ?_, ?_, coarser⟩
      · rw [roundTo, same, zpow_split, zpow_natCast]
        push_cast
        ring
      · rw [isSign]
        exact one_lt_pow₀ (by norm_num) (by omega)
    obtain up | down := (abs_eq (by positivity)).mp full
    · exact carried 1 abs_one (by rw [up, one_mul])
    · exact carried (-1) (by norm_num) (by rw [down, neg_one_mul])
  · exact ⟨_, _, rfl, lt_of_le_of_ne bounded full, le_refl _⟩

-- Scaling by a power of two moves the last place with the number.
theorem last_place_scaled (number : Rat) (exponent : Int) (some : number ≠ 0)
    (normal : format.minExponent ≤ Int.log 2 |number|)
    (scaledNormal : format.minExponent ≤ Int.log 2 |number| + exponent) :
    lastPlace format (number * 2 ^ exponent) = lastPlace format number + exponent := by
  have scaledSome : number * 2 ^ exponent ≠ 0 := mul_ne_zero some (two_zpow_pos exponent).ne'
  rw [lastPlace, lastPlace, exponentOf, exponentOf, if_neg scaledSome, if_neg some, log_scaled number exponent some,
    max_eq_left normal, max_eq_left scaledNormal]
  ring

theorem round_to_scaled (number : Rat) (exponent : Int) (some : number ≠ 0)
    (normal : format.minExponent ≤ Int.log 2 |number|)
    (scaledNormal : format.minExponent ≤ Int.log 2 |number| + exponent) :
    roundTo format (number * 2 ^ exponent) = roundTo format number * 2 ^ exponent := by
  rw [roundTo, last_place_scaled number exponent some normal scaledNormal, roundTo, zpow_split,
    mul_div_mul_right _ _ (two_zpow_pos exponent).ne', mul_assoc]

-- A number of the format counts its last place a whole number of times.
theorem last_places (number : Rat) (isNumber : Representable format number) :
    ∃ places : Int, number = places * 2 ^ lastPlace format number := by
  have kept := round_to_exact number isNumber
  rw [roundTo] at kept
  exact ⟨_, kept.symm⟩

section halfway

-- An even number is reached from up to half a step above it.
theorem nearest_even_le_iff (number : Rat) (bound : Int) (even : bound % 2 = 0) :
    nearestEven number ≤ bound ↔ number ≤ bound + 1 / 2 := by
  have low := Int.floor_le number
  have high := Int.lt_floor_add_one number
  rw [nearestEven]
  generalize ⌊number⌋ = whole at low high
  have fits : ∀ value : Int, value ≤ bound ↔ (value : Rat) ≤ bound := fun value => Int.cast_le.symm
  have beyond : ¬whole ≤ bound → (bound : Rat) + 1 ≤ whole := by
    intro above
    exact_mod_cast (by omega : bound + 1 ≤ whole)
  split_ifs with less more isEven
  · by_cases whole ≤ bound
    · exact iff_of_true ‹_› (by linarith [(fits whole).mp ‹_›])
    · exact iff_of_false ‹_› (by linarith [beyond ‹_›])
  · by_cases above : whole + 1 ≤ bound
    · have room : (whole : Rat) + 1 ≤ bound := by exact_mod_cast above
      exact iff_of_true above (by linarith)
    · have reached : (bound : Rat) ≤ whole := by exact_mod_cast (by omega : bound ≤ whole)
      exact iff_of_false above (by linarith)
  all_goals
    have half : number = whole + 1 / 2 := by linarith [not_lt.mp more, not_lt.mp less]
    rw [half, add_le_add_iff_right, ← fits]
  · omega

theorem le_nearest_even_iff (number : Rat) (bound : Int) (even : bound % 2 = 0) :
    bound ≤ nearestEven number ↔ bound - 1 / 2 ≤ number := by
  have low := Int.floor_le number
  have high := Int.lt_floor_add_one number
  rw [nearestEven]
  generalize ⌊number⌋ = whole at low high
  have fits : ∀ value : Int, bound ≤ value ↔ (bound : Rat) ≤ value := fun value => Int.cast_le.symm
  split_ifs with less more isEven
  · by_cases above : bound ≤ whole
    · exact iff_of_true above (by linarith [(fits whole).mp above])
    · have below : (whole : Rat) + 1 ≤ bound := by exact_mod_cast (by omega : whole + 1 ≤ bound)
      exact iff_of_false above (by linarith)
  · by_cases above : bound ≤ whole + 1
    · have room : (bound : Rat) ≤ whole + 1 := by exact_mod_cast above
      exact iff_of_true above (by linarith)
    · have below : (whole : Rat) + 2 ≤ bound := by exact_mod_cast (by omega : whole + 2 ≤ bound)
      exact iff_of_false above (by linarith)
  all_goals
    have half : number = whole + 1 / 2 := by linarith [not_lt.mp more, not_lt.mp less]
    have moved : (bound : Rat) - 1 / 2 ≤ whole + 1 / 2 ↔ bound ≤ whole + 1 := by
      rw [sub_le_iff_le_add, add_assoc, add_halves]
      exact_mod_cast Iff.rfl
    rw [half, moved]
  · omega

-- Between two powers of two the last place is the lower one's.
theorem last_place_within (number : Rat) (exponent : Int) (normal : format.minExponent ≤ exponent)
    (low : 2 ^ exponent ≤ number) (high : number < 2 ^ (exponent + 1)) :
    lastPlace format number = exponent - (format.precision - 1) := by
  have positive : 0 < number := (two_zpow_pos exponent).trans_le low
  have log : Int.log 2 |number| = exponent := by
    rw [abs_of_pos positive]
    apply le_antisymm
    · have below := (Int.lt_zpow_iff_log_lt Nat.one_lt_two positive).mp (by exact_mod_cast high)
      omega
    · exact (Int.zpow_le_iff_le_log Nat.one_lt_two positive).mp (by exact_mod_cast low)
  rw [lastPlace, exponentOf, if_neg positive.ne', log, max_eq_left normal]

-- Rounding passes no power of two.
theorem round_to_below (number : Rat) (exponent : Int) (normal : format.minExponent < exponent)
    (high : |number| < 2 ^ exponent) : |roundTo format number| ≤ 2 ^ exponent := by
  have coarse : format.precision + lastPlace format number ≤ exponent := by
    rw [lastPlace, exponentOf]
    by_cases zero : number = 0
    · rw [if_pos zero]
      omega
    · have below := log_below number exponent zero high
      have larger : max (Int.log 2 |number|) format.minExponent < exponent := max_lt below normal
      rw [if_neg zero]
      omega
  have bounds := abs_le.mp (@quotient_bounded format number).le
  have bounded := nearest_even_bounded (number / 2 ^ lastPlace format number) (2 ^ format.precision)
    (by push_cast; exact bounds.1) (by push_cast; exact bounds.2)
  have steps : |(nearestEven (number / 2 ^ lastPlace format number) : Rat)| ≤ 2 ^ format.precision := by
    exact_mod_cast bounded
  calc
    |roundTo format number| =
        |(nearestEven (number / 2 ^ lastPlace format number) : Rat)| * 2 ^ lastPlace format number := by
      rw [roundTo, abs_mul, abs_of_pos (two_zpow_pos _)]
    _ ≤ 2 ^ format.precision * 2 ^ lastPlace format number :=
      mul_le_mul_of_nonneg_right steps (two_zpow_pos _).le
    _ = 2 ^ (format.precision + lastPlace format number : Int) := by rw [zpow_split, zpow_natCast]
    _ ≤ 2 ^ exponent := zpow_le_zpow_right₀ (by norm_num) coarse

theorem round_to_above (number : Rat) (exponent : Int) (normal : format.minExponent ≤ exponent)
    (precise : 0 < format.precision) (low : 2 ^ exponent ≤ number) : 2 ^ exponent ≤ roundTo format number := by
  have positive : 0 < number := (two_zpow_pos exponent).trans_le low
  have reached : exponent ≤ Int.log 2 number :=
    (Int.zpow_le_iff_le_log Nat.one_lt_two positive).mp (by exact_mod_cast low)
  have place : lastPlace format number = Int.log 2 number - (format.precision - 1) := by
    rw [lastPlace, exponentOf, if_neg positive.ne', abs_of_pos positive, max_eq_left (normal.trans reached)]
  obtain ⟨digits, isPrecision⟩ := Nat.exists_eq_add_of_lt precise
  have full : (2 : Rat) ^ Int.log 2 number = 2 ^ digits * 2 ^ lastPlace format number := by
    rw [place, ← zpow_natCast, ← zpow_split]
    congr 1
    omega
  have steps : (2 : Int) ^ digits ≤ nearestEven (number / 2 ^ lastPlace format number) := by
    have floor : (2 : Int) ^ digits ≤ ⌊number / 2 ^ lastPlace format number⌋ := by
      rw [Int.le_floor, le_div_iff₀ (two_zpow_pos _)]
      push_cast
      rw [← full]
      exact_mod_cast Int.zpow_log_le_self Nat.one_lt_two positive
    obtain same | same := nearest_even_near (number / 2 ^ lastPlace format number) <;> omega
  calc
    (2 : Rat) ^ exponent ≤ 2 ^ Int.log 2 number := zpow_le_zpow_right₀ (by norm_num) reached
    _ = 2 ^ digits * 2 ^ lastPlace format number := full
    _ ≤ roundTo format number := by
      rw [roundTo]
      exact mul_le_mul_of_nonneg_right (by exact_mod_cast steps) (two_zpow_pos _).le

-- A number of the format with an even last digit is reached from half a step above it.
theorem round_to_le_iff (number : Rat) (digits exponent : Int) (normal : format.minExponent < exponent)
    (precise : 0 < format.precision) (even : digits % 2 = 0) (positive : 0 ≤ number)
    (low : (2 : Rat) ^ exponent ≤ digits * 2 ^ (exponent - (format.precision - 1)))
    (high : (digits + 1) * 2 ^ (exponent - (format.precision - 1)) ≤ (2 : Rat) ^ (exponent + 1)) :
    roundTo format number ≤ digits * 2 ^ (exponent - (format.precision - 1)) ↔
      number ≤ (digits + 1 / 2) * 2 ^ (exponent - (format.precision - 1)) := by
  have positiveStep := two_zpow_pos (exponent - (format.precision - 1))
  generalize isStep : (2 : Rat) ^ (exponent - (format.precision - 1)) = step at *
  have magnitude : |number| = number := abs_of_nonneg positive
  by_cases small : number < 2 ^ exponent
  · have below := round_to_below number exponent normal (magnitude.symm ▸ small)
    refine iff_of_true ((le_abs_self _).trans (below.trans low)) ?_
    linarith
  · by_cases large : 2 ^ (exponent + 1) ≤ number
    · have above := round_to_above number (exponent + 1) (by omega) precise large
      refine iff_of_false ?_ ?_ <;> linarith
    · have place := last_place_within number exponent normal.le (not_lt.mp small) (not_le.mp large)
      rw [roundTo, place, isStep, mul_le_mul_iff_left₀ positiveStep, Int.cast_le, nearest_even_le_iff _ _ even,
        div_le_iff₀ positiveStep]

theorem le_round_to_iff (number : Rat) (digits exponent : Int) (normal : format.minExponent < exponent)
    (precise : 0 < format.precision) (even : digits % 2 = 0) (positive : 0 ≤ number)
    (low : (2 : Rat) ^ exponent ≤ (digits - 1) * 2 ^ (exponent - (format.precision - 1)))
    (high : digits * 2 ^ (exponent - (format.precision - 1)) ≤ (2 : Rat) ^ (exponent + 1)) :
    digits * 2 ^ (exponent - (format.precision - 1)) ≤ roundTo format number ↔
      (digits - 1 / 2) * 2 ^ (exponent - (format.precision - 1)) ≤ number := by
  have positiveStep := two_zpow_pos (exponent - (format.precision - 1))
  generalize isStep : (2 : Rat) ^ (exponent - (format.precision - 1)) = step at *
  have magnitude : |number| = number := abs_of_nonneg positive
  by_cases small : number < 2 ^ exponent
  · have below := round_to_below number exponent normal (magnitude.symm ▸ small)
    have rounded := (le_abs_self _).trans below
    refine iff_of_false ?_ ?_ <;> linarith
  · by_cases large : 2 ^ (exponent + 1) ≤ number
    · have above := round_to_above number (exponent + 1) (by omega) precise large
      refine iff_of_true ?_ ?_ <;> linarith
    · have place := last_place_within number exponent normal.le (not_lt.mp small) (not_le.mp large)
      rw [roundTo, place, isStep, mul_le_mul_iff_left₀ positiveStep, Int.cast_le, le_nearest_even_iff _ _ even,
        le_div_iff₀ positiveStep]

end halfway

-- The bits of a finite binary32 number: the sign, the exponent's eight bits and the
-- significand, whose leading bit stands in the exponent's last.
def binary32Bits (number : Rat) : Nat :=
  (if number < 0 then 2 ^ 31 else 0) + (exponentOf .binary32 number + 126).toNat * 2 ^ 23 +
    ⌊|number| / 2 ^ lastPlace .binary32 number⌋.toNat

-- What the bits below the sign are made of, for a number of magnitude at most 1.
theorem magnitude_bits (number : Rat) (isNumber : Representable .binary32 number) (small : |number| ≤ 1) :
    ∃ exponent significand : Nat, binary32Bits number =
        (if number < 0 then 2 ^ 31 else 0) + exponent * 2 ^ 23 + significand ∧
      |number| = significand * 2 ^ ((exponent : Int) - 149) ∧ exponent ≤ 126 ∧ significand < 2 ^ 24 ∧
      (exponent = 0 ∨ 2 ^ 23 ≤ significand) := by
  obtain ⟨places, same⟩ := last_places number isNumber
  have size : |number| = places.natAbs * 2 ^ lastPlace .binary32 number := by
    conv_lhs => rw [same]
    rw [abs_mul, abs_of_pos (two_zpow_pos _), Nat.cast_natAbs, Int.cast_abs]
  have quotient : |number| / 2 ^ lastPlace .binary32 number = (places.natAbs : Rat) := by
    rw [size, mul_div_cancel_right₀ _ (two_zpow_pos _).ne']
  have least : -126 ≤ exponentOf .binary32 number := by
    rw [exponentOf]
    split_ifs
    · exact le_refl _
    · exact le_max_right _ _
  have most : exponentOf .binary32 number ≤ 0 := by
    rw [exponentOf]
    split_ifs with zero
    · decide
    · refine max_le ?_ (by decide)
      have bound := log_below number 1 zero (lt_of_le_of_lt small (by norm_num))
      omega
  have place : lastPlace .binary32 number = ((exponentOf .binary32 number + 126).toNat : Int) - 149 := by
    rw [lastPlace, Int.toNat_of_nonneg (by omega)]
    simp only [FloatFormat.binary32]
    ring
  refine ⟨(exponentOf .binary32 number + 126).toNat, places.natAbs, ?_, ?_, by omega, ?_, ?_⟩
  · rw [binary32Bits, quotient, Int.floor_natCast, Int.toNat_natCast]
  · rw [← place]
    exact size
  · have bounded := @quotient_bounded .binary32 number
    rw [abs_div, abs_of_pos (two_zpow_pos _), quotient] at bounded
    exact_mod_cast bounded
  · by_cases subnormal : exponentOf .binary32 number = -126
    · exact Or.inl (by omega)
    · right
      -- a normal number's significand fills its bits
      have some : number ≠ 0 := fun zero => subnormal (by rw [exponentOf, if_pos zero]; rfl)
      have exact : exponentOf .binary32 number = Int.log 2 |number| := by
        have either : exponentOf .binary32 number = max (Int.log 2 |number|) (-126) := by
          rw [exponentOf, if_neg some]
          rfl
        omega
      have large : (2 : Rat) ^ exponentOf .binary32 number ≤ |number| := by
        rw [exact]
        exact_mod_cast Int.zpow_log_le_self Nat.one_lt_two (abs_pos.mpr some)
      have shifted : exponentOf .binary32 number = 23 + lastPlace .binary32 number := by
        rw [lastPlace]
        simp only [FloatFormat.binary32]
        ring
      rw [size, shifted, zpow_split] at large
      have filled := le_of_mul_le_mul_right large (two_zpow_pos _)
      exact_mod_cast filled

theorem binary32_bits_small (number : Rat) (isNumber : Representable .binary32 number) (small : |number| ≤ 1) :
    binary32Bits number < 2 ^ 32 := by
  obtain ⟨exponent, significand, bits, _, bounded, fits, _⟩ := magnitude_bits number isNumber small
  rw [bits]
  split_ifs <;> omega

-- Different numbers have different bits.
theorem binary32_bits_injective (first second : Rat) (isFirst : Representable .binary32 first)
    (isSecond : Representable .binary32 second) (smallFirst : |first| ≤ 1) (smallSecond : |second| ≤ 1)
    (same : binary32Bits first = binary32Bits second) : first = second := by
  obtain ⟨exponent, significand, bits, size, bounded, fits, normal⟩ := magnitude_bits first isFirst smallFirst
  obtain ⟨exponent', significand', bits', size', bounded', fits', normal'⟩ :=
    magnitude_bits second isSecond smallSecond
  rw [bits, bits'] at same
  have sign : first < 0 ↔ second < 0 := by
    by_cases low : first < 0 <;> by_cases low' : second < 0 <;> simp only [low, low', if_true, if_false] at same ⊢ <;>
      omega
  have parts : exponent = exponent' ∧ significand = significand' := by
    simp only [sign] at same
    omega
  have magnitude : |first| = |second| := by rw [size, size', parts.1, parts.2]
  by_cases low : first < 0
  · rw [abs_of_neg low, abs_of_neg (sign.mp low)] at magnitude
    linarith
  · rw [abs_of_nonneg (not_lt.mp low), abs_of_nonneg (not_lt.mp fun low' => low (sign.mpr low'))] at magnitude
    exact magnitude

end Conformance.Base
