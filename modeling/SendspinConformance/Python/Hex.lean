import Mathlib.Tactic.IntervalCases
import SendspinConformance.Python.Text

set_option autoImplicit false

namespace Conformance.Python

-- bytes.hex()
def toHex (bytes : List UInt8) : String := String.ofList (bytes.flatMap fun byte => hexDigits 2 byte.toNat)

def hexValue (char : Char) : Option Nat :=
  if '0' ≤ char ∧ char ≤ '9' then some (char.toNat - 48)
  else if 'a' ≤ char ∧ char ≤ 'f' then some (char.toNat - 87)
  else if 'A' ≤ char ∧ char ≤ 'F' then some (char.toNat - 55)
  else none

-- The blanks bytes.fromhex skips between two bytes.
def isHexBlank (char : Char) : Bool := [9, 10, 11, 12, 13, 32].contains char.toNat

-- bytes.fromhex(text); none where it raises ValueError
def fromHexChars : List Char → Option (List UInt8)
  | [] => some []
  | [last] => if isHexBlank last then some [] else none
  | high :: low :: rest =>
      if isHexBlank high then fromHexChars (low :: rest)
      else do
        let top ← hexValue high
        let bottom ← hexValue low
        let bytes ← fromHexChars rest
        some (UInt8.ofNat (16 * top + bottom) :: bytes)

def fromHex (text : String) : Option (List UInt8) := fromHexChars text.toList

-- A number's low `count` bytes, the highest first.
def bigEndianBytes : Nat → Nat → List UInt8
  | 0, _ => []
  | count + 1, number => bigEndianBytes count (number / 256) ++ [UInt8.ofNat (number % 256)]

def bigEndian (bytes : List UInt8) : Nat := bytes.foldl (fun number byte => number * 256 + byte.toNat) 0

-- int.from_bytes(bytes, "big", signed=True)
def intFromBytes (bytes : List UInt8) : Int :=
  let number := bigEndian bytes
  if 2 * number < 256 ^ bytes.length then number else (number : Int) - 256 ^ bytes.length

theorem hex_value_digit (value : Nat) (small : value < 16) :
    hexValue (hexDigit value) = some value ∧ isHexBlank (hexDigit value) = false := by
  interval_cases value <;> decide

theorem from_hex_to_hex (bytes : List UInt8) : fromHex (toHex bytes) = some bytes := by
  rw [fromHex, toHex, String.toList_ofList]
  induction bytes with
  | nil => rfl
  | cons byte rest ih =>
      have small := byte.toNat_lt
      have high := hex_value_digit (byte.toNat / 16 % 16) (by omega)
      have low := hex_value_digit (byte.toNat % 16) (by omega)
      have digits : hexDigits 2 byte.toNat = [hexDigit (byte.toNat / 16 % 16), hexDigit (byte.toNat % 16)] := rfl
      have joined : 16 * (byte.toNat / 16 % 16) + byte.toNat % 16 = byte.toNat := by omega
      rw [List.flatMap_cons, digits, List.cons_append, List.cons_append, List.nil_append, fromHexChars, high.2,
        if_neg Bool.false_ne_true, high.1, low.1, ih]
      simp only [Option.bind_eq_bind, Option.bind_some, joined, UInt8.ofNat_toNat]

theorem big_endian_bytes_length (count number : Nat) : (bigEndianBytes count number).length = count := by
  induction count generalizing number with
  | zero => rfl
  | succ count ih => rw [bigEndianBytes, List.length_append, ih, List.length_singleton]

theorem big_endian_bytes (count number : Nat) : bigEndian (bigEndianBytes count number) = number % 256 ^ count := by
  induction count generalizing number with
  | zero => rw [Nat.pow_zero, Nat.mod_one]; rfl
  | succ count ih =>
      have last : (UInt8.ofNat (number % 256)).toNat = number % 256 := by simp
      have earlier := ih (number / 256)
      rw [bigEndian] at earlier
      rw [bigEndianBytes, bigEndian, List.foldl_append, earlier, List.foldl_cons, List.foldl_nil, last, Nat.pow_succ,
        Nat.mul_comm (256 ^ count), Nat.mod_mul]
      omega

-- Eight bytes of a signed 64-bit number read back as the number.
theorem int_from_bytes_signed (number : BitVec 64) : intFromBytes (bigEndianBytes 8 number.toNat) = number.toInt := by
  have small := number.isLt
  have power : (256 : Nat) ^ 8 = 2 ^ 64 := by decide
  rw [intFromBytes, big_endian_bytes_length, big_endian_bytes, power, Nat.mod_eq_of_lt small,
    BitVec.toInt_eq_toNat_cond]
  rfl

end Conformance.Python
