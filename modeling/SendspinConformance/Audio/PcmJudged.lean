import SendspinConformance.Audio.Pcm

set_option autoImplicit false

namespace Conformance.Audio

open Python Base

-- The sample of `width` bytes at an offset: little-endian, in two's complement.
def sampleAt (width : Nat) (pcm : Bytes) (offset : Nat) : Int :=
  signed (8 * width) (littleEndian ((pcm.drop offset).take width))

-- The value a sample is hashed as: divided by 2 ^ (bits - 1) and rounded once.
def canonicalValue (width : Nat) (sample : Int) : Rat := float32 (sample / 2 ^ (8 * width - 1))

-- The buffer is a whole number of samples.
def WholeSamples (width : Nat) (pcm : Bytes) : Prop := pcm.length % width = 0

-- The bytes of the buffer's samples, each hashed as its canonical value.
def canonicalBytes (width : Nat) (pcm : Bytes) : Bytes :=
  (offsets width pcm.length).flatMap fun offset => float32Bytes (canonicalValue width (sampleAt width pcm offset))

-- The state after hashing the buffer whole.
def hashed (hasher : FloatPcmHasher) (width : Nat) (pcm : Bytes) : FloatPcmHasher :=
  ⟨hasher.stream ++ canonicalBytes width pcm, hasher.sampleCount + pcm.length / width⟩

theorem little_endian_at (pcm : Bytes) (offset width : Nat) :
    littleEndian ((pcm.drop offset).take (width + 1)) =
      (byteAt pcm offset).toNat + 256 * littleEndian ((pcm.drop (offset + 1)).take width) := by
  have step : pcm.drop (offset + 1) = (pcm.drop offset).drop 1 := by rw [List.drop_drop]
  have here : byteAt pcm offset = (pcm.drop offset).getD 0 0 := by
    simp [byteAt, List.getD_eq_getElem?_getD, List.getElem?_drop]
  rw [step, here]
  cases pcm.drop offset with
  | nil => simp [littleEndian]
  | cons byte rest => simp [littleEndian]

theorem little_endian_small (bytes : Bytes) : littleEndian bytes < 256 ^ bytes.length := by
  induction bytes with
  | nil => exact Nat.one_pos
  | cons byte rest ih =>
      have small := byte.toNat_lt
      rw [littleEndian, List.length_cons, Nat.pow_succ]
      omega

theorem or_shifted (low high places : Nat) (small : low < 2 ^ places) :
    low ||| high <<< places = low + high * 2 ^ places := by
  rw [Nat.or_comm, ← Nat.shiftLeft_add_eq_or_of_lt small, Nat.shiftLeft_eq, Nat.add_comm]

theorem sign_bit_iff (value places : Nat) (small : value < 2 ^ (places + 1)) :
    value &&& 2 ^ places ≠ 0 ↔ 2 ^ places ≤ value := by
  have positive : 0 < 2 ^ places := Nat.two_pow_pos places
  rw [Nat.and_two_pow, Nat.testBit_eq_decide_div_mod_eq]
  have quotient : value / 2 ^ places < 2 := by
    rw [Nat.div_lt_iff_lt_mul positive]
    rw [Nat.pow_succ] at small
    omega
  have isOne : value / 2 ^ places = 1 ↔ 2 ^ places ≤ value := by
    rw [← Nat.one_le_div_iff positive]
    omega
  have noMod : value / 2 ^ places % 2 = value / 2 ^ places := Nat.mod_eq_of_lt quotient
  rw [noMod, ← isOne]
  by_cases one : value / 2 ^ places = 1 <;> simp [one]

theorem signed_bounded (places value : Nat) (small : value < 2 ^ (places + 1)) :
    |signed (places + 1) value| ≤ 2 ^ places := by
  rw [signed, Nat.add_sub_cancel, abs_le]
  have doubled : (2 : Int) ^ (places + 1) = 2 * 2 ^ places := by rw [pow_succ]; ring
  have low : (value : Int) < 2 ^ (places + 1) := by exact_mod_cast small
  split_ifs with below
  · have under : (value : Int) < 2 ^ places := by exact_mod_cast below
    omega
  · have upper : (2 : Int) ^ places ≤ value := by exact_mod_cast not_lt.mp below
    omega

-- A sample is at most 2 ^ (bits - 1) in magnitude.
theorem sample_bounded (width : Nat) (pcm : Bytes) (offset : Nat) (some : 0 < width) :
    |sampleAt width pcm offset| ≤ 2 ^ (8 * width - 1) := by
  have bits : 8 * width = 8 * width - 1 + 1 := by omega
  have small : littleEndian ((pcm.drop offset).take width) < 2 ^ (8 * width - 1 + 1) := by
    refine lt_of_lt_of_le (little_endian_small _) ?_
    rw [← bits, Nat.pow_mul]
    exact Nat.pow_le_pow_right (by omega) (List.length_take_le _ _)
  have bounded := signed_bounded (8 * width - 1) _ small
  rwa [← bits] at bounded

-- An integer of at most 32 bits over a power of two, as a binary64 number.
theorem quotient_representable (number : Int) (places : Nat) (small : |number| ≤ 2 ^ 31) (few : places ≤ 31) :
    Representable .binary64 ((number : Rat) / 2 ^ places) := by
  refine ⟨number, -(places : Int), ?_, lt_of_le_of_lt small (by decide), ?_⟩
  · rw [zpow_neg, zpow_natCast, div_eq_mul_inv]
  · simp only [FloatFormat.binary64]
    omega

theorem divided_exact (number : Int) (places : Nat) (small : |number| ≤ 2 ^ 31) (few : places ≤ 31) :
    divided number (2 ^ places) = number / 2 ^ places := by
  have whole : float64 number = number := by
    have isNumber := quotient_representable number 0 small (by omega)
    rw [pow_zero, div_one] at isNumber
    exact round_to_exact _ isNumber
  rw [divided, whole]
  exact round_to_exact _ (quotient_representable number places small few)

-- Rounding an integer before the division, as Rust and Go do, changes nothing.
theorem rounded_before (number : Int) (places : Nat) (few : places ≤ 31) :
    float32 (float32 number / 2 ^ places) = float32 (number / 2 ^ places) := by
  have asScaled (value : Rat) : value / 2 ^ places = value * 2 ^ (-(places : Int)) := by
    rw [zpow_neg, zpow_natCast, div_eq_mul_inv]
  by_cases zero : number = 0
  · have noValue : float32 0 = 0 := round_to_exact 0 ⟨0, 0, by norm_num, by decide, by decide⟩
    rw [zero, Int.cast_zero, noValue]
  · have some : (number : Rat) ≠ 0 := by exact_mod_cast zero
    have atLeastOne : (1 : Rat) ≤ |(number : Rat)| := by exact_mod_cast Int.one_le_abs zero
    have log : 0 ≤ Int.log 2 |(number : Rat)| := by
      have monotone := Int.log_mono_right (b := 2) one_pos atLeastOne
      rwa [Int.log_one_right] at monotone
    have scaled : float32 (number * 2 ^ (-(places : Int))) = float32 number * 2 ^ (-(places : Int)) :=
      round_to_scaled _ _ some (by simp only [FloatFormat.binary32]; omega)
        (by simp only [FloatFormat.binary32]; omega)
    -- the quotient of the rounded integer is itself a binary32 number
    have kept : float32 (float32 number * 2 ^ (-(places : Int))) = float32 number * 2 ^ (-(places : Int)) := by
      obtain ⟨significand, exponent, same, fits, coarse⟩ :=
        @round_to_form .binary32 (number : Rat) (by decide)
      refine round_to_exact _ ⟨significand, exponent - places, ?_, fits, ?_⟩
      · rw [float32, same, mul_assoc, ← zpow_split, sub_eq_add_neg]
      · have place : lastPlace .binary32 (number : Rat) = max (Int.log 2 |(number : Rat)|) (-126) - 23 := by
          rw [lastPlace, exponentOf, if_neg some]
          simp only [FloatFormat.binary32]
          norm_num
        rw [place] at coarse
        simp only [FloatFormat.binary32]
        omega
    rw [asScaled, asScaled, kept, scaled]

theorem low_bits_left (value : Nat) (small : value < 2 ^ 24) : Nat.ldiff 0xFFFFFF value = 0xFFFFFF - value := by
  apply Nat.eq_of_testBit_eq
  intro place
  have flipped : 0xFFFFFF - value = 2 ^ 24 - (value + 1) := by omega
  have ones : (0xFFFFFF : Nat) = 2 ^ 24 - 1 := by decide
  rw [flipped, Nat.testBit_ldiff, ones, Nat.testBit_two_pow_sub_succ small, Nat.testBit_two_pow_sub_one]

-- value |= ~0xFFFFFF takes 2 ^ 24 off.
theorem extended_sign (value : Nat) (small : value < 2 ^ 24) :
    Int.lor value (Int.lnot 0xFFFFFF) = (value : Int) - 2 ^ 24 := by
  have complement : Int.lnot 0xFFFFFF = Int.negSucc 0xFFFFFF := rfl
  have either : Int.lor value (Int.negSucc 0xFFFFFF) = Int.negSucc (Nat.ldiff 0xFFFFFF value) := rfl
  rw [complement, either, low_bits_left value small, Int.negSucc_eq]
  omega

theorem three_bytes (b0 b1 b2 : UInt8) :
    b0.toNat ||| b1.toNat <<< 8 ||| b2.toNat <<< 16 = b0.toNat + 256 * (b1.toNat + 256 * b2.toNat) := by
  have small0 := b0.toNat_lt
  have small1 := b1.toNat_lt
  rw [or_shifted _ _ 8 (by omega), or_shifted _ _ 16 (by omega)]
  omega

theorem sample_two (pcm : Bytes) (offset : Nat) :
    sampleAt 2 pcm offset = signed 16 ((byteAt pcm offset).toNat + 256 * (byteAt pcm (offset + 1)).toNat) := by
  simp [sampleAt, little_endian_at, littleEndian]

theorem sample_three (pcm : Bytes) (offset : Nat) :
    sampleAt 3 pcm offset = signed 24 ((byteAt pcm offset).toNat +
      256 * ((byteAt pcm (offset + 1)).toNat + 256 * (byteAt pcm (offset + 2)).toNat)) := by
  simp [sampleAt, little_endian_at, littleEndian, Nat.add_assoc]

theorem sample_four (pcm : Bytes) (offset : Nat) :
    sampleAt 4 pcm offset = signed 32 ((byteAt pcm offset).toNat + 256 * ((byteAt pcm (offset + 1)).toNat +
      256 * ((byteAt pcm (offset + 2)).toNat + 256 * (byteAt pcm (offset + 3)).toNat))) := by
  simp [sampleAt, little_endian_at, littleEndian, Nat.add_assoc]

theorem python_three (pcm : Bytes) (offset : Nat) : pcm24Value pcm offset = sampleAt 3 pcm offset := by
  have small0 := (byteAt pcm offset).toNat_lt
  have small1 := (byteAt pcm (offset + 1)).toNat_lt
  have small2 := (byteAt pcm (offset + 2)).toNat_lt
  rw [sample_three, pcm24Value, three_bytes, signed]
  generalize joined : (byteAt pcm offset).toNat + 256 * ((byteAt pcm (offset + 1)).toNat +
    256 * (byteAt pcm (offset + 2)).toNat) = value
  have small : value < 2 ^ (23 + 1) := by omega
  have high : value &&& 8388608 ≠ 0 ↔ 2 ^ 23 ≤ value := sign_bit_iff value 23 small
  by_cases negative : 2 ^ 23 ≤ value
  · rw [if_pos (high.mpr negative), if_neg (by simpa using negative), extended_sign value small]
  · rw [if_neg fun bit => negative (high.mp bit), if_pos (by simpa using negative)]

theorem to_int_signed (bits : Nat) (number : BitVec (bits + 1)) : number.toInt = signed (bits + 1) number.toNat := by
  rw [BitVec.toInt_eq_toNat_cond, signed, Nat.add_sub_cancel]
  have doubled : 2 ^ (bits + 1) = 2 * 2 ^ bits := by rw [Nat.pow_succ]; omega
  by_cases low : number.toNat < 2 ^ bits
  · rw [if_pos (by omega), if_pos low]
  · rw [if_neg (by omega), if_neg low]
    push_cast
    rfl

theorem i16_value (b0 b1 : UInt8) : Rust.i16FromLeBytes b0 b1 = signed 16 (b0.toNat + 256 * b1.toNat) := by
  have joined : (b1.toBitVec ++ b0.toBitVec).toNat = b0.toNat + 256 * b1.toNat := by
    have small := b0.toNat_lt
    rw [BitVec.toNat_append, UInt8.toNat_toBitVec, UInt8.toNat_toBitVec, Nat.or_comm, or_shifted _ _ 8 small]
    omega
  rw [Rust.i16FromLeBytes, ← joined]
  exact to_int_signed 15 _

theorem i32_value (b0 b1 b2 b3 : UInt8) :
    Rust.i32FromLeBytes b0 b1 b2 b3 =
      signed 32 (b0.toNat + 256 * (b1.toNat + 256 * (b2.toNat + 256 * b3.toNat))) := by
  have joined : (b3.toBitVec ++ b2.toBitVec ++ b1.toBitVec ++ b0.toBitVec).toNat =
      b0.toNat + 256 * (b1.toNat + 256 * (b2.toNat + 256 * b3.toNat)) := by
    have small0 := b0.toNat_lt
    have small1 := b1.toNat_lt
    have small2 := b2.toNat_lt
    simp only [BitVec.toNat_append, UInt8.toNat_toBitVec]
    rw [Nat.or_comm, or_shifted _ _ 8 small0, Nat.or_comm, or_shifted _ _ 8 small1, Nat.or_comm,
      or_shifted _ _ 8 small2]
    omega
  rw [Rust.i32FromLeBytes, ← joined]
  exact to_int_signed 31 _

theorem go_int16_value (b0 b1 : UInt8) : Go.int16Value b0 b1 = signed 16 (b0.toNat + 256 * b1.toNat) := by
  have small0 := b0.toNat_lt
  have small1 := b1.toNat_lt
  have joined : (b0.toBitVec.setWidth 16 ||| b1.toBitVec.setWidth 16 <<< 8).toNat = b0.toNat + 256 * b1.toNat := by
    have high : b1.toNat <<< 8 % 2 ^ 16 = b1.toNat <<< 8 := Nat.mod_eq_of_lt (by rw [Nat.shiftLeft_eq]; omega)
    simp only [BitVec.toNat_or, BitVec.toNat_shiftLeft, BitVec.toNat_setWidth, UInt8.toNat_toBitVec]
    rw [Nat.mod_eq_of_lt (by omega : b0.toNat < 2 ^ 16), Nat.mod_eq_of_lt (by omega : b1.toNat < 2 ^ 16), high,
      or_shifted _ _ 8 small0]
    omega
  rw [Go.int16Value, ← joined]
  exact to_int_signed 15 _

-- Three bytes side by side in a 32-bit register.
theorem register_three (b0 b1 b2 : UInt8) :
    (b0.toBitVec.setWidth 32 ||| b1.toBitVec.setWidth 32 <<< 8 ||| b2.toBitVec.setWidth 32 <<< 16).toNat =
      b0.toNat + 256 * (b1.toNat + 256 * b2.toNat) := by
  have small0 := b0.toNat_lt
  have small1 := b1.toNat_lt
  have small2 := b2.toNat_lt
  have middle : b1.toNat <<< 8 % 2 ^ 32 = b1.toNat <<< 8 := Nat.mod_eq_of_lt (by rw [Nat.shiftLeft_eq]; omega)
  have high : b2.toNat <<< 16 % 2 ^ 32 = b2.toNat <<< 16 := Nat.mod_eq_of_lt (by rw [Nat.shiftLeft_eq]; omega)
  simp only [BitVec.toNat_or, BitVec.toNat_shiftLeft, BitVec.toNat_setWidth, UInt8.toNat_toBitVec]
  rw [Nat.mod_eq_of_lt (by omega : b0.toNat < 2 ^ 32), Nat.mod_eq_of_lt (by omega : b1.toNat < 2 ^ 32),
    Nat.mod_eq_of_lt (by omega : b2.toNat < 2 ^ 32), middle, high, three_bytes]

theorem go_int32_value (b0 b1 b2 b3 : UInt8) :
    Go.int32Value b0 b1 b2 b3 =
      signed 32 (b0.toNat + 256 * (b1.toNat + 256 * (b2.toNat + 256 * b3.toNat))) := by
  have small0 := b0.toNat_lt
  have small1 := b1.toNat_lt
  have small2 := b2.toNat_lt
  have small3 := b3.toNat_lt
  have joined : (b0.toBitVec.setWidth 32 ||| b1.toBitVec.setWidth 32 <<< 8 ||| b2.toBitVec.setWidth 32 <<< 16 |||
      b3.toBitVec.setWidth 32 <<< 24).toNat =
      b0.toNat + 256 * (b1.toNat + 256 * (b2.toNat + 256 * b3.toNat)) := by
    have high : b3.toNat <<< 24 % 2 ^ 32 = b3.toNat <<< 24 := Nat.mod_eq_of_lt (by rw [Nat.shiftLeft_eq]; omega)
    rw [BitVec.toNat_or, register_three, BitVec.toNat_shiftLeft, BitVec.toNat_setWidth, UInt8.toNat_toBitVec,
      Nat.mod_eq_of_lt (by omega : b3.toNat < 2 ^ 32), high, or_shifted _ _ 24 (by omega)]
    omega
  rw [Go.int32Value, ← joined]
  exact to_int_signed 31 _

-- The registers of Rust and Go extend the sign of a 24-bit sample alike.
theorem i24_value (b0 b1 b2 : UInt8) :
    Rust.i24Value b0 b1 b2 = signed 24 (b0.toNat + 256 * (b1.toNat + 256 * b2.toNat)) := by
  have small0 := b0.toNat_lt
  have small1 := b1.toNat_lt
  have small2 := b2.toNat_lt
  have joined := register_three b0 b1 b2
  rw [Rust.i24Value]
  generalize (b0.toBitVec.setWidth 32 ||| b1.toBitVec.setWidth 32 <<< 8 |||
    b2.toBitVec.setWidth 32 <<< 16 : BitVec 32) = register at joined ⊢
  rw [← joined]
  have small : register.toNat < 2 ^ (23 + 1) := by omega
  have bit : register &&& 0x800000#32 ≠ 0 ↔ register.toNat &&& 8388608 ≠ 0 := by
    rw [ne_eq, ← BitVec.toNat_inj, BitVec.toNat_and]
    rfl
  have high : register.toNat &&& 8388608 ≠ 0 ↔ 2 ^ 23 ≤ register.toNat := sign_bit_iff _ 23 small
  rw [signed]
  by_cases negative : 2 ^ 23 ≤ register.toNat
  · have filled : (register ||| ~~~0x00FFFFFF#32).toNat = register.toNat + 255 * 2 ^ 24 := by
      rw [BitVec.toNat_or, ← or_shifted register.toNat 255 24 small]
      rfl
    rw [if_pos (bit.mpr (high.mpr negative)), if_neg (by simpa using negative), BitVec.toInt_eq_toNat_cond, filled]
    omega
  · rw [if_neg fun set => negative (high.mp (bit.mp set)), if_pos (by simpa using negative),
      BitVec.toInt_eq_toNat_cond]
    omega

theorem go_int24_value (b0 b1 b2 : UInt8) : Go.int24Value b0 b1 b2 = Rust.i24Value b0 b1 b2 := rfl

theorem little_endian_last (pcm : Bytes) (offset width : Nat) :
    littleEndian ((pcm.drop offset).take (width + 1)) =
      littleEndian ((pcm.drop offset).take width) + (byteAt pcm (offset + width)).toNat * 2 ^ (8 * width) := by
  induction width generalizing offset with
  | zero => simp [little_endian_at, littleEndian]
  | succ width ih =>
      have place : offset + 1 + width = offset + (width + 1) := by omega
      have power : (2 : Nat) ^ (8 * (width + 1)) = 256 * 2 ^ (8 * width) := by
        rw [show 8 * (width + 1) = 8 * width + 8 by ring, Nat.pow_add]
        omega
      rw [little_endian_at, ih (offset + 1), little_endian_at pcm offset width, place, power]
      ring

-- uint32_t bits, byte by byte, are the little-endian number.
theorem cpp_bits (pcm : Bytes) (width offset : Nat) :
    (List.range width).foldl (fun bits i => bits ||| (byteAt pcm (offset + i)).toNat <<< (8 * i)) 0 =
      littleEndian ((pcm.drop offset).take width) := by
  induction width with
  | zero => simp [littleEndian]
  | succ width ih =>
      have small : littleEndian ((pcm.drop offset).take width) < 2 ^ (8 * width) := by
        refine lt_of_lt_of_le (little_endian_small _) ?_
        rw [Nat.pow_mul]
        exact Nat.pow_le_pow_right (by omega) (List.length_take_le _ _)
      rw [List.range_succ, List.foldl_append, ih, List.foldl_cons, List.foldl_nil, or_shifted _ _ _ small,
        little_endian_last]

theorem cpp_sample (pcm : Bytes) (width offset : Nat) (some : 0 < width) (narrow : width ≤ 4) :
    Cpp.sampleAt pcm width offset = canonicalValue width (sampleAt width pcm offset) := by
  obtain ⟨places, bits⟩ : ∃ places, width * 8 = places + 1 := ⟨width * 8 - 1, by omega⟩
  have few : places ≤ 31 := by omega
  have small : littleEndian ((pcm.drop offset).take width) < 2 ^ (places + 1) := by
    refine lt_of_lt_of_le (little_endian_small _) ?_
    rw [← bits, Nat.mul_comm, Nat.pow_mul]
    exact Nat.pow_le_pow_right (by omega) (List.length_take_le _ _)
  have high := sign_bit_iff _ places small
  have scale : float64 (2 ^ places) = 2 ^ places :=
    round_to_exact _ ⟨2 ^ places, 0, by norm_num, by
      rw [abs_of_pos (by positivity)]
      exact pow_lt_pow_right₀ (by norm_num) (by simp only [FloatFormat.binary64]; omega), by decide⟩
  have value : (if littleEndian ((pcm.drop offset).take width) &&& 1 <<< places ≠ 0 then
      (littleEndian ((pcm.drop offset).take width) : Int) - ((1 <<< places) <<< 1 : Nat)
      else littleEndian ((pcm.drop offset).take width)) = sampleAt width pcm offset := by
    rw [sampleAt, Nat.mul_comm 8, bits, signed, Nat.add_sub_cancel, Nat.one_shiftLeft, Nat.shiftLeft_eq]
    by_cases negative : 2 ^ places ≤ littleEndian ((pcm.drop offset).take width)
    · rw [if_pos (high.mpr negative), if_neg (by simpa using negative)]
      push_cast
      ring
    · rw [if_neg fun bit => negative (high.mp bit), if_pos (by simpa using negative)]
  have bounded : |sampleAt width pcm offset| ≤ 2 ^ 31 := by
    refine (sample_bounded width pcm offset some).trans ?_
    exact pow_le_pow_right₀ (by norm_num) (by omega)
  have exact := divided_exact _ places bounded few
  rw [divided] at exact
  simp only [Cpp.sampleAt, cpp_bits, bits, Nat.add_sub_cancel]
  rw [value, scale, exact, canonicalValue, Nat.mul_comm 8, bits, Nat.add_sub_cancel]

theorem low_bytes_length (count number : Nat) : (lowBytes count number).length = count := by
  induction count generalizing number with
  | zero => rfl
  | succ count ih => rw [lowBytes, List.length_cons, ih]

theorem feed_samples_eq (hasher : FloatPcmHasher) (samples : List Rat) :
    feedSamples hasher samples =
      ⟨hasher.stream ++ samples.flatMap float32Bytes, hasher.sampleCount + samples.length⟩ := by
  induction samples generalizing hasher with
  | nil => simp [feedSamples]
  | cons sample rest ih =>
      have step := ih ⟨hasher.stream ++ float32Bytes sample, hasher.sampleCount + 1⟩
      rw [feedSamples] at step ⊢
      rw [List.foldl_cons, step, List.flatMap_cons, List.length_cons, List.append_assoc, Nat.add_assoc,
        Nat.add_comm 1]

theorem packed_length (samples : List Rat) : (samples.flatMap float32Bytes).length = 4 * samples.length := by
  induction samples with
  | nil => rfl
  | cons sample rest ih =>
      rw [List.flatMap_cons, List.length_append, ih, float32Bytes, low_bytes_length, List.length_cons]
      omega

theorem offsets_whole (width length : Nat) (some : 0 < width) (whole : length % width = 0) :
    (length + width - 1) / width = length / width := by
  obtain ⟨count, rfl⟩ := Nat.dvd_of_mod_eq_zero whole
  rw [Nat.mul_div_cancel_left _ some]
  have split : width * count + width - 1 = width - 1 + width * count := by omega
  rw [split, Nat.add_mul_div_left _ _ some, Nat.div_eq_of_lt (by omega), Nat.zero_add]

theorem offsets_count (width length : Nat) (some : 0 < width) (whole : length % width = 0) :
    (offsets width length).length = length / width := by
  rw [offsets, List.length_map, List.length_range, offsets_whole width length some whole]

theorem go_offsets (width : Nat) (pcm : Bytes) (some : 0 < width) (whole : WholeSamples width pcm) :
    Go.wholeOffsets width pcm = offsets width pcm.length := by
  have count := offsets_whole width pcm.length some whole
  have shorter : pcm.length - (width - 1) + width - 1 = max pcm.length (width - 1) := by omega
  rw [Go.wholeOffsets, offsets, offsets, count, shorter]
  by_cases short : pcm.length < width
  · have fewer : max pcm.length (width - 1) < width := by omega
    rw [Nat.div_eq_of_lt fewer, Nat.div_eq_of_lt short]
  · rw [max_eq_left (by omega)]

theorem rust_offsets (width : Nat) (pcm : Bytes) (whole : WholeSamples width pcm) :
    Rust.chunksExact width pcm = offsets width pcm.length := by
  rw [Rust.chunksExact, Nat.div_mul_cancel (Nat.dvd_of_mod_eq_zero whole)]

-- Feeding the samples' canonical values hashes the buffer whole.
theorem feed_whole (hasher : FloatPcmHasher) (width : Nat) (pcm : Bytes) (some : 0 < width)
    (whole : WholeSamples width pcm) (value : Nat → Rat)
    (canonical : ∀ offset, value offset = canonicalValue width (sampleAt width pcm offset)) :
    feedSamples hasher ((offsets width pcm.length).map value) = hashed hasher width pcm := by
  have same : value = fun offset => canonicalValue width (sampleAt width pcm offset) := funext canonical
  rw [feed_samples_eq, hashed, canonicalBytes, List.length_map, offsets_count width pcm.length some whole, same,
    List.flatMap_map]

-- Python packs each exact quotient.
theorem python_packed (width : Nat) (pcm : Bytes) (some : 0 < width) (narrow : width ≤ 4) :
    structPack ((offsets width pcm.length).map fun offset =>
      divided (sampleAt width pcm offset) (2 ^ (8 * width - 1))) = canonicalBytes width pcm := by
  have exact (offset : Nat) : float32 (divided (sampleAt width pcm offset) (2 ^ (8 * width - 1))) =
      canonicalValue width (sampleAt width pcm offset) := by
    have bounded := (sample_bounded width pcm offset some).trans
      (pow_le_pow_right₀ (by norm_num) (by omega : 8 * width - 1 ≤ 31))
    rw [divided_exact _ _ bounded (by omega), canonicalValue]
  rw [structPack, List.flatMap_map, canonicalBytes]
  simp only [exact]

theorem struct_unpack_whole (width : Nat) (pcm : Bytes) (whole : WholeSamples width pcm) :
    structUnpack width pcm = .ok ((offsets width pcm.length).map (sampleAt width pcm)) := by
  have size : pcm.length = pcm.length / width * width := (Nat.div_mul_cancel (Nat.dvd_of_mod_eq_zero whole)).symm
  rw [structUnpack, if_neg (not_not.mpr size)]
  rfl

theorem struct_unpack_partial (width : Nat) (pcm : Bytes) (ends : ¬ WholeSamples width pcm) :
    (structUnpack width pcm).toOption = none := by
  have parts := Nat.div_add_mod' pcm.length width
  have size : pcm.length ≠ pcm.length / width * width := by
    rw [WholeSamples] at ends
    omega
  rw [structUnpack, if_pos size]
  rfl

-- What each of the four makes of a buffer at a depth.
structure Answers where
  python : Option FloatPcmHasher
  cpp : Option FloatPcmHasher
  rust : Option FloatPcmHasher
  go : Option FloatPcmHasher
deriving DecidableEq

def answers (hasher : FloatPcmHasher) (pcm : Bytes) (bitDepth : Nat) : Answers :=
  ⟨(updateFromPcmBytes hasher pcm bitDepth).toOption, Cpp.hashCanonicalPcm hasher pcm bitDepth,
    (Rust.updateFromPcmBytes hasher pcm bitDepth).toOption, (Go.updateFromPCMBytes hasher pcm bitDepth).toOption⟩

-- All four reject the buffer, or all hash its samples' canonical values and count them.
def Agree (hasher : FloatPcmHasher) (pcm : Bytes) (bitDepth : Nat) : Prop :=
  answers hasher pcm bitDepth = ⟨none, none, none, none⟩ ∨
    answers hasher pcm bitDepth = ⟨some (hashed hasher (bitDepth / 8) pcm), some (hashed hasher (bitDepth / 8) pcm),
      some (hashed hasher (bitDepth / 8) pcm), some (hashed hasher (bitDepth / 8) pcm)⟩

theorem python_bytes (pcm : Bytes) (bitDepth : Nat) (depth : bitDepth ∈ [16, 24, 32])
    (whole : WholeSamples (bitDepth / 8) pcm) :
    pcmIntBytesToFloatBytes pcm bitDepth = .ok (canonicalBytes (bitDepth / 8) pcm) := by
  simp only [List.mem_cons, List.not_mem_nil, or_false] at depth
  obtain rfl | rfl | rfl := depth
  · have packed := python_packed 2 pcm (by decide) (by decide)
    norm_num at packed
    simp [pcmIntBytesToFloatBytes, struct_unpack_whole 2 pcm whole, Except.map, Function.comp_def, packed]
  · have packed := python_packed 3 pcm (by decide) (by decide)
    norm_num at packed
    have rest : pcm.length % 3 = 0 := whole
    simp [pcmIntBytesToFloatBytes, rest, python_three, packed]
  · have packed := python_packed 4 pcm (by decide) (by decide)
    norm_num at packed
    simp [pcmIntBytesToFloatBytes, struct_unpack_whole 4 pcm whole, Except.map, Function.comp_def, packed]

theorem python_refuses (pcm : Bytes) (bitDepth : Nat) (depth : bitDepth ∈ [16, 24, 32])
    (ends : ¬ WholeSamples (bitDepth / 8) pcm) : (pcmIntBytesToFloatBytes pcm bitDepth).toOption = none := by
  simp only [List.mem_cons, List.not_mem_nil, or_false] at depth
  obtain rfl | rfl | rfl := depth
  · have refused := struct_unpack_partial 2 pcm ends
    cases unpacked : structUnpack 2 pcm with
    | ok ints => rw [unpacked] at refused; cases refused
    | error raised => simp [pcmIntBytesToFloatBytes, unpacked, Except.map, Except.toOption]
  · have rest : ¬ pcm.length % 3 = 0 := ends
    simp [pcmIntBytesToFloatBytes, rest, Except.toOption]
  · have refused := struct_unpack_partial 4 pcm ends
    cases unpacked : structUnpack 4 pcm with
    | ok ints => rw [unpacked] at refused; cases refused
    | error raised => simp [pcmIntBytesToFloatBytes, unpacked, Except.map, Except.toOption]

theorem canonical_bytes_length (width : Nat) (pcm : Bytes) (some : 0 < width) (whole : WholeSamples width pcm) :
    (canonicalBytes width pcm).length = 4 * (pcm.length / width) := by
  have asMap : canonicalBytes width pcm =
      ((offsets width pcm.length).map fun offset => canonicalValue width (sampleAt width pcm offset)).flatMap
        float32Bytes := by
    rw [canonicalBytes, List.flatMap_map]
  rw [asMap, packed_length, List.length_map, offsets_count width pcm.length some whole]

theorem update_whole (hasher : FloatPcmHasher) (pcm : Bytes) (bitDepth : Nat) (depth : bitDepth ∈ [16, 24, 32])
    (whole : WholeSamples (bitDepth / 8) pcm) :
    updateFromPcmBytes hasher pcm bitDepth = .ok (hashed hasher (bitDepth / 8) pcm) := by
  have some : 0 < bitDepth / 8 := by
    simp only [List.mem_cons, List.not_mem_nil, or_false] at depth
    omega
  rw [updateFromPcmBytes, python_bytes pcm bitDepth depth whole]
  simp only [Except.map, updateFromFloatBytes, hashed, canonical_bytes_length _ pcm some whole]
  rw [Nat.mul_div_cancel_left _ (by norm_num)]

theorem update_refuses (hasher : FloatPcmHasher) (pcm : Bytes) (bitDepth : Nat) (depth : bitDepth ∈ [16, 24, 32])
    (ends : ¬ WholeSamples (bitDepth / 8) pcm) : (updateFromPcmBytes hasher pcm bitDepth).toOption = none := by
  have refused := python_refuses pcm bitDepth depth ends
  cases floats : pcmIntBytesToFloatBytes pcm bitDepth with
  | ok bytes => rw [floats] at refused; cases refused
  | error raised => rw [updateFromPcmBytes, floats]; rfl

theorem cpp_answers (hasher : FloatPcmHasher) (pcm : Bytes) (bitDepth : Nat) (depth : bitDepth ∈ [16, 24, 32])
    (whole : WholeSamples (bitDepth / 8) pcm) :
    Cpp.hashCanonicalPcm hasher pcm bitDepth = some (hashed hasher (bitDepth / 8) pcm) := by
  have rest : pcm.length % (bitDepth / 8) = 0 := whole
  simp only [List.mem_cons, List.not_mem_nil, or_false] at depth
  have bits : bitDepth % 8 = 0 ∧ 0 < bitDepth / 8 ∧ bitDepth / 8 ≤ 4 ∧
      (bitDepth / 8 = 2 ∨ bitDepth / 8 = 3 ∨ bitDepth / 8 = 4) := by
    obtain rfl | rfl | rfl := depth <;> decide
  have fed := feed_whole hasher (bitDepth / 8) pcm bits.2.1 whole _
    fun offset => cpp_sample pcm (bitDepth / 8) offset bits.2.1 bits.2.2.1
  rw [Cpp.hashCanonicalPcm, if_neg (by rw [rest, bits.1]; omega), fed]

-- An integer's samples as Rust and Go round them are the canonical values.
theorem rounded_sample (width : Nat) (pcm : Bytes) (offset : Nat) (narrow : width ≤ 4) :
    float32 (float32 (sampleAt width pcm offset) / 2 ^ (8 * width - 1)) =
      canonicalValue width (sampleAt width pcm offset) :=
  rounded_before _ _ (by omega)

theorem rust_answers (hasher : FloatPcmHasher) (pcm : Bytes) (bitDepth : Nat) (depth : bitDepth ∈ [16, 24, 32]) :
    (WholeSamples (bitDepth / 8) pcm →
      (Rust.updateFromPcmBytes hasher pcm bitDepth).toOption = some (hashed hasher (bitDepth / 8) pcm)) ∧
    (Rust.updateFromPcmBytes hasher pcm bitDepth).toOption ≠ none := by
  simp only [List.mem_cons, List.not_mem_nil, or_false] at depth
  obtain rfl | rfl | rfl := depth
  · refine ⟨fun whole => ?_, by simp [Rust.updateFromPcmBytes, Except.toOption]⟩
    have fed := feed_whole hasher 2 pcm (by decide) whole _ fun offset => rounded_sample 2 pcm offset (by decide)
    norm_num at fed
    simp [Rust.updateFromPcmBytes, rust_offsets 2 pcm whole, i16_value, ← sample_two, Rust.asF32Over, Except.toOption,
      fed]
  · refine ⟨fun whole => ?_, by simp [Rust.updateFromPcmBytes, Except.toOption]⟩
    have fed := feed_whole hasher 3 pcm (by decide) whole _ fun offset => rounded_sample 3 pcm offset (by decide)
    norm_num at fed
    simp [Rust.updateFromPcmBytes, rust_offsets 3 pcm whole, i24_value, ← sample_three, Rust.asF32Over,
      Except.toOption, fed]
  · refine ⟨fun whole => ?_, by simp [Rust.updateFromPcmBytes, Except.toOption]⟩
    have fed := feed_whole hasher 4 pcm (by decide) whole _ fun offset => rounded_sample 4 pcm offset (by decide)
    norm_num at fed
    simp [Rust.updateFromPcmBytes, rust_offsets 4 pcm whole, i32_value, ← sample_four, Rust.asF32Over,
      Except.toOption, fed]

theorem go_answers (hasher : FloatPcmHasher) (pcm : Bytes) (bitDepth : Nat) (depth : bitDepth ∈ [16, 24, 32])
    (whole : WholeSamples (bitDepth / 8) pcm) :
    (Go.updateFromPCMBytes hasher pcm bitDepth).toOption = some (hashed hasher (bitDepth / 8) pcm) := by
  simp only [List.mem_cons, List.not_mem_nil, or_false] at depth
  obtain rfl | rfl | rfl := depth
  · have fed := feed_whole hasher 2 pcm (by decide) whole _ fun offset => rounded_sample 2 pcm offset (by decide)
    norm_num at fed
    simp [Go.updateFromPCMBytes, go_offsets 2 pcm (by decide) whole, go_int16_value, ← sample_two, Go.float32Over,
      Except.toOption, fed]
  · have fed := feed_whole hasher 3 pcm (by decide) whole _ fun offset => rounded_sample 3 pcm offset (by decide)
    norm_num at fed
    simp [Go.updateFromPCMBytes, go_offsets 3 pcm (by decide) whole, go_int24_value, i24_value, ← sample_three,
      Go.float32Over, Except.toOption, fed]
  · have fed := feed_whole hasher 4 pcm (by decide) whole _ fun offset => rounded_sample 4 pcm offset (by decide)
    norm_num at fed
    simp [Go.updateFromPCMBytes, go_offsets 4 pcm (by decide) whole, go_int32_value, ← sample_four, Go.float32Over,
      Except.toOption, fed]

-- Python and C++ reject a buffer that ends inside a sample, which Rust and Go hash
-- without its last bytes; on every other buffer the four agree.
theorem canonical_pcm_judged (hasher : FloatPcmHasher) (pcm : Bytes) (bitDepth : Nat)
    (depth : bitDepth ∈ [16, 24, 32]) : Agree hasher pcm bitDepth ↔ WholeSamples (bitDepth / 8) pcm := by
  apply Iff.intro
  · intro agree
    by_contra ends
    have python := update_refuses hasher pcm bitDepth depth ends
    have rust := (rust_answers hasher pcm bitDepth depth).2
    cases agree with
    | inl none => exact rust (congrArg Answers.rust none)
    | inr all =>
        have accepted := congrArg Answers.python all
        rw [answers] at accepted
        simp only [python] at accepted
        cases accepted
  · intro whole
    right
    rw [answers, update_whole hasher pcm bitDepth depth whole, cpp_answers hasher pcm bitDepth depth whole,
      (rust_answers hasher pcm bitDepth depth).1 whole, go_answers hasher pcm bitDepth depth whole]
    rfl

theorem one_sample_agrees : Agree {} [0, 128] 16 := (canonical_pcm_judged {} [0, 128] 16 (by decide)).mpr rfl

-- Three bytes at 16 bits: Python and C++ refuse them, Rust and Go hash one sample.
theorem partial_sample_splits : ¬ Agree {} [1, 2, 3] 16 := by
  intro agree
  cases agree with
  | inl none => exact absurd (congrArg Answers.rust none) (by simp [answers, Rust.updateFromPcmBytes, Except.toOption])
  | inr all =>
      have accepted := congrArg Answers.cpp all
      simp [answers, Cpp.hashCanonicalPcm] at accepted

end Conformance.Audio
