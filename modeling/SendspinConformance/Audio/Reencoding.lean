import Mathlib.Data.Nat.ModEq
import SendspinConformance.Audio.PcmJudged
import SendspinConformance.Base.Runs

set_option autoImplicit false

namespace Conformance.Audio

open Python Base

-- The bytes of a sequence of samples of `width` bytes.
def sampleBytes (width : Nat) (samples : List (BitVec (8 * width))) : Bytes :=
  samples.flatMap fun sample => lowBytes width sample.toNat

-- Each 16-bit sample as a 24-bit one, shifted left by 8.
def widenPcm16To24 (samples : List (BitVec 16)) : Bytes := samples.flatMap fun sample => lowBytes 3 (sample.toNat <<< 8)

theorem little_endian_low_bytes (count number : Nat) : littleEndian (lowBytes count number) = number % 256 ^ count := by
  induction count generalizing number with
  | zero => simp [lowBytes, littleEndian, Nat.mod_one]
  | succ count ih =>
      have byte : (UInt8.ofNat (number % 256)).toNat = number % 256 := by simp
      rw [lowBytes, littleEndian, ih, byte, Nat.pow_succ, Nat.mul_comm (256 ^ count), Nat.mod_mul]

theorem low_bytes_injective (count first second : Nat) (smallFirst : first < 256 ^ count)
    (smallSecond : second < 256 ^ count) (same : lowBytes count first = lowBytes count second) : first = second := by
  have values := congrArg littleEndian same
  rwa [little_endian_low_bytes, little_endian_low_bytes, Nat.mod_eq_of_lt smallFirst,
    Nat.mod_eq_of_lt smallSecond] at values

theorem offsets_append (width first second : Nat) (some : 0 < width) (whole : first % width = 0) :
    offsets width (first + second) = offsets width first ++ (offsets width second).map (first + ·) := by
  obtain ⟨count, rfl⟩ := Nat.dvd_of_mod_eq_zero whole
  have total : width * count + second + width - 1 = second + width - 1 + width * count := by omega
  have counted := offsets_whole width (width * count) some whole
  rw [Nat.mul_div_cancel_left _ some] at counted
  rw [offsets, offsets, offsets, total, Nat.add_mul_div_left _ _ some, counted, Nat.add_comm, List.range_add,
    List.map_append, List.map_map, List.map_map]
  congr 2
  funext place
  simp only [Function.comp_apply]
  rw [Nat.add_mul, Nat.mul_comm count]

theorem offset_within (width length offset : Nat) (whole : length % width = 0) (some : 0 < width)
    (member : offset ∈ offsets width length) : offset + width ≤ length := by
  rw [offsets, offsets_whole width length some whole, List.mem_map] at member
  obtain ⟨place, inRange, rfl⟩ := member
  have before := List.mem_range.mp inRange
  have next : (place + 1) * width ≤ length / width * width := Nat.mul_le_mul_right width before
  have size := Nat.div_mul_le_self length width
  rw [Nat.add_mul, Nat.one_mul] at next
  omega

-- The stretches of `width` bytes a loop over the buffer reads.
def windows (width : Nat) (pcm : Bytes) : List Bytes :=
  (offsets width pcm.length).map fun offset => (pcm.drop offset).take width

-- What is read of a whole buffer does not depend on what follows it.
theorem windows_append (width : Nat) (first second : Bytes) (some : 0 < width) (whole : WholeSamples width first) :
    windows width (first ++ second) = windows width first ++ windows width second := by
  rw [windows, List.length_append, offsets_append width _ _ some whole, List.map_append, windows, windows, List.map_map]
  congr 1
  · apply List.map_congr_left
    intro offset member
    have within := offset_within width _ offset whole some member
    rw [List.drop_append_of_le_length (by omega), List.take_append_of_le_length]
    rw [List.length_drop]
    omega
  · apply List.map_congr_left
    intro offset _
    rw [Function.comp_apply, List.drop_append, List.drop_eq_nil_of_le (by omega), List.nil_append,
      Nat.add_sub_cancel_left]

theorem windows_one (width number : Nat) (some : 0 < width) :
    windows width (lowBytes width number) = [lowBytes width number] := by
  have single : offsets width width = [0] := by
    have count : width + width - 1 = width - 1 + width * 1 := by omega
    rw [offsets, count, Nat.add_mul_div_left _ _ some, Nat.div_eq_of_lt (by omega)]
    simp
  rw [windows, low_bytes_length, single, List.map_singleton, List.drop_zero,
    List.take_of_length_le (low_bytes_length width number).le]

theorem windows_none (width : Nat) (some : 0 < width) : windows width [] = [] := by
  rw [windows, offsets, List.length_nil, Nat.div_eq_of_lt (by omega), List.range_zero]
  rfl

-- Numbers written one after the other are read one after the other.
theorem windows_samples {α : Type} (width : Nat) (samples : List α) (number : α → Nat) (some : 0 < width) :
    WholeSamples width (samples.flatMap fun sample => lowBytes width (number sample)) ∧
    windows width (samples.flatMap fun sample => lowBytes width (number sample)) =
      samples.map fun sample => lowBytes width (number sample) := by
  induction samples with
  | nil => exact ⟨Nat.zero_mod width, windows_none width some⟩
  | cons sample rest ih =>
      have first : WholeSamples width (lowBytes width (number sample)) := by
        rw [WholeSamples, low_bytes_length, Nat.mod_self]
      refine ⟨?_, ?_⟩
      · rw [List.flatMap_cons, WholeSamples, List.length_append, low_bytes_length, Nat.add_mod_left]
        exact ih.1
      · rw [List.flatMap_cons, windows_append width _ _ some first, ih.2, windows_one width _ some, List.map_cons]
        rfl

theorem canonical_bytes_windows (width : Nat) (pcm : Bytes) :
    canonicalBytes width pcm = (windows width pcm).flatMap fun bytes =>
      float32Bytes (canonicalValue width (signed (8 * width) (littleEndian bytes))) := by
  rw [canonicalBytes, windows, List.flatMap_map]
  rfl

theorem canonical_bytes_append (width : Nat) (first second : Bytes) (some : 0 < width)
    (whole : WholeSamples width first) :
    canonicalBytes width (first ++ second) = canonicalBytes width first ++ canonicalBytes width second := by
  simp only [canonical_bytes_windows, windows_append width first second some whole, List.flatMap_append]

theorem canonical_bytes_samples {α : Type} (width : Nat) (samples : List α) (number : α → Nat) (some : 0 < width) :
    canonicalBytes width (samples.flatMap fun sample => lowBytes width (number sample)) =
      samples.flatMap fun sample =>
        float32Bytes (canonicalValue width (signed (8 * width) (number sample % 256 ^ width))) := by
  rw [canonical_bytes_windows, (windows_samples width samples number some).2, List.flatMap_map]
  simp only [little_endian_low_bytes]

theorem expand_windows (pcm : Bytes) (whole : WholeSamples 2 pcm) :
    expandPcm16To32 pcm = .ok ((windows 2 pcm).flatMap fun bytes => ([0, 0] : Bytes) ++ bytes) := by
  have rest : pcm.length % 2 = 0 := whole
  rw [expandPcm16To32, if_neg (not_not.mpr rest), windows, List.flatMap_map, List.flatMap, List.flatMap]
  congr 2
  apply List.map_congr_left
  intro offset member
  have within := offset_within 2 _ offset whole (by decide) member
  have first : byteAt pcm offset = pcm[offset] := by
    rw [byteAt, List.getD_eq_getElem?_getD, List.getElem?_eq_getElem (by omega), Option.getD_some]
  have second : byteAt pcm (offset + 1) = pcm[offset + 1] := by
    rw [byteAt, List.getD_eq_getElem?_getD, List.getElem?_eq_getElem (by omega), Option.getD_some]
  have read : (pcm.drop offset).take 2 = [pcm[offset], pcm[offset + 1]] := by
    rw [List.drop_eq_getElem_cons (by omega), List.take_succ_cons, List.drop_eq_getElem_cons (by omega)]
    rfl
  rw [first, second, read]
  rfl

-- Two zero bytes below a sample multiply it by 2 ^ 16.
theorem shifted_low_bytes (number : Nat) : ([0, 0] : Bytes) ++ lowBytes 2 number = lowBytes 4 (number <<< 16) := by
  have lowest : number <<< 16 % 256 = 0 := by rw [Nat.shiftLeft_eq]; omega
  have next : number <<< 16 / 256 % 256 = 0 := by rw [Nat.shiftLeft_eq]; omega
  have high : number <<< 16 / 256 / 256 = number := by rw [Nat.shiftLeft_eq]; omega
  rw [lowBytes.eq_2 _ 3, lowBytes.eq_2 _ 2, lowest, next, high]
  rfl

-- A shift of the samples moves their values' places with them.
theorem signed_shifted (bits places value : Nat) :
    signed (bits + 1 + places) (value * 2 ^ places) = signed (bits + 1) value * 2 ^ places := by
  have top : bits + 1 + places - 1 = bits + places := by omega
  have positive : 0 < 2 ^ places := Nat.two_pow_pos places
  have scaled : value * 2 ^ places < 2 ^ (bits + places) ↔ value < 2 ^ bits := by
    rw [Nat.pow_add, Nat.mul_lt_mul_right positive]
  rw [signed, signed, top, Nat.add_sub_cancel]
  by_cases low : value < 2 ^ bits
  · rw [if_pos (scaled.mpr low), if_pos low]
    push_cast
    rfl
  · rw [if_neg (mt scaled.mp low), if_neg low, pow_add]
    push_cast
    ring

theorem canonical_value_shifted (width extra value : Nat) (some : 0 < width) :
    canonicalValue (width + extra) (signed (8 * (width + extra)) (value * 2 ^ (8 * extra))) =
      canonicalValue width (signed (8 * width) value) := by
  obtain ⟨bits, size⟩ : ∃ bits, 8 * width = bits + 1 := ⟨8 * width - 1, by omega⟩
  have wide : 8 * (width + extra) = bits + 1 + 8 * extra := by omega
  have top : bits + 1 + 8 * extra - 1 = bits + 8 * extra := by omega
  rw [canonicalValue, canonicalValue, wide, signed_shifted, size, top, Nat.add_sub_cancel, pow_add]
  congr 1
  push_cast
  exact mul_div_mul_right _ _ (by positivity)

-- Samples widened by whole zero bytes below them have the same canonical bytes.
theorem canonical_bytes_widened (extra : Nat) (samples : List (BitVec 16)) :
    canonicalBytes (2 + extra) (samples.flatMap fun sample => lowBytes (2 + extra) (sample.toNat <<< (8 * extra))) =
      canonicalBytes 2 (sampleBytes 2 samples) := by
  rw [sampleBytes, canonical_bytes_samples _ samples _ (by omega), canonical_bytes_samples 2 samples _ (by decide)]
  congr 1
  funext sample
  have small : sample.toNat < 256 ^ 2 := sample.isLt
  have wide : sample.toNat * 2 ^ (8 * extra) < 256 ^ (2 + extra) := by
    have power : (256 : Nat) ^ (2 + extra) = 256 ^ 2 * 2 ^ (8 * extra) := by rw [Nat.pow_add, Nat.pow_mul 2 8]
    rw [power]
    exact Nat.mul_lt_mul_of_pos_right small (Nat.two_pow_pos _)
  rw [Nat.shiftLeft_eq, Nat.mod_eq_of_lt wide, Nat.mod_eq_of_lt small,
    canonical_value_shifted 2 extra sample.toNat (by decide)]

theorem expanded_samples (samples : List (BitVec 16)) :
    expandPcm16To32 (sampleBytes 2 samples) =
      .ok (samples.flatMap fun sample => lowBytes 4 (sample.toNat <<< 16)) := by
  have read := windows_samples 2 samples BitVec.toNat (by decide)
  rw [sampleBytes, expand_windows _ read.1, read.2, List.flatMap_map]
  simp only [shifted_low_bytes]

theorem signed_injective (bits first second : Nat) (smallFirst : first < 2 ^ bits) (smallSecond : second < 2 ^ bits)
    (same : signed bits first = signed bits second) : first = second := by
  have below : (first : Int) < 2 ^ bits := by exact_mod_cast smallFirst
  have below' : (second : Int) < 2 ^ bits := by exact_mod_cast smallSecond
  rw [signed, signed] at same
  split_ifs at same <;> omega

-- A sample of at most 24 bits is taken exactly.
theorem canonical_value_exact (width value : Nat) (some : 0 < width) (narrow : width ≤ 3)
    (small : value < 2 ^ (8 * width)) :
    canonicalValue width (signed (8 * width) value) = (signed (8 * width) value : Rat) / 2 ^ (8 * width - 1) ∧
    Representable .binary32 ((signed (8 * width) value : Rat) / 2 ^ (8 * width - 1)) ∧
    |(signed (8 * width) value : Rat) / 2 ^ (8 * width - 1)| ≤ 1 := by
  obtain ⟨bits, size⟩ : ∃ bits, 8 * width = bits + 1 := ⟨8 * width - 1, by omega⟩
  rw [size] at small ⊢
  have bounded := signed_bounded bits value small
  rw [canonicalValue, size, Nat.add_sub_cancel]
  have within : |signed (bits + 1) value| < 2 ^ 24 :=
    lt_of_le_of_lt bounded (pow_lt_pow_right₀ (by norm_num) (by omega))
  have number : Representable .binary32 ((signed (bits + 1) value : Rat) / 2 ^ bits) := by
    refine ⟨signed (bits + 1) value, -(bits : Int), ?_, within, ?_⟩
    · rw [zpow_neg, zpow_natCast, div_eq_mul_inv]
    · simp only [FloatFormat.binary32]
      omega
  refine ⟨round_to_exact _ number, number, ?_⟩
  have positive : (0 : Rat) < 2 ^ bits := by positivity
  rw [abs_div, abs_of_pos positive, div_le_one positive]
  exact_mod_cast bounded

theorem binary32_bits_below (number : Rat) (isNumber : Representable .binary32 number) (small : |number| ≤ 1) :
    binary32Bits number < 256 ^ 4 := binary32_bits_small number isNumber small

theorem float_bytes_injective (width : Nat) (some : 0 < width) (narrow : width ≤ 3) (first second : BitVec (8 * width))
    (same : float32Bytes (canonicalValue width (signed (8 * width) first.toNat)) =
      float32Bytes (canonicalValue width (signed (8 * width) second.toNat))) : first = second := by
  obtain ⟨exactFirst, numberFirst, smallFirst⟩ := canonical_value_exact width first.toNat some narrow first.isLt
  obtain ⟨exactSecond, numberSecond, smallSecond⟩ := canonical_value_exact width second.toNat some narrow second.isLt
  rw [exactFirst, exactSecond, float32Bytes, float32Bytes] at same
  have bits := low_bytes_injective 4 _ _ (binary32_bits_below _ numberFirst smallFirst)
    (binary32_bits_below _ numberSecond smallSecond) same
  have values := binary32_bits_injective _ _ numberFirst numberSecond smallFirst smallSecond bits
  have numerators : signed (8 * width) first.toNat = signed (8 * width) second.toNat := by
    have positive : (2 : Rat) ^ (8 * width - 1) ≠ 0 := by positivity
    exact_mod_cast (div_left_inj' positive).mp values
  exact BitVec.eq_of_toNat_eq (signed_injective _ _ _ first.isLt second.isLt numerators)

theorem canonical_bytes_injective (width : Nat) (some : 0 < width) (narrow : width ≤ 3)
    (first second : List (BitVec (8 * width)))
    (same : canonicalBytes width (sampleBytes width first) = canonicalBytes width (sampleBytes width second)) :
    first = second := by
  have small (sample : BitVec (8 * width)) : sample.toNat % 256 ^ width = sample.toNat := by
    rw [Nat.mod_eq_of_lt]
    have bound := sample.isLt
    rwa [Nat.pow_mul] at bound
  rw [sampleBytes, sampleBytes, canonical_bytes_samples width first _ some,
    canonical_bytes_samples width second _ some] at same
  simp only [small] at same
  have size (sample : BitVec (8 * width)) :
      (float32Bytes (canonicalValue width (signed (8 * width) sample.toNat))).length = 4 := low_bytes_length 4 _
  induction first generalizing second with
  | nil =>
      cases second with
      | nil => rfl
      | cons sample rest =>
          have lengths := congrArg List.length same
          rw [List.flatMap_cons, List.length_append, size, List.flatMap_nil, List.length_nil] at lengths
          omega
  | cons sample rest ih =>
      cases second with
      | nil =>
          have lengths := congrArg List.length same
          rw [List.flatMap_cons, List.length_append, size, List.flatMap_nil, List.length_nil] at lengths
          omega
      | cons sample' rest' =>
          rw [List.flatMap_cons, List.flatMap_cons] at same
          have parts := List.append_inj same ((size sample).trans (size sample').symm)
          rw [float_bytes_injective width some narrow sample sample' parts.1, ih rest' parts.2]

-- The stretches of a buffer cut at every `width` bytes are the buffer.
theorem windows_flatten (width : Nat) (pcm : Bytes) (some : 0 < width) : (windows width pcm).flatten = pcm := by
  induction size : pcm.length using Nat.strongRecOn generalizing pcm with
  | ind length ih =>
      by_cases short : pcm.length ≤ width
      · cases pcm with
        | nil => rw [windows_none width some]; rfl
        | cons byte rest =>
            have single : offsets width (rest.length + 1) = [0] := by
              have count : (rest.length + 1 + width - 1) / width = 1 := by
                rw [Nat.div_eq_iff some]
                rw [List.length_cons] at short
                omega
              rw [offsets, count]
              simp
            rw [windows, List.length_cons, single, List.map_singleton, List.drop_zero, List.take_of_length_le short]
            simp
      · have front : (pcm.take width).length = width := List.length_take_of_le (by omega)
        have whole : WholeSamples width (pcm.take width) := by rw [WholeSamples, front, Nat.mod_self]
        have alone : (windows width (pcm.take width)).flatten = pcm.take width :=
          ih width (by omega) (pcm.take width) front
        have rest : (windows width (pcm.drop width)).flatten = pcm.drop width :=
          ih (length - width) (by omega) (pcm.drop width) (by rw [List.length_drop, size])
        conv_lhs => rw [← List.take_append_drop width pcm]
        rw [windows_append width _ _ some whole, List.flatten_append, alone, rest, List.take_append_drop]

theorem whole_slice (width : Nat) (pcm : Bytes) (offset size : Nat) (whole : WholeSamples width pcm)
    (wholeOffset : offset % width = 0) (wholeSize : size % width = 0) :
    WholeSamples width ((pcm.drop offset).take size) := by
  have rest : pcm.length % width = 0 := whole
  rw [WholeSamples, List.length_take, List.length_drop]
  cases Nat.le_total size (pcm.length - offset) with
  | inl within => rw [Nat.min_eq_left within, wholeSize]
  | inr beyond =>
      rw [Nat.min_eq_right beyond]
      exact Nat.mod_eq_zero_of_dvd (Nat.dvd_sub (Nat.dvd_of_mod_eq_zero rest) (Nat.dvd_of_mod_eq_zero wholeOffset))

-- Samples fed in pieces are hashed and counted as fed at once.
theorem feed_pieces (hasher : FloatPcmHasher) (bitDepth : Nat) (pieces : List Bytes) (depth : bitDepth ∈ [16, 24, 32])
    (whole : ∀ piece ∈ pieces, WholeSamples (bitDepth / 8) piece) :
    WholeSamples (bitDepth / 8) pieces.flatten ∧
    pieces.foldlM (fun state piece => updateFromPcmBytes state piece bitDepth) hasher =
      .ok (hashed hasher (bitDepth / 8) pieces.flatten) := by
  have some : 0 < bitDepth / 8 := by
    simp only [List.mem_cons, List.not_mem_nil, or_false] at depth
    omega
  induction pieces generalizing hasher with
  | nil =>
      refine ⟨Nat.zero_mod _, ?_⟩
      have silent : canonicalBytes (bitDepth / 8) [] = [] := by
        rw [canonical_bytes_windows, windows_none _ some]
        rfl
      rw [List.flatten_nil, hashed, silent, List.append_nil, List.length_nil, Nat.zero_div, Nat.add_zero]
      rfl
  | cons piece rest ih =>
      have first : WholeSamples (bitDepth / 8) piece := whole piece List.mem_cons_self
      obtain ⟨others, fed⟩ := ih (hashed hasher (bitDepth / 8) piece)
        fun other member => whole other (List.mem_cons_of_mem piece member)
      have step := update_whole hasher piece bitDepth depth first
      refine ⟨?_, ?_⟩
      · rw [List.flatten_cons, WholeSamples, List.length_append, Nat.add_mod, first, others, Nat.zero_add,
          Nat.zero_mod]
      · rw [List.foldlM_cons, step]
        refine fed.trans ?_
        rw [List.flatten_cons, hashed, hashed, hashed, canonical_bytes_append _ _ _ some first, List.append_assoc,
          List.length_append, Nat.add_div_of_dvd_right (Nat.dvd_of_mod_eq_zero first), Nat.add_assoc]

-- What iterPcmBlocks cuts a whole buffer into.
theorem blocks_whole (pcm : Bytes) (sampleRate channels bitDepth blockMs : Nat) (blocks : List (Bytes × Nat))
    (whole : WholeSamples (bitDepth / 8) pcm) (cut : iterPcmBlocks pcm sampleRate channels bitDepth blockMs = .ok blocks) :
    (blocks.map Prod.fst).flatten = pcm ∧ ∀ block ∈ blocks.map Prod.fst, WholeSamples (bitDepth / 8) block := by
  rw [iterPcmBlocks] at cut
  cases counted : framesPerBlock sampleRate blockMs with
  | error raised => rw [counted] at cut; cases cut
  | ok frames =>
      rw [counted] at cut
      simp only [bind, Except.bind] at cut
      generalize sized : frames * (channels * (bitDepth / 8)) = bytesPerBlock at cut
      by_cases none : bytesPerBlock = 0
      · rw [if_pos none] at cut
        cases cut
      · rw [if_neg none] at cut
        have slices : blocks.map Prod.fst = windows bytesPerBlock pcm := by
          refine map_steps_view _ Prod.fst _ ?_ _ blocks cut
          intro offset block made
          split at made
          · cases made
          · cases made
            rfl
        have wholeBlock : bytesPerBlock % (bitDepth / 8) = 0 := by
          rw [← sized, ← Nat.mul_assoc]
          exact Nat.mul_mod_left _ _
        rw [slices]
        refine ⟨windows_flatten bytesPerBlock pcm (Nat.pos_of_ne_zero none), ?_⟩
        intro block member
        obtain ⟨offset, visited, rfl⟩ := List.mem_map.mp member
        obtain ⟨place, _, rfl⟩ := List.mem_map.mp visited
        refine whole_slice _ pcm _ _ whole ?_ wholeBlock
        exact Nat.mod_eq_zero_of_dvd ((Nat.dvd_of_mod_eq_zero wholeBlock).mul_left place)

example : iterPcmBlocks [1, 2, 3, 4, 5, 6] 100 1 16 20 = .ok [([1, 2, 3, 4], 20000), ([5, 6], 10000)] := by
  decide +kernel

-- The hasher has taken in the canonical bytes of these samples, and nothing else.
structure Fed (hasher : FloatPcmHasher) (bitDepth : Nat) (pcm : Bytes) (final : FloatPcmHasher) : Prop where
  stream : final.stream = hasher.stream ++ canonicalBytes (bitDepth / 8) pcm
  counted : final.sampleCount = hasher.sampleCount + pcm.length / (bitDepth / 8)

-- Widened samples keep their canonical bytes, no two sequences of at most 24 bits share
-- theirs, and a buffer fed in whole pieces is hashed as it is fed at once.
theorem canonical_pcm_reencoded :
    (∀ samples : List (BitVec 16), ∃ wide floats, expandPcm16To32 (sampleBytes 2 samples) = .ok wide ∧
      pcmIntBytesToFloatBytes (sampleBytes 2 samples) 16 = .ok floats ∧
      pcmIntBytesToFloatBytes wide 32 = .ok floats ∧
      pcmIntBytesToFloatBytes (widenPcm16To24 samples) 24 = .ok floats) ∧
    (∀ first second : List (BitVec 16),
      pcmIntBytesToFloatBytes (sampleBytes 2 first) 16 = pcmIntBytesToFloatBytes (sampleBytes 2 second) 16 →
      first = second) ∧
    (∀ first second : List (BitVec 24),
      pcmIntBytesToFloatBytes (sampleBytes 3 first) 24 = pcmIntBytesToFloatBytes (sampleBytes 3 second) 24 →
      first = second) ∧
    (∀ bitDepth ∈ [16, 24, 32], ∀ (pieces : List Bytes) (hasher : FloatPcmHasher),
      (∀ piece ∈ pieces, WholeSamples (bitDepth / 8) piece) →
      ∃ final, Fed hasher bitDepth pieces.flatten final ∧
        updateFromPcmBytes hasher pieces.flatten bitDepth = .ok final ∧
        pieces.foldlM (fun state piece => updateFromPcmBytes state piece bitDepth) hasher = .ok final) ∧
    (∀ bitDepth ∈ [16, 24, 32], ∀ (pcm : Bytes) (sampleRate channels blockMs : Nat) (blocks : List (Bytes × Nat))
      (hasher : FloatPcmHasher), WholeSamples (bitDepth / 8) pcm → 0 < sampleRate → 0 < channels → 0 < blockMs →
      iterPcmBlocks pcm sampleRate channels bitDepth blockMs = .ok blocks →
      ∃ final, Fed hasher bitDepth pcm final ∧ updateFromPcmBytes hasher pcm bitDepth = .ok final ∧
        (blocks.map Prod.fst).foldlM (fun state piece => updateFromPcmBytes state piece bitDepth) hasher =
          .ok final) := by
  have whole (width : Nat) (some : 0 < width) (samples : List (BitVec (8 * width))) :
      WholeSamples width (sampleBytes width samples) := (windows_samples width samples BitVec.toNat some).1
  have pieced : ∀ bitDepth ∈ [16, 24, 32], ∀ (pieces : List Bytes) (hasher : FloatPcmHasher),
      (∀ piece ∈ pieces, WholeSamples (bitDepth / 8) piece) →
      ∃ final, Fed hasher bitDepth pieces.flatten final ∧
        updateFromPcmBytes hasher pieces.flatten bitDepth = .ok final ∧
        pieces.foldlM (fun state piece => updateFromPcmBytes state piece bitDepth) hasher = .ok final := by
    intro bitDepth depth pieces hasher all
    obtain ⟨flat, fed⟩ := feed_pieces hasher bitDepth pieces depth all
    exact ⟨_, ⟨rfl, rfl⟩, update_whole hasher _ bitDepth depth flat, fed⟩
  refine ⟨?_, ?_, ?_, pieced, ?_⟩
  · intro samples
    have wholeWide := (windows_samples 4 samples (fun sample => sample.toNat <<< 16) (by decide)).1
    have wholeMiddle := (windows_samples 3 samples (fun sample => sample.toNat <<< 8) (by decide)).1
    refine ⟨_, canonicalBytes 2 (sampleBytes 2 samples), expanded_samples samples, ?_, ?_, ?_⟩
    · exact python_bytes _ 16 (by decide) (whole 2 (by decide) samples)
    · rw [python_bytes _ 32 (by decide) wholeWide]
      exact congrArg Except.ok (canonical_bytes_widened 2 samples)
    · rw [widenPcm16To24, python_bytes _ 24 (by decide) wholeMiddle]
      exact congrArg Except.ok (canonical_bytes_widened 1 samples)
  · intro first second same
    rw [python_bytes _ 16 (by decide) (whole 2 (by decide) first),
      python_bytes _ 16 (by decide) (whole 2 (by decide) second)] at same
    injection same with bytes
    exact canonical_bytes_injective 2 (by decide) (by decide) first second bytes
  · intro first second same
    rw [python_bytes _ 24 (by decide) (whole 3 (by decide) first),
      python_bytes _ 24 (by decide) (whole 3 (by decide) second)] at same
    injection same with bytes
    exact canonical_bytes_injective 3 (by decide) (by decide) first second bytes
  · intro bitDepth depth pcm sampleRate channels blockMs blocks hasher wholePcm _ _ _ cut
    obtain ⟨flat, all⟩ := blocks_whole pcm sampleRate channels bitDepth blockMs blocks wholePcm cut
    have fed := pieced bitDepth depth (blocks.map Prod.fst) hasher all
    rwa [flat] at fed

end Conformance.Audio
