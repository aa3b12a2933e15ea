import Mathlib.Data.Int.Bitwise
import SendspinConformance.Base.Rounding
import SendspinConformance.Python.Json

set_option autoImplicit false

namespace Conformance.Audio

open Python Base

abbrev Bytes := List UInt8

-- The stream a SHA-256 hash has been fed, and the samples counted beside it.
structure FloatPcmHasher where
  stream : Bytes := []
  sampleCount : Nat := 0
deriving DecidableEq, Repr

-- The offsets a loop from 0 up to `stop` in steps of `step` visits.
def offsets (step stop : Nat) : List Nat := (List.range ((stop + step - 1) / step)).map (· * step)

def byteAt (pcm : Bytes) (offset : Nat) : UInt8 := pcm.getD offset 0

def float32 (number : Rat) : Rat := roundTo .binary32 number

def float64 (number : Rat) : Rat := roundTo .binary64 number

-- A number's `count` low bytes, the lowest first.
def lowBytes : Nat → Nat → Bytes
  | 0, _ => []
  | count + 1, number => UInt8.ofNat (number % 256) :: lowBytes count (number / 256)

-- The four bytes of a binary32 number, little-endian.
def float32Bytes (number : Rat) : Bytes := lowBytes 4 (binary32Bits number)

-- A little-endian number in two's complement.
def littleEndian : Bytes → Nat
  | [] => 0
  | byte :: rest => byte.toNat + 256 * littleEndian rest

def signed (bits value : Nat) : Int := if value < 2 ^ (bits - 1) then value else (value : Int) - 2 ^ bits

-- conformance.pcm

-- struct.unpack(f"<{len(pcm) // width}h", pcm), or `i` for four bytes
def structUnpack (width : Nat) (pcm : Bytes) : Py (List Int) :=
  let size := pcm.length / width * width
  if pcm.length ≠ size then .error ⟨"error", "unpack requires a buffer of " ++ toString size ++ " bytes"⟩
  else .ok ((offsets width pcm.length).map fun offset => signed (8 * width) (littleEndian ((pcm.drop offset).take width)))

-- number / divisor, for an int and a float
def divided (number : Int) (divisor : Rat) : Rat := float64 (float64 number / divisor)

-- struct.pack(f"<{len(floats)}f", *floats)
def structPack (floats : List Rat) : Bytes := floats.flatMap fun number => float32Bytes (float32 number)

def pcm24Value (pcm : Bytes) (offset : Nat) : Int :=
  let value := (byteAt pcm offset).toNat ||| (byteAt pcm (offset + 1)).toNat <<< 8 |||
    (byteAt pcm (offset + 2)).toNat <<< 16
  if value &&& 0x800000 ≠ 0 then Int.lor value (Int.lnot 0xFFFFFF) else value

def pcmIntBytesToFloatBytes (pcm : Bytes) (bitDepth : Nat) : Py Bytes :=
  if bitDepth = 16 then
    (structUnpack 2 pcm).map fun ints => structPack (ints.map (divided · 32768))
  else if bitDepth = 24 then
    if pcm.length % 3 ≠ 0 then
      .error ⟨"ValueError", "PCM buffer of " ++ toString pcm.length ++ " bytes is not a whole number of 24-bit samples"⟩
    else .ok (structPack ((offsets 3 pcm.length).map fun offset => divided (pcm24Value pcm offset) 8388608))
  else if bitDepth = 32 then
    (structUnpack 4 pcm).map fun ints => structPack (ints.map (divided · 2147483648))
  else .error ⟨"ValueError", "Unsupported PCM bit depth: " ++ toString bitDepth⟩

def updateFromFloatBytes (hasher : FloatPcmHasher) (floatBytes : Bytes) : FloatPcmHasher :=
  ⟨hasher.stream ++ floatBytes, hasher.sampleCount + floatBytes.length / 4⟩

-- FloatPcmHasher.update_from_pcm_bytes of conformance.pcm
def updateFromPcmBytes (hasher : FloatPcmHasher) (pcm : Bytes) (bitDepth : Nat) : Py FloatPcmHasher :=
  (pcmIntBytesToFloatBytes pcm bitDepth).map (updateFromFloatBytes hasher)

-- Feeding the samples one at a time, each as the float it is taken for.
def feedSamples (hasher : FloatPcmHasher) (samples : List Rat) : FloatPcmHasher :=
  samples.foldl (fun state sample => ⟨state.stream ++ float32Bytes sample, state.sampleCount + 1⟩) hasher

namespace Cpp

-- One sample of hash_canonical_pcm: uint32_t bits, int64_t value, double division.
def sampleAt (pcm : Bytes) (width offset : Nat) : Rat :=
  let bits := (List.range width).foldl (fun bits i => bits ||| (byteAt pcm (offset + i)).toNat <<< (8 * i)) 0
  let signBit := 1 <<< (width * 8 - 1)
  let value : Int := if bits &&& signBit ≠ 0 then (bits : Int) - (signBit <<< 1 : Nat) else bits
  let scale := float64 (2 ^ (width * 8 - 1))
  float32 (float64 (float64 value / scale))

-- The hasher after the call, and the samples hashed, or none where the buffer is refused.
def hashCanonicalPcm (hasher : FloatPcmHasher) (pcm : Bytes) (bitDepth : Nat) : Option FloatPcmHasher :=
  let width := bitDepth / 8
  if (width ≠ 2 ∧ width ≠ 3 ∧ width ≠ 4) ∨ bitDepth % 8 ≠ 0 ∨ pcm.length % width ≠ 0 then none
  else some (feedSamples hasher ((offsets width pcm.length).map (sampleAt pcm width)))

end Cpp

namespace Rust

-- i16::from_le_bytes
def i16FromLeBytes (b0 b1 : UInt8) : Int := (b1.toBitVec ++ b0.toBitVec).toInt

def i24Value (b0 b1 b2 : UInt8) : Int :=
  let value := b0.toBitVec.setWidth 32 ||| b1.toBitVec.setWidth 32 <<< 8 ||| b2.toBitVec.setWidth 32 <<< 16
  if value &&& 0x800000#32 ≠ 0 then (value ||| ~~~0x00FFFFFF#32).toInt else value.toInt

-- i32::from_le_bytes
def i32FromLeBytes (b0 b1 b2 b3 : UInt8) : Int :=
  (b3.toBitVec ++ b2.toBitVec ++ b1.toBitVec ++ b0.toBitVec).toInt

-- value as f32 / divisor
def asF32Over (value : Int) (divisor : Rat) : Rat := float32 (float32 value / divisor)

-- pcm.chunks_exact(width), by where each chunk starts
def chunksExact (width : Nat) (pcm : Bytes) : List Nat := offsets width (pcm.length / width * width)

def updateFromPcmBytes (hasher : FloatPcmHasher) (pcm : Bytes) (bitDepth : Nat) : Except String FloatPcmHasher :=
  let byte := byteAt pcm
  if bitDepth = 16 then
    .ok (feedSamples hasher ((chunksExact 2 pcm).map fun i => asF32Over (i16FromLeBytes (byte i) (byte (i + 1))) 32768))
  else if bitDepth = 24 then
    .ok (feedSamples hasher
      ((chunksExact 3 pcm).map fun i => asF32Over (i24Value (byte i) (byte (i + 1)) (byte (i + 2))) 8388608))
  else if bitDepth = 32 then
    .ok (feedSamples hasher ((chunksExact 4 pcm).map fun i =>
      asF32Over (i32FromLeBytes (byte i) (byte (i + 1)) (byte (i + 2)) (byte (i + 3))) 2147483648))
  else .error ("Unsupported PCM bit depth: " ++ toString bitDepth)

end Rust

namespace Go

def int16Value (b0 b1 : UInt8) : Int := (b0.toBitVec.setWidth 16 ||| b1.toBitVec.setWidth 16 <<< 8).toInt

def int24Value (b0 b1 b2 : UInt8) : Int :=
  let value := b0.toBitVec.setWidth 32 ||| b1.toBitVec.setWidth 32 <<< 8 ||| b2.toBitVec.setWidth 32 <<< 16
  if value &&& 0x800000#32 ≠ 0 then (value ||| ~~~0x00ffffff#32).toInt else value.toInt

def int32Value (b0 b1 b2 b3 : UInt8) : Int :=
  (b0.toBitVec.setWidth 32 ||| b1.toBitVec.setWidth 32 <<< 8 ||| b2.toBitVec.setWidth 32 <<< 16 |||
    b3.toBitVec.setWidth 32 <<< 24).toInt

-- float32(value) / divisor
def float32Over (value : Int) (divisor : Rat) : Rat := float32 (float32 value / divisor)

-- for offset := 0; offset+width-1 < len(pcm); offset += width
def wholeOffsets (width : Nat) (pcm : Bytes) : List Nat := offsets width (pcm.length - (width - 1))

def updateFromPCMBytes (hasher : FloatPcmHasher) (pcm : Bytes) (bitDepth : Nat) : Except String FloatPcmHasher :=
  let byte := byteAt pcm
  if bitDepth = 16 then
    .ok (feedSamples hasher ((wholeOffsets 2 pcm).map fun i => float32Over (int16Value (byte i) (byte (i + 1))) 32768))
  else if bitDepth = 24 then
    .ok (feedSamples hasher
      ((wholeOffsets 3 pcm).map fun i => float32Over (int24Value (byte i) (byte (i + 1)) (byte (i + 2))) 8388608))
  else if bitDepth = 32 then
    .ok (feedSamples hasher ((wholeOffsets 4 pcm).map fun i =>
      float32Over (int32Value (byte i) (byte (i + 1)) (byte (i + 2)) (byte (i + 3))) 2147483648))
  else .error ("unsupported PCM bit depth: " ++ toString bitDepth)

end Go

-- aiosendspin_server

-- _expand_pcm_16_to_32: each sample behind two zero bytes. A slice of another length
-- cannot be assigned to the output's.
def expandPcm16To32 (pcm16 : Bytes) : Py Bytes :=
  if pcm16.length % 2 ≠ 0 then .error ⟨"ValueError", "attempt to assign bytes of size " ++
    toString (pcm16.length / 2 + 1) ++ " to extended slice of size " ++ toString (pcm16.length / 2)⟩
  else .ok ((offsets 2 pcm16.length).flatMap fun i => [0, 0, byteAt pcm16 i, byteAt pcm16 (i + 1)])

-- float(number), for an int
def toFloat (number : Nat) : Py Rat :=
  if 2 ^ 1024 ≤ float64 number then .error ⟨"OverflowError", "int too large to convert to float"⟩
  else .ok (float64 number)

-- max(1, round(sample_rate * (block_ms / 1000.0))), where a product too large is infinite
def framesPerBlock (sampleRate blockMs : Nat) : Py Nat := do
  let milliseconds ← toFloat blockMs
  let rate ← toFloat sampleRate
  let frames := float64 (rate * float64 (milliseconds / 1000))
  if 2 ^ 1024 ≤ frames then .error ⟨"OverflowError", "cannot convert float infinity to integer"⟩
  else .ok (max 1 (nearestEven frames).toNat)

-- int(frame_count * 1_000_000 / sample_rate)
def durationUs (frameCount sampleRate : Nat) : Py Nat :=
  if sampleRate = 0 then .error ⟨"ZeroDivisionError", "division by zero"⟩
  else
    let microseconds := float64 (frameCount * 1000000 / sampleRate : Rat)
    if 2 ^ 1024 ≤ microseconds then .error ⟨"OverflowError", "integer division result too large for a float"⟩
    else .ok ⌊microseconds⌋.toNat

def iterPcmBlocks (pcm : Bytes) (sampleRate channels bitDepth blockMs : Nat) : Py (List (Bytes × Nat)) := do
  let bytesPerFrame := channels * (bitDepth / 8)
  let bytesPerBlock := (← framesPerBlock sampleRate blockMs) * bytesPerFrame
  if bytesPerBlock = 0 then .error ⟨"ValueError", "range() arg 3 must not be zero"⟩
  else (offsets bytesPerBlock pcm.length).mapM fun offset => do
    let chunk := (pcm.drop offset).take bytesPerBlock
    .ok (chunk, ← durationUs (chunk.length / bytesPerFrame) sampleRate)

end Conformance.Audio
