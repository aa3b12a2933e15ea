import SendspinConformance.Audio.Pcm

set_option autoImplicit false

namespace Conformance.Audio

open Python Base

-- SHA-256 of some bytes, in lowercase hex.
variable (sha256Hex : Bytes → String)

-- A float cut to an integer, towards zero.
def truncated (number : Rat) : Int := if 0 ≤ number then ⌊number⌋ else ⌈number⌉

-- sample_rate * max_duration_seconds, an integer times a float
def limitProduct (sampleRate : Nat) (seconds : Rat) : Rat := float64 (float64 sampleRate * seconds)

-- conformance.flac

structure DecodedFixture where
  path : String
  pcmBytes : Bytes
  sampleRate : Nat
  channels : Nat
  bitDepth : Nat
  frameCount : Int
  durationSeconds : Rat
  sourceFlacSha256 : String
  sourcePcmSha256 : String

-- frame_count / sample_rate if sample_rate else 0.0
def durationSeconds (frameCount : Int) (sampleRate : Nat) : Rat :=
  if sampleRate = 0 then 0 else float64 (frameCount / sampleRate)

def trimFixtureToFrameMultiple (fixture : DecodedFixture) (frameSamples : Int) : Py (DecodedFixture × Int) :=
  if frameSamples ≤ 0 then .ok (fixture, 0)
  else
    let trimmedFrames := fixture.frameCount % frameSamples
    if trimmedFrames = 0 then .ok (fixture, 0)
    else do
      let keptFrames := fixture.frameCount - trimmedFrames
      let bytesPerFrame := fixture.channels * (fixture.bitDepth / 8)
      let pcmBytes := fixture.pcmBytes.take (keptFrames.toNat * bytesPerFrame)
      let hasher ← updateFromPcmBytes {} pcmBytes fixture.bitDepth
      .ok ({ fixture with
        pcmBytes := pcmBytes
        frameCount := keptFrames
        durationSeconds := durationSeconds keptFrames fixture.sampleRate
        sourcePcmSha256 := sha256Hex hasher.stream }, trimmedFrames)

-- What the container says of its audio stream, where 0 stands for nothing said.
structure AudioStream where
  codecSampleRate : Nat
  sampleRate : Nat
  codecChannels : Nat

-- A frame the resampler gives: its samples, and the plane they stand at the front of.
structure OutFrame where
  samples : Nat
  plane : Bytes

structure Gathered where
  pcmParts : List Bytes := []
  frameCount : Int := 0
  hasher : FloatPcmHasher := {}

def Gathered.add (gathered : Gathered) (pcm : Bytes) (samples : Int) : Py Gathered := do
  let hasher ← updateFromPcmBytes gathered.hasher pcm 16
  .ok ⟨gathered.pcmParts ++ [pcm], gathered.frameCount + samples, hasher⟩

-- The frames decoded, up to a limit.
def gatherFrames (layoutChannels : Nat) (maxFrames : Option Int) (gathered : Gathered) : List OutFrame → Py Gathered
  | [] => .ok gathered
  | frame :: rest => do
      let pcm := frame.plane.take (frame.samples * layoutChannels * 2)
      match maxFrames with
      | none => gatherFrames layoutChannels none (← gathered.add pcm frame.samples) rest
      | some limit =>
          let remainingFrames := limit - gathered.frameCount
          if limit < gathered.frameCount + frame.samples ∧ remainingFrames ≤ 0 then .ok gathered
          else
            let next ←
              if limit < gathered.frameCount + frame.samples then
                gathered.add (pcm.take (remainingFrames.toNat * layoutChannels * 2)) remainingFrames
              else gathered.add pcm frame.samples
            if limit ≤ next.frameCount then .ok next else gatherFrames layoutChannels (some limit) next rest

-- int(sample_rate * max_duration_seconds), where a product too large is infinite
def maxFramesOf (sampleRate : Nat) (maxDurationSeconds : Option Rat) : Py (Option Int) :=
  match maxDurationSeconds with
  | none => .ok none
  | some seconds =>
      if 2 ^ 1024 ≤ |limitProduct sampleRate seconds| then
        .error ⟨"OverflowError", "cannot convert float infinity to integer"⟩
      else .ok (some (truncated (limitProduct sampleRate seconds)))

def decodeFixture (path : String) (file : Bytes) (stream : AudioStream) (outFrames : List OutFrame)
    (maxDurationSeconds : Option Rat) : Py DecodedFixture := do
  let sampleRate :=
    if stream.codecSampleRate ≠ 0 then stream.codecSampleRate
    else if stream.sampleRate ≠ 0 then stream.sampleRate
    else 44100
  let channels := if stream.codecChannels ≠ 0 then stream.codecChannels else 2
  let layoutChannels := if channels = 2 then 2 else 1
  let maxFrames ← maxFramesOf sampleRate maxDurationSeconds
  let gathered ← gatherFrames layoutChannels maxFrames {} outFrames
  .ok
    { path := path
      pcmBytes := gathered.pcmParts.flatten
      sampleRate := sampleRate
      channels := channels
      bitDepth := 16
      frameCount := gathered.frameCount
      durationSeconds := durationSeconds gathered.frameCount sampleRate
      sourceFlacSha256 := sha256Hex file
      sourcePcmSha256 := sha256Hex gathered.hasher.stream }

namespace Cpp

structure Fixture where
  path : String
  samples : List (BitVec 16) := []
  sampleRate : Nat := 0
  channels : Nat := 0
  frameCount : Nat := 0
  sourceFlacSha256 : String
  sourcePcmSha256 : String := ""

-- What one call of the decoder gives; a block's samples are left-justified.
inductive FLACDecoderResult where
  | headerReady (sampleRate numChannels : Nat)
  | success (block : List (BitVec 32))
  | needMoreData
  | endOfStream
  | failed (code : Int)

-- An exception, or a step the language leaves undefined.
inductive Stop where
  | thrown (what : String)
  | undefined

-- static_cast<uint64_t>(number), undefined for what it cannot hold
def toUint64 (number : Rat) : Except Stop Nat :=
  if 0 ≤ truncated number ∧ truncated number < 2 ^ 64 then .ok (truncated number).toNat else .error .undefined

-- static_cast<int16_t>(value >> 16)
def topBits (value : BitVec 32) : BitVec 16 := (value.sshiftRight 16).setWidth 16

-- The fixture and the limit once the decoder has stopped; the file's end is the list's.
def decodeLoop (maxSeconds : Rat) (fixture : Fixture) (maxFrames : Nat) :
    List FLACDecoderResult → Except Stop (Fixture × Nat)
  | [] => .ok (fixture, maxFrames)
  | .headerReady sampleRate numChannels :: rest => do
      let limit ← toUint64 (limitProduct sampleRate maxSeconds)
      decodeLoop maxSeconds { fixture with sampleRate := sampleRate, channels := numChannels % 2 ^ 8 } limit rest
  | .success block :: rest =>
      let samples := fixture.samples ++ block.map topBits
      if fixture.channels = 0 then .error .undefined
      else if samples.length / fixture.channels ≥ maxFrames then .ok ({ fixture with samples := samples }, maxFrames)
      else decodeLoop maxSeconds { fixture with samples := samples } maxFrames rest
  | .needMoreData :: rest => decodeLoop maxSeconds fixture maxFrames rest
  | .endOfStream :: _ => .ok (fixture, maxFrames)
  | .failed code :: _ =>
      .error (.thrown ("cannot decode fixture " ++ fixture.path ++ ": micro-flac error " ++ toString code))

-- The little-endian float32 of each sample over 32768.
def canonicalPcm (samples : List (BitVec 16)) : Bytes :=
  samples.flatMap fun sample => float32Bytes (float32 (float32 sample.toInt / 32768))

def decodeFixture (path : String) (file : Bytes) (results : List FLACDecoderResult) (maxSeconds : Rat) :
    Except Stop Fixture := do
  let decoded ← decodeLoop maxSeconds { path := path, sourceFlacSha256 := sha256Hex file } 0 results
  let fixture := decoded.1
  if fixture.channels = 0 ∨ fixture.samples = [] then
    .error (.thrown ("fixture " ++ path ++ " decoded to no audio"))
  else
    -- a product of two 64-bit numbers
    let samples := fixture.samples.take (decoded.2 * fixture.channels % 2 ^ 64)
    .ok { fixture with
      samples := samples
      frameCount := samples.length / fixture.channels
      sourcePcmSha256 := sha256Hex (canonicalPcm samples) }

end Cpp

end Conformance.Audio
