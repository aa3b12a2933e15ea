import SendspinConformance.Audio.Fixture
import SendspinConformance.Audio.Reencoding

set_option autoImplicit false

namespace Conformance.Audio

open Python Base

-- Samples as s16le bytes, and as the bytes they are hashed as.
def s16Bytes (samples : List (BitVec 16)) : Bytes := samples.flatMap fun sample => lowBytes 2 sample.toNat

def hashedBytes (samples : List (BitVec 16)) : Bytes :=
  samples.flatMap fun sample => float32Bytes (canonicalValue 2 sample.toInt)

section samples

theorem s16_bytes_length (samples : List (BitVec 16)) : (s16Bytes samples).length = samples.length * 2 := by
  induction samples with
  | nil => rfl
  | cons sample rest ih =>
      rw [s16Bytes, List.flatMap_cons, List.length_append, low_bytes_length, ← s16Bytes, ih, List.length_cons]
      ring

theorem s16_bytes_take (samples : List (BitVec 16)) (count : Nat) :
    (s16Bytes samples).take (count * 2) = s16Bytes (samples.take count) := by
  induction samples generalizing count with
  | nil => simp [s16Bytes]
  | cons sample rest ih =>
      cases count with
      | zero => simp [s16Bytes]
      | succ count =>
          have first : (lowBytes 2 sample.toNat).length = 2 := low_bytes_length 2 sample.toNat
          rw [List.take_succ_cons, s16Bytes, List.flatMap_cons, s16Bytes, List.flatMap_cons, ← s16Bytes, ← s16Bytes,
            List.take_append, first, show (count + 1) * 2 - 2 = count * 2 by omega, ih,
            List.take_of_length_le (by rw [first]; omega)]

theorem s16_bytes_whole (samples : List (BitVec 16)) : WholeSamples 2 (s16Bytes samples) :=
  (windows_samples 2 samples BitVec.toNat (by decide)).1

theorem s16_bytes_hashed (samples : List (BitVec 16)) : canonicalBytes 2 (s16Bytes samples) = hashedBytes samples := by
  rw [s16Bytes, canonical_bytes_samples 2 samples BitVec.toNat (by decide), hashedBytes]
  congr 1
  funext sample
  have small : sample.toNat < 256 ^ 2 := sample.isLt
  rw [Nat.mod_eq_of_lt small]
  exact congrArg (fun value => float32Bytes (canonicalValue 2 value)) (to_int_signed 15 sample).symm

theorem cpp_hashed (samples : List (BitVec 16)) : Cpp.canonicalPcm samples = hashedBytes samples := by
  rw [Cpp.canonicalPcm, hashedBytes]
  congr 1
  funext sample
  have rounded := rounded_before sample.toInt 15 (by decide)
  norm_num at rounded
  rw [rounded, canonicalValue]
  norm_num

theorem hashed_append (hasher : FloatPcmHasher) (first second : Bytes) (whole : WholeSamples 2 first) :
    hashed (hashed hasher 2 first) 2 second = hashed hasher 2 (first ++ second) := by
  rw [hashed, hashed, hashed, canonical_bytes_append _ _ _ (by decide) whole, List.append_assoc, List.length_append,
    Nat.add_div_of_dvd_right (Nat.dvd_of_mod_eq_zero whole), Nat.add_assoc]

theorem hashed_none (hasher : FloatPcmHasher) : hashed hasher 2 [] = hasher := by
  have silent : canonicalBytes 2 [] = [] := by
    rw [canonical_bytes_windows, windows_none _ (by decide)]
    rfl
  rw [hashed, silent, List.append_nil]
  rfl

end samples

section python

-- The bytes of one frame's samples, and of a list's.
def frameBytes (channels : Nat) (frame : OutFrame) : Bytes := frame.plane.take (frame.samples * channels * 2)

def framesBytes (channels : Nat) (frames : List OutFrame) : Bytes := frames.flatMap (frameBytes channels)

def framesCount (frames : List OutFrame) : Nat := (frames.map OutFrame.samples).sum

-- Each plane holds its samples.
def Filled (channels : Nat) (frames : List OutFrame) : Prop :=
  ∀ frame ∈ frames, frame.samples * channels * 2 ≤ frame.plane.length

theorem frame_bytes_length (channels : Nat) (frame : OutFrame)
    (filled : frame.samples * channels * 2 ≤ frame.plane.length) :
    (frameBytes channels frame).length = frame.samples * channels * 2 := by
  rw [frameBytes, List.length_take, Nat.min_eq_left filled]

theorem frames_bytes_length (channels : Nat) (frames : List OutFrame) (filled : Filled channels frames) :
    (framesBytes channels frames).length = framesCount frames * channels * 2 := by
  induction frames with
  | nil => simp [framesBytes, framesCount]
  | cons frame rest ih =>
      have others : Filled channels rest := fun other member => filled other (List.mem_cons_of_mem _ member)
      have one := frame_bytes_length channels frame (filled frame (by simp))
      have total : framesCount (frame :: rest) = frame.samples + framesCount rest := by simp [framesCount]
      rw [framesBytes, List.flatMap_cons, List.length_append, one, ← framesBytes, ih others, total]
      ring

theorem add_whole (gathered : Gathered) (pcm : Bytes) (samples : Int) (whole : WholeSamples 2 pcm) :
    gathered.add pcm samples =
      .ok ⟨gathered.pcmParts ++ [pcm], gathered.frameCount + samples, hashed gathered.hasher 2 pcm⟩ := by
  rw [Gathered.add, update_whole gathered.hasher pcm 16 (by decide) whole]
  rfl

-- What was gathered after one more piece of the clip.
structure GatheredMore (before after : Gathered) (pcm : Bytes) (count : Nat) : Prop where
  parts : after.pcmParts.flatten = before.pcmParts.flatten ++ pcm
  counted : after.frameCount = count
  hash : after.hasher = hashed before.hasher 2 pcm

theorem gathered_more_trans {before middle after : Gathered} {first second : Bytes} {reached count : Nat}
    (one : GatheredMore before middle first reached) (two : GatheredMore middle after second count)
    (whole : WholeSamples 2 first) : GatheredMore before after (first ++ second) count where
  parts := by rw [two.parts, one.parts, List.append_assoc]
  counted := two.counted
  hash := by rw [two.hash, one.hash, hashed_append _ _ _ whole]

theorem gathered_add (gathered : Gathered) (pcm : Bytes) (count samples : Nat) (counted : gathered.frameCount = count)
    (whole : WholeSamples 2 pcm) :
    ∃ after, gathered.add pcm samples = .ok after ∧ GatheredMore gathered after pcm (count + samples) := by
  refine ⟨_, add_whole gathered pcm samples whole, ?_, ?_, rfl⟩
  · simp
  · simp [counted]

theorem whole_of_length {pcm : Bytes} (count : Nat) (length : pcm.length = count * 2) : WholeSamples 2 pcm := by
  rw [WholeSamples, length, Nat.mul_mod_left]

-- The frames gathered are the first ones, as many as the limit lets through.
theorem gathered_frames (channels limit : Nat) (frames : List OutFrame) (gathered : Gathered) (count : Nat)
    (filled : Filled channels frames) (counted : gathered.frameCount = count) (within : count ≤ limit) :
    ∃ after, gatherFrames channels (some limit) gathered frames = .ok after ∧
      GatheredMore gathered after
        ((framesBytes channels frames).take ((min limit (count + framesCount frames) - count) * channels * 2))
        (min limit (count + framesCount frames)) := by
  induction frames generalizing gathered count with
  | nil =>
      refine ⟨gathered, rfl, ?_, ?_, ?_⟩
      · simp [framesBytes]
      · rw [counted, framesCount]
        simp [within]
      · simp [framesBytes, hashed_none]
  | cons frame rest ih =>
      have length := frame_bytes_length channels frame (filled frame (by simp))
      have total : framesCount (frame :: rest) = frame.samples + framesCount rest := by simp [framesCount]
      have bytes : framesBytes channels (frame :: rest) = frameBytes channels frame ++ framesBytes channels rest := rfl
      rw [gatherFrames, total, bytes]
      by_cases full : limit < count + frame.samples
      · have reached : min limit (count + (frame.samples + framesCount rest)) = limit := by omega
        have exceeds : (limit : Int) < gathered.frameCount + frame.samples := by rw [counted]; exact_mod_cast full
        have room : (limit - count) * channels * 2 ≤ (frameBytes channels frame).length := by
          rw [length]
          exact Nat.mul_le_mul_right 2 (Nat.mul_le_mul_right channels (by omega))
        rw [reached, List.take_append_of_le_length room]
        by_cases atLimit : limit = count
        · -- the loop returns before it takes anything of the frame
          refine ⟨gathered, if_pos ⟨exceeds, by rw [counted]; omega⟩, ?_, ?_, ?_⟩
          · simp [atLimit]
          · rw [counted, atLimit]
          · simp [atLimit, hashed_none]
        · have some : ¬ (limit : Int) - gathered.frameCount ≤ 0 := by rw [counted]; omega
          have cut : ((limit : Int) - gathered.frameCount) = ((limit - count : Nat) : Int) := by rw [counted]; omega
          have whole : WholeSamples 2 ((frameBytes channels frame).take ((limit - count) * channels * 2)) :=
            whole_of_length ((limit - count) * channels) (by rw [List.length_take, Nat.min_eq_left room])
          obtain ⟨after, added, more⟩ := gathered_add gathered _ count (limit - count) counted whole
          rw [Nat.add_sub_cancel' within] at more
          refine ⟨after, ?_, more⟩
          have stops : (limit : Int) ≤ after.frameCount := more.counted.ge
          rw [if_neg (fun both => some both.2), if_pos exceeds, cut, Int.toNat_natCast, ← frameBytes, added]
          exact if_pos stops
      · have under : ¬ (limit : Int) < gathered.frameCount + frame.samples := by rw [counted]; exact_mod_cast full
        have whole : WholeSamples 2 (frameBytes channels frame) := whole_of_length _ length
        obtain ⟨next, added, more⟩ := gathered_add gathered _ count frame.samples counted whole
        rw [if_neg (fun both => under both.1), if_neg under, ← frameBytes, added]
        by_cases reached : limit = count + frame.samples
        · -- the limit falls on this frame's edge
          have stops : (limit : Int) ≤ next.frameCount := by rw [more.counted, reached]
          refine ⟨next, if_pos stops, ?_⟩
          have all : min limit (count + (frame.samples + framesCount rest)) = count + frame.samples := by omega
          rw [all, Nat.add_sub_cancel_left, ← length, List.take_append_of_le_length (le_refl _), List.take_length]
          exact more
        · have goes : ¬ (limit : Int) ≤ next.frameCount := by rw [more.counted]; omega
          obtain ⟨after, rest_gathered, further⟩ := ih next (count + frame.samples)
            (fun other member => filled other (List.mem_cons_of_mem _ member)) more.counted (by omega)
          refine ⟨after, (if_neg goes).trans rest_gathered, ?_⟩
          have sum : min limit (count + (frame.samples + framesCount rest)) =
              min limit (count + frame.samples + framesCount rest) := by rw [Nat.add_assoc]
          have joined := gathered_more_trans more further whole
          have beyond : (min limit (count + frame.samples + framesCount rest) - count) * channels * 2 =
              (frameBytes channels frame).length +
                (min limit (count + frame.samples + framesCount rest) - (count + frame.samples)) * channels * 2 := by
            rw [length, ← Nat.add_mul, ← Nat.add_mul]
            congr 2
            omega
          rw [sum, beyond, List.take_append, List.take_of_length_le (by omega), Nat.add_sub_cancel_left]
          exact joined

end python

section cpp

-- What the decoder gives for a clip's blocks, once its header is known.
inductive Blocks : List Cpp.FLACDecoderResult → List (List (BitVec 32)) → Prop
  | fileEnd : Blocks [] []
  | streamEnd (rest : List Cpp.FLACDecoderResult) : Blocks (.endOfStream :: rest) []
  | wait {results blocks} : Blocks results blocks → Blocks (.needMoreData :: results) blocks
  | block (block : List (BitVec 32)) {results blocks} : Blocks results blocks →
      Blocks (.success block :: results) (block :: blocks)

-- What it gives for a clip: the header, then the blocks.
inductive Decodes (rate channels : Nat) : List Cpp.FLACDecoderResult → List (List (BitVec 32)) → Prop
  | header {results blocks} : Blocks results blocks →
      Decodes rate channels (.headerReady rate channels :: results) blocks
  | wait {results blocks} : Decodes rate channels results blocks →
      Decodes rate channels (.needMoreData :: results) blocks

def blockSamples (blocks : List (List (BitVec 32))) : List (BitVec 16) := blocks.flatten.map Cpp.topBits

-- The samples taken when the loop stops: the first ones, and all of them or enough.
structure Overshot (fixture : Cpp.Fixture) (limit : Nat) (blocks : List (List (BitVec 32)))
    (taken : List (BitVec 16)) : Prop where
  first : taken <+: blockSamples blocks
  enough : taken = blockSamples blocks ∨ limit ≤ (fixture.samples ++ taken).length / fixture.channels
  -- with no frame to take, the first block ends the loop
  none : ∀ block rest, limit = 0 → blocks = block :: rest → taken = block.map Cpp.topBits

theorem loop_blocks {results : List Cpp.FLACDecoderResult} {blocks : List (List (BitVec 32))}
    (given : Blocks results blocks) (seconds : Rat) (fixture : Cpp.Fixture) (limit : Nat)
    (some : fixture.channels ≠ 0) :
    ∃ taken, Cpp.decodeLoop seconds fixture limit results =
        .ok ({ fixture with samples := fixture.samples ++ taken }, limit) ∧
      Overshot fixture limit blocks taken := by
  induction given generalizing fixture with
  | fileEnd | streamEnd rest =>
      refine ⟨[], ?_, List.nil_prefix, .inl rfl, nofun⟩
      simp [Cpp.decodeLoop]
  | wait _ ih => exact ih fixture some
  | @block block results blocks _ ih =>
      have joined : blockSamples (block :: blocks) = block.map Cpp.topBits ++ blockSamples blocks := by
        simp [blockSamples]
      rw [Cpp.decodeLoop]
      by_cases enough : (fixture.samples ++ block.map Cpp.topBits).length / fixture.channels ≥ limit
      · refine ⟨block.map Cpp.topBits, ?_, ?_, .inr enough, ?_⟩
        · rw [if_neg some, if_pos enough]
        · rw [joined]
          exact List.prefix_append _ _
        · rintro _ _ _ ⟨⟩
          rfl
      · rcases ih { fixture with samples := fixture.samples ++ block.map Cpp.topBits } some with
          ⟨taken, looped, first, further, _⟩
        refine ⟨block.map Cpp.topBits ++ taken, ?_, ?_, ?_, ?_⟩
        · rw [if_neg some, if_neg enough, looped, List.append_assoc]
        · rw [joined]
          exact (List.prefix_append_right_inj _).mpr first
        · rcases further with all | beyond
          · exact .inl (by rw [joined, all])
          · exact .inr (by rwa [List.append_assoc] at beyond)
        · intro _ _ zero _
          exact absurd (Nat.zero_le _) (zero ▸ enough)

theorem decodes_loop {rate channels : Nat} {results : List Cpp.FLACDecoderResult} {blocks : List (List (BitVec 32))}
    (given : Decodes rate channels results blocks) (seconds : Rat) (fixture : Cpp.Fixture) (maxFrames : Nat) :
    ∃ rest, Blocks rest blocks ∧ Cpp.decodeLoop seconds fixture maxFrames results =
      (Cpp.toUint64 (limitProduct rate seconds)).bind fun limit =>
        Cpp.decodeLoop seconds { fixture with sampleRate := rate, channels := channels % 2 ^ 8 } limit rest := by
  induction given with
  | @header results blocks given => exact ⟨results, given, rfl⟩
  | wait _ ih => exact ih

end cpp

section limits

theorem round_to_nonneg (format : FloatFormat) (number : Rat) (nonneg : 0 ≤ number) : 0 ≤ roundTo format number := by
  have scale := two_zpow_pos (lastPlace format number)
  have floored : 0 ≤ ⌊number / 2 ^ lastPlace format number⌋ := Int.floor_nonneg.mpr (div_nonneg nonneg scale.le)
  have rounded : 0 ≤ nearestEven (number / 2 ^ lastPlace format number) := by
    rcases nearest_even_near (number / 2 ^ lastPlace format number) with same | next <;> omega
  rw [roundTo]
  exact mul_nonneg (by exact_mod_cast rounded) scale.le

-- The limit on the frames, rounded down.
def limitFrames (rate : Nat) (seconds : Rat) : Nat := ⌊limitProduct rate seconds⌋.toNat

variable (rate : Nat) (seconds : Rat) (nonneg : 0 ≤ seconds)
include nonneg

theorem limit_product_nonneg : 0 ≤ limitProduct rate seconds :=
  round_to_nonneg _ _ (mul_nonneg (round_to_nonneg _ _ (Nat.cast_nonneg rate)) nonneg)

theorem truncated_limit : truncated (limitProduct rate seconds) = limitFrames rate seconds := by
  have product := limit_product_nonneg rate seconds nonneg
  rw [truncated, if_pos product, limitFrames, Int.toNat_of_nonneg (Int.floor_nonneg.mpr product)]

theorem max_frames_limit (small : limitFrames rate seconds < 2 ^ 64) :
    maxFramesOf rate (some seconds) = .ok (some (limitFrames rate seconds : Int)) := by
  have product := limit_product_nonneg rate seconds nonneg
  have below : limitProduct rate seconds < 2 ^ 64 := by
    have floored : ⌊limitProduct rate seconds⌋ < 2 ^ 64 := by rw [limitFrames] at small; omega
    exact_mod_cast Int.floor_lt.mp floored
  have finite : ¬ 2 ^ 1024 ≤ |limitProduct rate seconds| := by
    rw [abs_of_nonneg product, not_le]
    exact below.trans (pow_lt_pow_right₀ one_lt_two (by norm_num))
  rw [maxFramesOf, if_neg finite, truncated_limit rate seconds nonneg]

theorem to_uint64_limit : Cpp.toUint64 (limitProduct rate seconds) =
    if limitFrames rate seconds < 2 ^ 64 then .ok (limitFrames rate seconds) else .error .undefined := by
  rw [Cpp.toUint64, truncated_limit rate seconds nonneg, Int.toNat_natCast]
  congr 1
  simp only [Int.natCast_nonneg, true_and, eq_iff_iff]
  norm_cast

end limits

-- A clip as both decoders give it: in the resampler's frames, and in the blocks of the other decoder.
structure Clip where
  rate : Nat
  channels : Nat
  frames : Nat
  samples : List (BitVec 16)
  stream : AudioStream
  outFrames : List OutFrame
  results : List Cpp.FLACDecoderResult
  blocks : List (List (BitVec 32))
  rated : 0 < rate
  layout : channels = 1 ∨ channels = 2
  audible : 0 < frames
  whole : samples.length = frames * channels
  streamRate : stream.codecSampleRate = rate
  streamChannels : stream.codecChannels = channels
  filled : Filled channels outFrames
  framed : framesBytes channels outFrames = s16Bytes samples
  decoded : Decodes rate channels results blocks
  blocked : blockSamples blocks = samples

section judged

variable (sha256Hex : Bytes → String)

def Clip.first (clip : Clip) (kept : Nat) : List (BitVec 16) := clip.samples.take (kept * clip.channels)

-- The first frames of a clip are what one server streams,
structure Streams (clip : Clip) (kept : Nat) (fixture : DecodedFixture) : Prop where
  pcm : fixture.pcmBytes = s16Bytes (clip.first kept)
  counted : fixture.frameCount = kept
  hash : fixture.sourcePcmSha256 = sha256Hex (hashedBytes (clip.first kept))

-- and what the other does.
structure CppStreams (clip : Clip) (kept : Nat) (fixture : Cpp.Fixture) : Prop where
  samples : fixture.samples = clip.first kept
  counted : fixture.frameCount = kept
  hash : fixture.sourcePcmSha256 = sha256Hex (hashedBytes (clip.first kept))

-- Trimming keeps the most frames that make whole codec frames.
def Trims (clip : Clip) (kept : Nat) (fixture : DecodedFixture) : Prop :=
  ∀ frameSamples : Nat, 0 < frameSamples → ∃ trimmed dropped largest,
    trimFixtureToFrameMultiple sha256Hex fixture frameSamples = .ok (trimmed, dropped) ∧
      IsGreatest {count : Nat | frameSamples ∣ count ∧ count ≤ kept} largest ∧ Streams sha256Hex clip largest trimmed

def SameClip (clip : Clip) (path : String) (file : Bytes) (seconds : Rat) : Prop :=
  let kept := min clip.frames (limitFrames clip.rate seconds)
  ∃ python cpp, decodeFixture sha256Hex path file clip.stream clip.outFrames (some seconds) = .ok python ∧
    Cpp.decodeFixture sha256Hex path file clip.results seconds = .ok cpp ∧
    Streams sha256Hex clip kept python ∧ CppStreams sha256Hex clip kept cpp ∧ Trims sha256Hex clip kept python

-- The limit and the samples it stands for are 64-bit numbers, and a limit of none meets a block with samples.
structure LimitFits (clip : Clip) (seconds : Rat) : Prop where
  frames : limitFrames clip.rate seconds < 2 ^ 64
  samples : limitFrames clip.rate seconds * clip.channels < 2 ^ 64 ∨
    clip.samples.length ≤ limitFrames clip.rate seconds * clip.channels % 2 ^ 64
  block : limitFrames clip.rate seconds = 0 → clip.blocks.head? ≠ some []

omit sha256Hex in
theorem clip_channels (clip : Clip) : 0 < clip.channels := by
  rcases clip.layout with mono | stereo <;> omega

omit sha256Hex in
theorem clip_frames_count (clip : Clip) : framesCount clip.outFrames = clip.frames := by
  have length := frames_bytes_length clip.channels clip.outFrames clip.filled
  rw [clip.framed, s16_bytes_length, clip.whole] at length
  exact (Nat.eq_of_mul_eq_mul_right (clip_channels clip) (Nat.eq_of_mul_eq_mul_right two_pos length)).symm

theorem python_streams (clip : Clip) (path : String) (file : Bytes) (seconds : Rat) (nonneg : 0 ≤ seconds)
    (small : limitFrames clip.rate seconds < 2 ^ 64) :
    ∃ python, decodeFixture sha256Hex path file clip.stream clip.outFrames (some seconds) = .ok python ∧
      python.channels = clip.channels ∧ python.bitDepth = 16 ∧
      Streams sha256Hex clip (min clip.frames (limitFrames clip.rate seconds)) python := by
  have rated := clip.rated
  have spoken := clip_channels clip
  have laidOut : (if clip.channels = 2 then 2 else 1) = clip.channels := by
    rcases clip.layout with mono | stereo
    · rw [if_neg (by omega), mono]
    · rw [if_pos stereo, stereo]
  obtain ⟨after, gathered, parts, counted, hash⟩ := gathered_frames clip.channels (limitFrames clip.rate seconds)
    clip.outFrames {} 0 clip.filled rfl (Nat.zero_le _)
  rw [Nat.zero_add, Nat.sub_zero, clip_frames_count, Nat.min_comm, clip.framed, s16_bytes_take, ← Clip.first]
    at parts hash
  rw [Nat.zero_add, clip_frames_count, Nat.min_comm] at counted
  refine ⟨⟨path, after.pcmParts.flatten, clip.rate, clip.channels, 16, after.frameCount,
    durationSeconds after.frameCount clip.rate, sha256Hex file, sha256Hex after.hasher.stream⟩, ?_, rfl, rfl,
    parts, counted, ?_⟩
  · simp only [decodeFixture, clip.streamRate, clip.streamChannels, ne_eq, rated.ne', spoken.ne', not_false_eq_true,
      if_true, laidOut]
    rw [max_frames_limit clip.rate seconds nonneg small]
    change gatherFrames _ _ _ _ >>= _ = _
    rw [gathered]
    rfl
  · simp [hash, hashed, s16_bytes_hashed]

omit sha256Hex in
theorem first_length (clip : Clip) (kept : Nat) (within : kept ≤ clip.frames) :
    (clip.first kept).length = kept * clip.channels := by
  rw [Clip.first, List.length_take, clip.whole, Nat.min_eq_left (Nat.mul_le_mul_right _ within)]

omit sha256Hex in
theorem first_first (clip : Clip) (kept fewer : Nat) (less : fewer ≤ kept) :
    (clip.first kept).take (fewer * clip.channels) = clip.first fewer := by
  rw [Clip.first, List.take_take, Nat.min_eq_left (Nat.mul_le_mul_right _ less), Clip.first]

omit sha256Hex in
theorem greatest_multiple (kept frameSamples : Nat) (some : 0 < frameSamples) :
    IsGreatest {count : Nat | frameSamples ∣ count ∧ count ≤ kept} (kept - kept % frameSamples) := by
  refine ⟨⟨Nat.dvd_sub_mod kept, Nat.sub_le _ _⟩, ?_⟩
  rintro _ ⟨⟨times, rfl⟩, within⟩
  have fewer : times ≤ kept / frameSamples := (Nat.le_div_iff_mul_le some).mpr (by rwa [Nat.mul_comm])
  calc frameSamples * times ≤ frameSamples * (kept / frameSamples) := Nat.mul_le_mul_left _ fewer
    _ = kept - kept % frameSamples := by have := Nat.div_add_mod kept frameSamples; omega

theorem streams_trims (clip : Clip) (kept : Nat) (fixture : DecodedFixture) (channels : fixture.channels = clip.channels)
    (depth : fixture.bitDepth = 16) (streams : Streams sha256Hex clip kept fixture) :
    Trims sha256Hex clip kept fixture := by
  intro frameSamples some
  have greatest := greatest_multiple kept frameSamples some
  have trimmed : fixture.frameCount % frameSamples = (kept % frameSamples : Nat) := by rw [streams.counted]; norm_cast
  have positive : ¬ (frameSamples : Int) ≤ 0 := by omega
  by_cases fits : kept % frameSamples = 0
  · refine ⟨fixture, 0, kept - kept % frameSamples, ?_, greatest, ?_⟩
    · rw [trimFixtureToFrameMultiple, if_neg positive, trimmed, fits]
      rfl
    · rwa [fits, Nat.sub_zero]
  · have uneven : ¬ ((kept % frameSamples : Nat) : Int) = 0 := by exact_mod_cast fits
    have left : fixture.frameCount - (kept % frameSamples : Nat) = (kept - kept % frameSamples : Nat) := by
      rw [streams.counted]
      have := Nat.mod_le kept frameSamples
      omega
    generalize kept - kept % frameSamples = largest at greatest left
    have cut : fixture.pcmBytes.take (largest * (fixture.channels * (fixture.bitDepth / 8))) =
        s16Bytes (clip.first largest) := by
      rw [streams.pcm, channels, depth, ← first_first clip kept largest greatest.1.2, ← s16_bytes_take, Nat.mul_assoc]
    have hashes := update_whole {} (s16Bytes (clip.first largest)) fixture.bitDepth (by simp [depth])
      (by rw [depth]; exact s16_bytes_whole _)
    refine ⟨{ fixture with
      pcmBytes := s16Bytes (clip.first largest)
      frameCount := largest
      durationSeconds := durationSeconds largest fixture.sampleRate
      sourcePcmSha256 := sha256Hex (hashed {} (fixture.bitDepth / 8) (s16Bytes (clip.first largest))).stream },
      (kept % frameSamples : Nat), largest, ?_, greatest, rfl, rfl, ?_⟩
    · rw [trimFixtureToFrameMultiple, if_neg positive, trimmed, if_neg uneven, left]
      simp only [Int.toNat_natCast, cut, hashes]
      rfl
    · simp [depth, hashed, s16_bytes_hashed]

-- The fixture one decoder builds from the samples it keeps.
def cppFixture (clip : Clip) (path : String) (file : Bytes) (samples : List (BitVec 16)) : Cpp.Fixture where
  path := path
  samples := samples
  sampleRate := clip.rate
  channels := clip.channels
  frameCount := samples.length / clip.channels
  sourceFlacSha256 := sha256Hex file
  sourcePcmSha256 := sha256Hex (Cpp.canonicalPcm samples)

theorem cpp_decodes (clip : Clip) (path : String) (file : Bytes) (seconds : Rat) (nonneg : 0 ≤ seconds)
    (small : limitFrames clip.rate seconds < 2 ^ 64) :
    ∃ taken, Overshot { path := path, channels := clip.channels, sourceFlacSha256 := sha256Hex file }
        (limitFrames clip.rate seconds) clip.blocks taken ∧
      Cpp.decodeFixture sha256Hex path file clip.results seconds =
        if taken = [] then .error (.thrown ("fixture " ++ path ++ " decoded to no audio"))
        else .ok (cppFixture sha256Hex clip path file
          (taken.take (limitFrames clip.rate seconds * clip.channels % 2 ^ 64))) := by
  have byte : clip.channels % 2 ^ 8 = clip.channels := by rcases clip.layout with mono | stereo <;> omega
  have spoken := (clip_channels clip).ne'
  obtain ⟨rest, given, started⟩ := decodes_loop clip.decoded seconds
    { path := path, sourceFlacSha256 := sha256Hex file } 0
  rw [to_uint64_limit clip.rate seconds nonneg, if_pos small, byte] at started
  obtain ⟨taken, looped, overshot⟩ := loop_blocks given seconds
    { path := path, sampleRate := clip.rate, channels := clip.channels, sourceFlacSha256 := sha256Hex file }
    (limitFrames clip.rate seconds) spoken
  have ran := started.trans looped
  refine ⟨taken, ⟨overshot.first, overshot.enough, overshot.none⟩, ?_⟩
  rw [Cpp.decodeFixture, ran]
  by_cases silent : taken = []
  · rw [if_pos silent]
    exact if_pos (.inr silent)
  · rw [if_neg silent]
    exact if_neg (by rintro (mute | same); exacts [spoken mute, silent same])

theorem cpp_undefined (clip : Clip) (path : String) (file : Bytes) (seconds : Rat) (nonneg : 0 ≤ seconds)
    (large : ¬ limitFrames clip.rate seconds < 2 ^ 64) :
    Cpp.decodeFixture sha256Hex path file clip.results seconds = .error .undefined := by
  obtain ⟨rest, given, started⟩ := decodes_loop clip.decoded seconds
    { path := path, sourceFlacSha256 := sha256Hex file } 0
  rw [to_uint64_limit clip.rate seconds nonneg, if_neg large] at started
  rw [Cpp.decodeFixture, started]
  rfl

-- The first frames up to the limit are the first samples up to it.
omit sha256Hex in
theorem first_take (clip : Clip) (limit : Nat) :
    clip.first (min clip.frames limit) = clip.samples.take (limit * clip.channels) := by
  rw [Clip.first, ← Nat.mul_min_mul_right, ← clip.whole, List.take_eq_take_iff]
  omega

-- What was taken, cut at the limit, is the clip's first frames where the cut is a number the code can hold.
omit sha256Hex in
theorem taken_first (clip : Clip) (limit : Nat) (taken : List (BitVec 16)) (first : taken <+: clip.samples)
    (enough : taken = clip.samples ∨ limit ≤ taken.length / clip.channels)
    (fits : limit * clip.channels < 2 ^ 64 ∨ clip.samples.length ≤ limit * clip.channels % 2 ^ 64) :
    taken.take (limit * clip.channels % 2 ^ 64) = clip.first (min clip.frames limit) := by
  rw [first_take, Nat.le_div_iff_mul_le (clip_channels clip)] at *
  have shorter := first.length_le
  rcases fits with fits | fits
  · rw [Nat.mod_eq_of_lt fits]
    rcases enough with all | enough
    · rw [all]
    · obtain ⟨rest, joined⟩ := first
      rw [← joined, List.take_append_of_le_length enough]
  · have wrapped := Nat.mod_le (limit * clip.channels) (2 ^ 64)
    have all : taken = clip.samples := by
      rcases enough with all | enough
      · exact all
      · exact first.eq_of_length (by omega)
    rw [all, List.take_of_length_le fits, List.take_of_length_le (fits.trans wrapped)]

theorem cpp_streams (clip : Clip) (path : String) (file : Bytes) (seconds : Rat) (nonneg : 0 ≤ seconds)
    (fits : LimitFits clip seconds) :
    ∃ cpp, Cpp.decodeFixture sha256Hex path file clip.results seconds = .ok cpp ∧
      CppStreams sha256Hex clip (min clip.frames (limitFrames clip.rate seconds)) cpp := by
  obtain ⟨taken, overshot, decoded⟩ := cpp_decodes sha256Hex clip path file seconds nonneg fits.frames
  have first : taken <+: clip.samples := clip.blocked ▸ overshot.first
  have enough : taken = clip.samples ∨ limitFrames clip.rate seconds ≤ taken.length / clip.channels :=
    clip.blocked ▸ overshot.enough
  have spoken := clip_channels clip
  have length : 0 < clip.samples.length := by rw [clip.whole]; exact Nat.mul_pos clip.audible spoken
  have heard : taken ≠ [] := by
    intro silent
    rcases Nat.eq_zero_or_pos (limitFrames clip.rate seconds) with zero | some
    · have blocks : clip.blocks ≠ [] := by
        intro absent
        have same := clip.blocked
        rw [absent] at same
        rw [← same] at length
        exact absurd length (by decide)
      obtain ⟨block, rest, split⟩ := List.exists_cons_of_ne_nil blocks
      have empty := overshot.none block rest zero split
      rw [silent] at empty
      refine fits.block zero ?_
      rw [split, List.map_eq_nil_iff.mp empty.symm]
      rfl
    · rw [silent] at enough
      rcases enough with all | enough
      · rw [← all] at length
        exact absurd length (by decide)
      · simp at enough
        omega
  rw [if_neg heard] at decoded
  refine ⟨_, decoded, ?_⟩
  have cut := taken_first clip _ taken first enough fits.samples
  have counted := first_length clip (min clip.frames (limitFrames clip.rate seconds)) (Nat.min_le_left _ _)
  refine ⟨cut, ?_, ?_⟩
  · rw [cppFixture, cut, counted, Nat.mul_div_cancel _ spoken]
  · rw [cppFixture, cut, cpp_hashed]

theorem fixtures_judged (clip : Clip) (path : String) (file : Bytes) (seconds : Rat) (nonneg : 0 ≤ seconds) :
    SameClip sha256Hex clip path file seconds ↔ LimitFits clip seconds := by
  constructor
  · rintro ⟨python, cpp, _, decoded, _, streams, _⟩
    have small : limitFrames clip.rate seconds < 2 ^ 64 := by
      by_contra large
      rw [cpp_undefined sha256Hex clip path file seconds nonneg large] at decoded
      cases decoded
    obtain ⟨taken, overshot, same⟩ := cpp_decodes sha256Hex clip path file seconds nonneg small
    rw [same] at decoded
    refine ⟨small, ?_, ?_⟩
    · by_contra wraps
      push Not at wraps
      by_cases silent : taken = []
      · rw [if_pos silent] at decoded
        cases decoded
      · rw [if_neg silent] at decoded
        obtain rfl := Except.ok.inj decoded
        have kept : taken.take (limitFrames clip.rate seconds * clip.channels % 2 ^ 64) = _ := streams.samples
        -- the wrapped cut is shorter than either the clip or the limit
        have length := congrArg List.length kept
        have below := Nat.mod_lt (limitFrames clip.rate seconds * clip.channels) (Nat.two_pow_pos 64)
        rw [first_take, List.length_take, List.length_take] at length
        omega
    · intro zero empty
      obtain ⟨rest, split⟩ := List.head?_eq_some_iff.mp empty
      have silent : taken = [] := overshot.none [] rest zero split
      rw [if_pos silent] at decoded
      cases decoded
  · intro fits
    obtain ⟨python, decoded, channels, depth, streams⟩ :=
      python_streams sha256Hex clip path file seconds nonneg fits.frames
    obtain ⟨cpp, cppDecoded, cppStreams⟩ := cpp_streams sha256Hex clip path file seconds nonneg fits
    exact ⟨python, cpp, decoded, cppDecoded, streams, cppStreams,
      streams_trims sha256Hex clip _ python channels depth streams⟩

end judged

-- The file's marker, and the digests of it, of no samples and of the first two frames below.
def marker : Bytes := [0x66, 0x4C, 0x61, 0x43]

def digestOf (bytes : Bytes) : String :=
  if bytes = marker then "70bf93310284b039f237e82db4407df3e3ca642fac2b9ebb02973764424c7418"
  else if bytes = [] then "e3b0c44298fc1c149afbf4c8996fb92427ae41e4649b934ca495991b7852b855"
  else "d023c6e5f2fe23a1727d3f569999dedc9e40ee151faaead4dce1c230c7969114"

-- Three frames of two channels, as two frames of one decoder and as two blocks of the other.
def threeFrames : Clip where
  rate := 44100
  channels := 2
  frames := 3
  samples := [256, -256, 512, -512, 768, -768]
  stream := ⟨44100, 44100, 2⟩
  outFrames := [⟨2, [0, 1, 0, 255, 0, 2, 0, 254, 0, 0]⟩, ⟨1, [0, 3, 0, 253]⟩]
  results := [.headerReady 44100 2, .success [16777216, -16777216], .success [33554432, -33554432, 50331648, -50331648],
    .endOfStream]
  blocks := [[16777216, -16777216], [33554432, -33554432, 50331648, -50331648]]
  rated := by decide
  layout := .inr rfl
  audible := by decide
  whole := rfl
  streamRate := rfl
  streamChannels := rfl
  filled := by simp [Filled]
  framed := by decide
  decoded := .header (.block _ (.block _ (.streamEnd _)))
  blocked := by decide

-- The limit lets two frames through, in the middle of a block and between the frames.
theorem three_frames_cut :
    limitFrames threeFrames.rate (1 / 16384) = 2 ∧ SameClip digestOf threeFrames "clip.flac" marker (1 / 16384) := by
  have limit : limitFrames threeFrames.rate (1 / 16384) = 2 := by decide +kernel
  refine ⟨limit, (fixtures_judged digestOf threeFrames "clip.flac" marker (1 / 16384) (by norm_num)).mpr ⟨?_, .inl ?_, ?_⟩⟩
  · rw [limit]
    decide
  · rw [limit]
    decide
  · intro _ empty
    cases empty

-- The same frames behind a block that holds nothing.
def emptyFirst : Clip :=
  { threeFrames with
    results := [.headerReady 44100 2, .success [], .success [16777216, -16777216],
      .success [33554432, -33554432, 50331648, -50331648], .endOfStream]
    blocks := [[], [16777216, -16777216], [33554432, -33554432, 50331648, -50331648]]
    decoded := .header (.block _ (.block _ (.block _ (.streamEnd _))))
    blocked := by decide }

theorem empty_block_differs : ¬ SameClip digestOf emptyFirst "clip.flac" marker 0 := by
  rintro ⟨python, cpp, _, decoded, _⟩
  have nothing : limitFrames emptyFirst.rate 0 = 0 := by decide +kernel
  obtain ⟨taken, overshot, same⟩ :=
    cpp_decodes digestOf emptyFirst "clip.flac" marker 0 (le_refl 0) (by rw [nothing]; decide)
  have silent : taken = [] := overshot.none [] _ nothing rfl
  rw [same, if_pos silent] at decoded
  cases decoded

end Conformance.Audio
