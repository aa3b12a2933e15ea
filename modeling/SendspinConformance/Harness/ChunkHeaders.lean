import Mathlib.Tactic.Ring
import SendspinConformance.Base.Runs
import SendspinConformance.Harness.ChunkFraming

set_option autoImplicit false

namespace Conformance.Harness

open Python

-- A chunk as the SDK hands it over: its int64 timestamp and its audio.
structure Chunk where
  timestamp : BitVec 64
  audio : List UInt8
deriving DecidableEq

-- What crossed the transport: a chunk behind its header, or a frame cut before the
-- end of the timestamp.
inductive Crossing where
  | whole (type : UInt8) (chunk : Chunk) (extra : List UInt8)
  | cut (type : UInt8) (rest : List UInt8) (short : rest.length < 8)

def Crossing.frame : Crossing → List UInt8
  | .whole type chunk extra => type :: (bigEndianBytes 8 chunk.timestamp.toNat ++ extra ++ chunk.audio)
  | .cut type rest _ => type :: rest

def recorded (chunks : List Chunk) : ChunkPayloadSizes :=
  chunks.foldl (fun sizes chunk => sizes.record chunk.timestamp.toInt chunk.audio) fun _ => none

-- The frames the judge reads of what crossed, once each is paired with its chunk.
def observedFrames (chunks : List Chunk) (crossings : List Crossing) : Option (List Frame) := do
  let frames ← (recorded chunks).paired (crossings.map fun crossing => binaryFrameRecord crossing.frame)
  transportedFrames (.arr (frames.map Json.obj))

def sharing (chunks : List Chunk) (timestamp : BitVec 64) : Nat :=
  chunks.countP fun chunk => chunk.timestamp == timestamp

-- The bytes before the audio: the type, the timestamp and the extra ones.
def Crossing.width : Crossing → Option Nat
  | .whole _ _ extra => some (9 + extra.length)
  | .cut _ _ _ => none

-- The header measured on a frame: none where two chunks share the timestamp.
def measured (chunks : List Chunk) : Crossing → Option Int
  | .whole _ chunk extra => if sharing chunks chunk.timestamp = 1 then some (9 + extra.length) else none
  | .cut _ _ _ => none

def Crossing.carries (chunks : List Chunk) : Crossing → Prop
  | .whole _ chunk _ => chunk ∈ chunks
  | .cut _ _ _ => True

theorem recorded_snoc (chunks : List Chunk) (chunk : Chunk) :
    recorded (chunks ++ [chunk]) = (recorded chunks).record chunk.timestamp.toInt chunk.audio := by
  rw [recorded, List.foldl_append]
  rfl

theorem sharing_snoc (chunks : List Chunk) (chunk : Chunk) (timestamp : BitVec 64) :
    sharing (chunks ++ [chunk]) timestamp = sharing chunks timestamp + if chunk.timestamp = timestamp then 1 else 0 := by
  rw [sharing, List.countP_append, sharing]
  by_cases same : chunk.timestamp = timestamp <;> simp [same]

-- The sizes recorded under a timestamp: the one chunk's, or none where there are more.
theorem recorded_sizes (chunks : List Chunk) (timestamp : BitVec 64) :
    (sharing chunks timestamp = 0 → recorded chunks timestamp.toInt = none) ∧
    (∀ chunk ∈ chunks, chunk.timestamp = timestamp → sharing chunks timestamp = 1 →
      recorded chunks timestamp.toInt = some (some chunk.audio.length)) ∧
    (1 < sharing chunks timestamp → recorded chunks timestamp.toInt = some none) := by
  induction chunks using List.reverseRecOn with
  | nil => simp [recorded, sharing]
  | append_singleton chunks last ih =>
      obtain ⟨absent, alone, shared⟩ := ih
      rw [recorded_snoc, sharing_snoc, ChunkPayloadSizes.record]
      by_cases same : last.timestamp = timestamp
      · rw [if_pos same, if_pos (congrArg BitVec.toInt same.symm), same]
        refine ⟨by omega, ?_, ?_⟩
        · intro chunk member stamped one
          have first : sharing chunks timestamp = 0 := by omega
          have missing : chunk ∉ chunks := by
            intro earlier
            have positive : 0 < sharing chunks timestamp :=
              List.countP_pos_iff.mpr ⟨chunk, earlier, by simpa using stamped⟩
            omega
          have isLast : chunk = last := by
            cases List.mem_append.mp member with
            | inl earlier => exact absurd earlier missing
            | inr final => exact List.mem_singleton.mp final
          rw [absent first, isLast]
          rfl
        · intro more
          have some : (recorded chunks timestamp.toInt).isSome := by
            by_cases one : sharing chunks timestamp = 1
            · obtain ⟨chunk, member, stamped⟩ := List.countP_pos_iff.mp (by rw [← sharing, one]; exact Nat.one_pos)
              rw [alone chunk member (by simpa using stamped) one]
              rfl
            · rw [shared (by omega)]
              rfl
          rw [if_pos some]
      · have other : timestamp.toInt ≠ last.timestamp.toInt := fun equal => same (BitVec.toInt_inj.mp equal.symm)
        rw [if_neg same, if_neg other, Nat.add_zero]
        refine ⟨absent, ?_, shared⟩
        intro chunk member stamped one
        cases List.mem_append.mp member with
        | inl earlier => exact alone chunk earlier stamped one
        | inr final => exact absurd (List.mem_singleton.mp final ▸ stamped) same

-- A frame's record read back: its size, its leading bytes and the size it is paired with.
theorem paired_frame (sizes : ChunkPayloadSizes) (frame : List UInt8) :
    sizes.pairedFrame (binaryFrameRecord frame) = some (binaryFrameRecord frame ++ [("payload_byte_count",
      ofCount (if 9 ≤ frame.length then (sizes (intFromBytes ((frame.drop 1).take 8))).join else none))]) := by
  have hex : getKey (binaryFrameRecord frame) "leading_hex" = .str (toHex (frame.take framePrefixBytes)) := rfl
  have fresh (value : Json) : setKey (binaryFrameRecord frame) "payload_byte_count" value =
      binaryFrameRecord frame ++ [("payload_byte_count", value)] := rfl
  have long : 9 ≤ (frame.take framePrefixBytes).length ↔ 9 ≤ frame.length := by
    rw [List.length_take, framePrefixBytes]
    omega
  have stamp : ((frame.take framePrefixBytes).drop 1).take 8 = (frame.drop 1).take 8 := by
    rw [List.drop_take, List.take_take]
    rfl
  rw [ChunkPayloadSizes.pairedFrame, hex]
  simp only [Json.asStr, Option.bind_eq_bind, Option.bind_some, from_hex_to_hex, long, stamp, fresh]

theorem count_of_count (count : Option Nat) : countOf (ofCount count) = count := by
  cases count with
  | none => rfl
  | some size =>
      have positive : ¬ (size : Int) < 0 := by omega
      rw [ofCount, countOf, if_neg positive, Int.toNat_natCast]

theorem transported_frame (frame : List UInt8) (payload : Option Nat) (begun : frame ≠ [])
    (held : ∀ size ∈ payload, size ≤ frame.length) :
    transportedFrame (.obj (binaryFrameRecord frame ++ [("payload_byte_count", ofCount payload)])) =
      some ⟨frame.length, frame.take framePrefixBytes, payload⟩ := by
  have bytes : getKey (binaryFrameRecord frame ++ [("payload_byte_count", ofCount payload)]) "byte_count" =
      .int frame.length := rfl
  have hex : getKey (binaryFrameRecord frame ++ [("payload_byte_count", ofCount payload)]) "leading_hex" =
      .str (toHex (frame.take framePrefixBytes)) := rfl
  have count : getKey (binaryFrameRecord frame ++ [("payload_byte_count", ofCount payload)]) "payload_byte_count" =
      ofCount payload := rfl
  have size : countOf (.int frame.length) = some frame.length := count_of_count (some frame.length)
  have length : (frame.take framePrefixBytes).length = min frame.length requiredHeaderBytes := by
    rw [List.length_take, Nat.min_comm]
    rfl
  have leading : (frame.take framePrefixBytes).isEmpty = false := by
    cases frame with
    | nil => exact absurd rfl begun
    | cons byte rest => rfl
  have fits : payload.any (frame.length < ·) = false := by
    cases payload with
    | none => rfl
    | some size =>
        have within := held size rfl
        simpa using within
  rw [transportedFrame, Json.asObj]
  simp only [Option.bind_eq_bind, Option.bind_some, bytes, hex, count, size, Json.asStr, from_hex_to_hex,
    count_of_count, leading, length, fits, bne_self_eq_false, Bool.or_self, Bool.false_eq_true, if_false]

-- The size a frame is paired with: its chunk's audio, where no other shares the timestamp.
def pairedSize (chunks : List Chunk) : Crossing → Option Nat
  | .whole _ chunk _ => if sharing chunks chunk.timestamp = 1 then some chunk.audio.length else none
  | .cut _ _ _ => none

theorem paired_size (chunks : List Chunk) (crossing : Crossing) (carries : crossing.carries chunks) :
    (if 9 ≤ crossing.frame.length then
      (recorded chunks (intFromBytes ((crossing.frame.drop 1).take 8))).join else none) =
      pairedSize chunks crossing := by
  cases crossing with
  | cut type rest short =>
      have small : ¬ 9 ≤ (type :: rest).length := by rw [List.length_cons]; omega
      rw [Crossing.frame, if_neg small, pairedSize]
  | whole type chunk extra =>
      have stampLength := big_endian_bytes_length 8 chunk.timestamp.toNat
      have long : 9 ≤ (Crossing.whole type chunk extra).frame.length := by
        rw [Crossing.frame, List.length_cons, List.length_append, List.length_append, stampLength]
        omega
      have stamp : ((Crossing.whole type chunk extra).frame.drop 1).take 8 =
          bigEndianBytes 8 chunk.timestamp.toNat := by
        rw [Crossing.frame, List.drop_one, List.tail_cons, List.append_assoc, List.take_append_of_le_length stampLength.ge,
          List.take_of_length_le stampLength.le]
      obtain ⟨_, alone, shared⟩ := recorded_sizes chunks chunk.timestamp
      have counted : 0 < sharing chunks chunk.timestamp := List.countP_pos_iff.mpr ⟨chunk, carries, by simp⟩
      rw [if_pos long, stamp, int_from_bytes_signed, pairedSize]
      by_cases one : sharing chunks chunk.timestamp = 1
      · rw [if_pos one, alone chunk carries rfl one]
        rfl
      · rw [if_neg one, shared (by omega)]
        rfl

def frameOf (chunks : List Chunk) (crossing : Crossing) : Frame :=
  ⟨crossing.frame.length, crossing.frame.take framePrefixBytes, pairedSize chunks crossing⟩

theorem frame_of_paired (chunks : List Chunk) (crossing : Crossing) :
    ∀ size ∈ pairedSize chunks crossing, size ≤ crossing.frame.length := by
  intro size paired
  cases crossing with
  | cut type rest short => cases paired
  | whole type chunk extra =>
      rw [pairedSize] at paired
      by_cases one : sharing chunks chunk.timestamp = 1
      · rw [if_pos one, Option.mem_some_iff] at paired
        rw [← paired, Crossing.frame, List.length_cons, List.length_append]
        omega
      · rw [if_neg one] at paired
        cases paired

theorem observed_frames (chunks : List Chunk) (crossings : List Crossing)
    (carried : ∀ crossing ∈ crossings, crossing.carries chunks) :
    observedFrames chunks crossings = some (crossings.map (frameOf chunks)) := by
  have pairs : (recorded chunks).paired (crossings.map fun crossing => binaryFrameRecord crossing.frame) =
      some (crossings.map fun crossing =>
        binaryFrameRecord crossing.frame ++ [("payload_byte_count", ofCount (pairedSize chunks crossing))]) := by
    refine Base.map_all_some _ _ _ crossings ?_
    intro crossing member
    rw [paired_frame, paired_size chunks crossing (carried crossing member)]
  rw [observedFrames, pairs, Option.bind_eq_bind, Option.bind_some, transportedFrames, List.map_map]
  refine Base.map_all_some _ _ _ crossings ?_
  intro crossing _
  have begun : crossing.frame ≠ [] := by cases crossing <;> exact List.cons_ne_nil _ _
  exact transported_frame crossing.frame _ begun (frame_of_paired chunks crossing)

theorem header_measured (chunks : List Chunk) (crossing : Crossing) :
    (frameOf chunks crossing).headerBytes = measured chunks crossing := by
  cases crossing with
  | cut type rest short => rfl
  | whole type chunk extra =>
      rw [Frame.headerBytes, frameOf, pairedSize, measured]
      by_cases one : sharing chunks chunk.timestamp = 1
      · have stampLength := big_endian_bytes_length 8 chunk.timestamp.toNat
        rw [if_pos one, if_pos one, Option.map_some, Crossing.frame, List.length_cons, List.length_append,
          List.length_append, stampLength]
        push_cast
        congr 1
        ring
      · rw [if_neg one, if_neg one, Option.map_none]

theorem header_violation_none (role : Role) (frames : List Frame) :
    headerViolation role frames = none ↔ ∀ frame ∈ frames, frame.headerBytes = some 13 := by
  rw [headerViolation]
  by_cases unpaired : frames.countP (fun frame => frame.headerBytes.isNone) = 0
  · have paired := List.countP_eq_zero.mp unpaired
    rw [if_neg (not_not.mpr unpaired)]
    have wrong : ((frames.filterMap Frame.headerBytes).filter (· ≠ (requiredHeaderBytes : Int))).isEmpty = true ↔
        ∀ frame ∈ frames, frame.headerBytes = some 13 := by
      rw [List.isEmpty_iff, List.filter_eq_nil_iff]
      apply Iff.intro
      · intro right frame member
        cases header : frame.headerBytes with
        | none => exact absurd (by rw [header]; rfl) (paired frame member)
        | some width =>
            have same : width = (requiredHeaderBytes : Int) := by
              simpa using right width (List.mem_filterMap.mpr ⟨frame, member, header⟩)
            rw [same]
            rfl
      · intro right width member
        obtain ⟨frame, inFrames, header⟩ := List.mem_filterMap.mp member
        rw [right frame inFrames, Option.some_inj] at header
        simp [← header, requiredHeaderBytes]
    by_cases none : ((frames.filterMap Frame.headerBytes).filter (· ≠ (requiredHeaderBytes : Int))).isEmpty = true
    · simp only [if_pos none, true_iff]
      exact wrong.mp none
    · simp only [if_neg none, reduceCtorEq, false_iff]
      exact mt wrong.mpr none
  · rw [if_pos unpaired]
    simp only [reduceCtorEq, false_iff]
    intro right
    have none : frames.countP (fun frame => frame.headerBytes.isNone) = 0 := by
      rw [List.countP_eq_zero]
      intro frame member
      rw [right frame member]
      decide
    exact unpaired none

-- A violation says the frames could not be paired, or names widths frames had.
theorem header_violation_text (role : Role) (frames : List Frame) (text : String)
    (violated : headerViolation role frames = some text) :
    (∃ unpaired, text = unpairedText role unpaired frames.length) ∨
    ∃ widths wrong, text = widthsText role widths wrong frames.length ∧
      ∀ width ∈ widths, some width ∈ frames.map Frame.headerBytes := by
  rw [headerViolation] at violated
  by_cases unpaired : frames.countP (fun frame => frame.headerBytes.isNone) = 0
  · rw [if_neg (not_not.mpr unpaired)] at violated
    by_cases none : ((frames.filterMap Frame.headerBytes).filter (· ≠ (requiredHeaderBytes : Int))).isEmpty = true
    · simp only [if_pos none, reduceCtorEq] at violated
    · simp only [if_neg none, Option.some_inj] at violated
      refine Or.inr ⟨_, _, violated.symm, ?_⟩
      intro width member
      have held := List.mem_of_mem_filter (List.mem_dedup.mp (List.mem_mergeSort.mp member))
      obtain ⟨frame, inFrames, header⟩ := List.mem_filterMap.mp held
      exact List.mem_map.mpr ⟨frame, inFrames, header⟩
  · rw [if_pos unpaired, Option.some_inj] at violated
    exact Or.inl ⟨_, violated.symm⟩

theorem unshared (chunks : List Chunk) (unique : (chunks.map Chunk.timestamp).Nodup) (chunk : Chunk)
    (member : chunk ∈ chunks) : sharing chunks chunk.timestamp = 1 := by
  have once := List.count_eq_one_of_mem unique (List.mem_map_of_mem member)
  rw [List.count, List.countP_map] at once
  exact once

-- Each frame's header is measured as the bytes before its audio, unless another chunk
-- shares its timestamp or it is cut before the timestamp's end.
theorem chunk_headers_measured (role : Role) (chunks : List Chunk) (crossings : List Crossing)
    (carried : ∀ crossing ∈ crossings, crossing.carries chunks) :
    ∃ frames, observedFrames chunks crossings = some frames ∧
      frames.map Frame.headerBytes = crossings.map (measured chunks) ∧
      ((chunks.map Chunk.timestamp).Nodup → (headerViolation role frames = none ↔
        ∀ crossing ∈ crossings, ∃ type chunk extra, crossing = .whole type chunk extra ∧ extra.length = 4)) ∧
      ∀ text, headerViolation role frames = some text →
        (∃ unpaired, text = unpairedText role unpaired frames.length) ∨
        ∃ widths wrong, text = widthsText role widths wrong frames.length ∧
          ∀ width ∈ widths, ∃ crossing ∈ crossings, ∃ bytes, crossing.width = some bytes ∧ width = (bytes : Int) := by
  have headers : (crossings.map (frameOf chunks)).map Frame.headerBytes = crossings.map (measured chunks) := by
    rw [List.map_map]
    apply List.map_congr_left
    intro crossing _
    exact header_measured chunks crossing
  refine ⟨_, observed_frames chunks crossings carried, headers, ?_, ?_⟩
  · intro unique
    rw [header_violation_none, List.forall_mem_map]
    apply forall_congr'
    intro crossing
    apply forall_congr'
    intro member
    rw [header_measured]
    cases crossing with
    | cut type rest short => simp [measured]
    | whole type chunk extra =>
        have one := unshared chunks unique chunk (carried _ member)
        simp only [measured, if_pos one, Option.some_inj, Crossing.whole.injEq]
        apply Iff.intro
        · intro width
          exact ⟨type, chunk, extra, ⟨rfl, rfl, rfl⟩, by omega⟩
        · intro ⟨_, _, _, ⟨_, _, same⟩, four⟩
          rw [same, four]
          rfl
  · intro text violated
    cases header_violation_text role _ text violated with
    | inl unpaired => exact Or.inl unpaired
    | inr named =>
        obtain ⟨widths, wrong, same, had⟩ := named
        refine Or.inr ⟨widths, wrong, same, ?_⟩
        intro width member
        have header := had width member
        rw [headers] at header
        obtain ⟨crossing, crossed, isHeader⟩ := List.mem_map.mp header
        refine ⟨crossing, crossed, ?_⟩
        cases crossing with
        | cut type rest short => cases isHeader
        | whole type chunk extra =>
            rw [measured] at isHeader
            by_cases one : sharing chunks chunk.timestamp = 1
            · rw [if_pos one, Option.some_inj] at isHeader
              exact ⟨9 + extra.length, rfl, by rw [← isHeader]; push_cast; rfl⟩
            · rw [if_neg one] at isHeader
              cases isHeader

-- A chunk stamped before zero, behind the required header and behind a short one.
theorem negative_timestamp_measured :
    ∃ frames, observedFrames [⟨-1, [7]⟩] [.whole 4 ⟨-1, [7]⟩ [0, 0, 0, 0], .whole 4 ⟨-1, [7]⟩ []] = some frames ∧
      frames.map Frame.headerBytes = [some 13, some 9] := by
  obtain ⟨frames, observed, headers, _, _⟩ := chunk_headers_measured .server [⟨-1, [7]⟩]
    [.whole 4 ⟨-1, [7]⟩ [0, 0, 0, 0], .whole 4 ⟨-1, [7]⟩ []] (by simp [Crossing.carries])
  exact ⟨frames, observed, headers⟩

end Conformance.Harness
