import Mathlib.Data.List.Forall2
import SendspinConformance.Noise.Wire

set_option autoImplicit false

namespace Conformance.Noise

open Base Python

-- The frames that follow the first one of a type 1 message.
def continuations : List Bytes → List Bytes
  | [] => []
  | [last] => [msgTypeFragment :: fragmentFlagLast :: last]
  | chunk :: rest => (msgTypeFragment :: 0 :: chunk) :: continuations rest

-- The flags of a message's first frame.
def firstFlags (rest : List Bytes) : UInt8 :=
  if rest = [] then fragmentFlagLast ||| fragmentFlagFirst else fragmentFlagFirst

theorem fragment_header_first (type : UInt8) (rest : List Bytes) :
    fragmentHeader type rest.length 0 = [msgTypeFragment, firstFlags rest, type] := by
  cases rest with
  | nil => rfl
  | cons chunk rest => simp [fragmentHeader, firstFlags]

theorem continuations_indexed (type : UInt8) (chunks : List Bytes) (skipped : Nat) :
    (chunks.mapIdx fun index chunk => fragmentHeader type (skipped + chunks.length) (skipped + index + 1) ++ chunk) =
      continuations chunks := by
  induction chunks generalizing skipped with
  | nil => rfl
  | cons chunk rest ih =>
      have later := ih (skipped + 1)
      simp only [List.mapIdx_cons, List.length_cons]
      have shifted (index : Nat) : skipped + (index + 1) + 1 = skipped + 1 + index + 1 := by omega
      have total : skipped + (rest.length + 1) = skipped + 1 + rest.length := by omega
      simp only [shifted, total, later]
      cases rest with
      | nil => simp [continuations, fragmentHeader]
      | cons second rest => simp [continuations, fragmentHeader]

theorem fragment_frames_cons (type : UInt8) (first : Bytes) (rest : List Bytes) :
    fragmentFrames type (first :: rest) =
      (msgTypeFragment :: firstFlags rest :: type :: first) :: continuations rest := by
  have later := continuations_indexed type rest 0
  simp only [Nat.zero_add] at later
  simp only [fragmentFrames, List.mapIdx_cons, List.length_cons, Nat.add_sub_cancel, later, fragment_header_first]
  rfl

theorem legacy_tail_cons (first : Bytes) (rest : List Bytes) :
    legacyTail (first :: rest) =
      ((if rest = [] then msgTypeFragmentEnd else msgTypeFragmentMore) :: first) :: legacyTail rest := by
  cases rest with
  | nil => rfl
  | cons second rest => simp [legacyTail, List.mapIdx_cons]

-- The frames that carry one message to a receiver: its plaintext as it is, or the fragments of any cut of it.
inductive Carries (legacyOptIn : Bool) : UInt8 → Bytes → List Bytes → Prop
  | whole (type : UInt8) (data : Bytes) (plain : type ≠ msgTypeFragment)
      (ordinary : legacyOptIn = true → type ≠ msgTypeFragmentMore ∧ type ≠ msgTypeFragmentEnd) :
      Carries legacyOptIn type data [type :: data]
  | fragments (type : UInt8) (first : Bytes) (rest : List Bytes) (plain : type ≠ msgTypeFragment)
      (fits : (first ++ rest.flatten).length ≤ maxReassembledMessageBytes) :
      Carries legacyOptIn type (first ++ rest.flatten) (fragmentFrames type (first :: rest))
  | legacy (type : UInt8) (first : Bytes) (rest : List Bytes) (more : rest ≠ []) (optIn : legacyOptIn = true)
      (plain : type ∉ transportBinaryTypes)
      (fits : (first ++ rest.flatten).length ≤ maxReassembledMessageBytes) :
      Carries legacyOptIn type (first ++ rest.flatten) ((msgTypeFragmentMore :: type :: first) :: legacyTail rest)

-- What the caller of receive() is given for a message.
def arrival (type : UInt8) (data : Bytes) : Decoded :=
  if type = msgTypeJsonBody then
    match utf8Decode data with
    | none => .raised
    | some text => .message (.text text)
  else .message (.binary (type :: data))

-- What the frame tap sees of it.
def arrivalTap (type : UInt8) (data : Bytes) : List Tapped :=
  if type = msgTypeJsonBody ∧ utf8Decode data = none then [] else [⟨type :: data, none⟩]

-- The receiver after a message has arrived whole.
def Receiver.informed (receiver : Receiver) (type : UInt8) (data : Bytes) : Receiver :=
  { receiver with inFlight := none, tapped := receiver.tapped ++ arrivalTap type data }

theorem dispatch_arrival (receiver : Receiver) (type : UInt8) (data : Bytes) (idle : receiver.inFlight = none) :
    receiver.dispatch type data = (receiver.informed type data, arrival type data) := by
  have same : { receiver with inFlight := none } = receiver := by rw [← idle]
  rw [Receiver.dispatch, Receiver.informed, arrival, arrivalTap]
  by_cases json : type = msgTypeJsonBody
  · rw [if_pos json, if_pos json]
    cases read : utf8Decode data with
    | none => simp [json, same]
    | some text =>
        rw [if_neg (by simp)]
        simp only [Receiver.tap, ← idle]
  · rw [if_neg json, if_neg json, if_neg (by simp [json])]
    simp only [Receiver.tap, ← idle]

theorem arrival_not_error (type : UInt8) (data : Bytes) (reason : String) :
    arrival type data ≠ .message (.error reason) := by
  rw [arrival]
  split
  · split <;> simp
  · simp

-- Frames the session decrypts to these plaintexts.
def Decrypts (raws : List RawFrame) (frames : List Bytes) : Prop :=
  List.Forall₂ (fun raw frame => ∃ data, raw = .binary data (some frame)) raws frames

theorem receive_all_append (receiver : Receiver) (first second : List RawFrame) :
    receiver.receiveAll (first ++ second) =
      (((receiver.receiveAll first).1.receiveAll second).1,
        (receiver.receiveAll first).2 ++ ((receiver.receiveAll first).1.receiveAll second).2) := by
  induction first generalizing receiver with
  | nil => rfl
  | cons raw rest ih =>
      rw [List.cons_append, Receiver.receiveAll, ih]
      simp [Receiver.receiveAll, List.append_assoc]

-- A frame that decrypts is decoded without a report, unless it fails.
theorem decode_plaintext (receiver : Receiver) (data plaintext : Bytes)
    (fine : ∀ reason, (receiver.onPlaintext plaintext).2 ≠ .message (.error reason)) :
    receiver.decode (.binary data (some plaintext)) = receiver.onPlaintext plaintext := by
  have silent : Receiver.failureTap (.binary data (some plaintext)) (receiver.onPlaintext plaintext).2 = none := by
    cases decoded : (receiver.onPlaintext plaintext).2 with
    | pending => rfl
    | raised => rfl
    | message message =>
        cases message with
        | error reason => exact absurd decoded (fine reason)
        | _ => rfl
  rw [Receiver.decode, Receiver.decodeFrame, silent]

theorem received_arrival (type : UInt8) (data : Bytes) : Receiver.received (arrival type data) = [arrival type data] := by
  rw [arrival]
  split
  · split <;> rfl
  · rfl

theorem append_pending (receiver : Receiver) (flight : InFlight) (data : Bytes)
    (fits : flight.buffer.length + data.length ≤ maxReassembledMessageBytes) :
    receiver.appendFragment flight data false =
      ({ receiver with inFlight := some { flight with buffer := flight.buffer ++ data } }, .pending) := by
  rw [Receiver.appendFragment, if_neg (Nat.not_lt.mpr fits)]
  rfl

theorem append_last (receiver : Receiver) (flight : InFlight) (data : Bytes)
    (fits : flight.buffer.length + data.length ≤ maxReassembledMessageBytes) :
    receiver.appendFragment flight data true =
      (receiver.informed flight.type (flight.buffer ++ data), arrival flight.type (flight.buffer ++ data)) := by
  rw [Receiver.appendFragment, if_neg (Nat.not_lt.mpr fits)]
  exact dispatch_arrival { receiver with inFlight := none } _ _ rfl

theorem on_continuation (receiver : Receiver) (flight : InFlight) (data : Bytes) (last : Bool)
    (held : receiver.inFlight = some flight) (modern : flight.legacy = false) :
    receiver.onPlaintext (msgTypeFragment :: (if last then fragmentFlagLast else 0) :: data) =
      receiver.appendFragment flight data last := by
  cases last <;>
    simp +decide [Receiver.onPlaintext, Receiver.onFragment, held, modern, fragmentFlagLast]

theorem on_first (receiver : Receiver) (type : UInt8) (first : Bytes) (rest : List Bytes)
    (idle : receiver.inFlight = none) (plain : type ≠ msgTypeFragment) :
    receiver.onPlaintext (msgTypeFragment :: firstFlags rest :: type :: first) =
      receiver.appendFragment ⟨type, false, []⟩ first (rest = []) := by
  by_cases last : rest = []
  · simp +decide [Receiver.onPlaintext, Receiver.onFragment, idle, plain, firstFlags, last, fragmentFlagLast,
      fragmentFlagFirst]
    rfl
  · simp +decide [Receiver.onPlaintext, Receiver.onFragment, idle, plain, firstFlags, last, fragmentFlagFirst]
    rfl

theorem on_legacy_first (receiver : Receiver) (type : UInt8) (first : Bytes) (idle : receiver.inFlight = none)
    (optIn : receiver.legacyOptIn = true) (plain : type ∉ transportBinaryTypes) :
    receiver.onPlaintext (msgTypeFragmentMore :: type :: first) =
      { receiver with legacySeen := receiver.legacySeen + 1 }.appendFragment ⟨type, true, []⟩ first false := by
  simp [Receiver.onPlaintext, Receiver.onLegacyFragment, idle, optIn, plain, msgTypeFragment, msgTypeFragmentMore,
    msgTypeFragmentEnd]

theorem on_legacy_continuation (receiver : Receiver) (flight : InFlight) (data : Bytes) (last : Bool)
    (optIn : receiver.legacyOptIn = true) (held : receiver.inFlight = some flight) (legacy : flight.legacy = true) :
    receiver.onPlaintext ((if last then msgTypeFragmentEnd else msgTypeFragmentMore) :: data) =
      receiver.appendFragment flight data last := by
  cases last <;>
    simp [Receiver.onPlaintext, Receiver.onLegacyFragment, optIn, held, legacy, msgTypeFragment, msgTypeFragmentMore,
      msgTypeFragmentEnd]

-- Reading the frames from this receiver ends as reading one message does.
def Takes (receiver : Receiver) (raws : List RawFrame) (type : UInt8) (data : Bytes) : Prop :=
  receiver.receiveAll raws = (receiver.informed type data, [arrival type data])

theorem takes_last (receiver : Receiver) (raw : Bytes) (plaintext : Bytes) (type : UInt8) (data : Bytes)
    (turned : receiver.onPlaintext plaintext = (receiver.informed type data, arrival type data)) :
    Takes receiver [.binary raw (some plaintext)] type data := by
  have decoded : receiver.decode (.binary raw (some plaintext)) = (receiver.informed type data, arrival type data) := by
    rw [decode_plaintext receiver raw plaintext fun reason => by rw [turned]; exact arrival_not_error _ _ _, turned]
  rw [Takes, Receiver.receiveAll, decoded]
  simp only [Receiver.receiveAll, received_arrival, List.append_nil]

theorem takes_pending (receiver next : Receiver) (raw plaintext : Bytes) (rest : List RawFrame) (type : UInt8)
    (data : Bytes) (turned : receiver.onPlaintext plaintext = (next, .pending))
    (same : next.informed type data = receiver.informed type data) (later : Takes next rest type data) :
    Takes receiver (.binary raw (some plaintext) :: rest) type data := by
  have decoded : receiver.decode (.binary raw (some plaintext)) = (next, .pending) := by
    rw [decode_plaintext receiver raw plaintext fun reason => by rw [turned]; simp, turned]
  rw [Takes] at later ⊢
  rw [Receiver.receiveAll, decoded]
  simp only [later, Receiver.received, List.nil_append, same]

theorem continuations_taken (chunks : List Bytes) (some_chunks : chunks ≠ []) (receiver : Receiver) (type : UInt8)
    (buffer : Bytes) (raws : List RawFrame) (read : Decrypts raws (continuations chunks))
    (held : receiver.inFlight = some ⟨type, false, buffer⟩)
    (fits : buffer.length + chunks.flatten.length ≤ maxReassembledMessageBytes) :
    Takes receiver raws type (buffer ++ chunks.flatten) := by
  induction chunks generalizing receiver buffer raws with
  | nil => exact absurd rfl some_chunks
  | cons chunk rest ih =>
      rw [List.flatten_cons, List.length_append] at fits
      cases rest with
      | nil =>
          cases read with
          | cons first none =>
              obtain ⟨raw, rfl⟩ := first
              cases none
              apply takes_last
              have turned := on_continuation receiver _ chunk true held rfl
              rw [append_last receiver _ chunk (by simpa using fits)] at turned
              simpa using turned
      | cons second rest =>
          cases read with
          | cons first others =>
              obtain ⟨raw, rfl⟩ := first
              have turned := on_continuation receiver _ chunk false held rfl
              rw [append_pending receiver _ chunk (by simp only; omega)] at turned
              rw [List.flatten_cons, ← List.append_assoc]
              apply takes_pending receiver _ raw _ _ type _ turned rfl
              apply ih (by simp) _ (buffer ++ chunk) _ others rfl
              rw [List.length_append]
              omega

theorem legacy_tail_taken (chunks : List Bytes) (some_chunks : chunks ≠ []) (receiver : Receiver) (type : UInt8)
    (buffer : Bytes) (raws : List RawFrame) (read : Decrypts raws (legacyTail chunks))
    (optIn : receiver.legacyOptIn = true) (held : receiver.inFlight = some ⟨type, true, buffer⟩)
    (fits : buffer.length + chunks.flatten.length ≤ maxReassembledMessageBytes) :
    Takes receiver raws type (buffer ++ chunks.flatten) := by
  induction chunks generalizing receiver buffer raws with
  | nil => exact absurd rfl some_chunks
  | cons chunk rest ih =>
      rw [List.flatten_cons, List.length_append] at fits
      rw [legacy_tail_cons] at read
      cases rest with
      | nil =>
          cases read with
          | cons first none =>
              obtain ⟨raw, rfl⟩ := first
              cases none
              apply takes_last
              have turned := on_legacy_continuation receiver _ chunk true optIn held rfl
              rw [append_last receiver _ chunk (by simpa using fits)] at turned
              simpa using turned
      | cons second rest =>
          cases read with
          | cons first others =>
              obtain ⟨raw, rfl⟩ := first
              have turned := on_legacy_continuation receiver _ chunk false optIn held rfl
              rw [append_pending receiver _ chunk (by simp only; omega)] at turned
              rw [List.flatten_cons, ← List.append_assoc]
              apply takes_pending receiver _ raw _ _ type _ turned rfl
              refine ih (by simp) _ (buffer ++ chunk) _ others ?_ rfl ?_
              · exact optIn
              · rw [List.length_append]
                omega

-- An idle receiver reads the frames of a message as that message, however it was cut.
theorem carried_taken (receiver : Receiver) (type : UInt8) (data : Bytes) (frames : List Bytes) (raws : List RawFrame)
    (idle : receiver.inFlight = none) (carried : Carries receiver.legacyOptIn type data frames)
    (read : Decrypts raws frames) :
    ∃ seen, receiver.receiveAll raws =
      ({ receiver with legacySeen := receiver.legacySeen + seen }.informed type data, [arrival type data]) := by
  cases carried with
  | whole _ plain ordinary =>
      cases read with
      | cons first none =>
          obtain ⟨raw, rfl⟩ := first
          cases none
          have turned : receiver.onPlaintext (type :: data) = (receiver.informed type data, arrival type data) := by
            rw [← dispatch_arrival receiver type data idle]
            have ordinaryType : ((type == msgTypeFragmentMore || type == msgTypeFragmentEnd) &&
                receiver.legacyOptIn) = false := by
              cases opted : receiver.legacyOptIn with
              | false => simp
              | true => simpa using ordinary opted
            simp only [Receiver.onPlaintext, if_neg plain, ordinaryType, idle, Option.isSome_none]
            rfl
          exact ⟨0, takes_last receiver raw _ type data turned⟩
  | fragments first rest plain fits =>
      rw [List.length_append] at fits
      rw [fragment_frames_cons] at read
      cases read with
      | cons opened others =>
          obtain ⟨raw, rfl⟩ := opened
          have turned := on_first receiver type first rest idle plain
          refine ⟨0, ?_⟩
          by_cases only : rest = []
          · subst only
            cases others
            rw [decide_eq_true rfl, append_last receiver _ first (by simpa using fits)] at turned
            rw [List.flatten_nil, List.append_nil]
            exact takes_last receiver raw _ type first (by simpa using turned)
          · rw [decide_eq_false only, append_pending receiver _ first (by simp only [List.length_nil]; omega)] at turned
            apply takes_pending receiver _ raw _ _ type _ turned rfl
            exact continuations_taken rest only _ type first _ others (by simp) fits
  | legacy first rest more optIn plain fits =>
      rw [List.length_append] at fits
      cases read with
      | cons opened others =>
          obtain ⟨raw, rfl⟩ := opened
          have turned := on_legacy_first receiver type first idle optIn plain
          rw [append_pending _ _ first (by simp only [List.length_nil]; omega)] at turned
          have later := legacy_tail_taken rest more
            { receiver with legacySeen := receiver.legacySeen + 1, inFlight := some ⟨type, true, first⟩ } type first _
            others optIn rfl fits
          refine ⟨1, ?_⟩
          have decoded := decode_plaintext receiver raw (msgTypeFragmentMore :: type :: first) fun reason => by
            rw [turned]
            simp
          rw [turned] at decoded
          rw [Receiver.receiveAll, decoded]
          simp only [List.nil_append, Receiver.received]
          exact later

end Conformance.Noise
