import Mathlib.Data.List.Induction
import Mathlib.Tactic.IntervalCases
import SendspinConformance.Noise.FragmentsDelivered

set_option autoImplicit false

namespace Conformance.Noise

open Base Python

-- What a decrypted frame can do to the message a receiver is reassembling.
inductive Turn (legacyOptIn : Bool) : Option InFlight → Bytes → Option InFlight → Decoded → Prop
  | failed (before : Option InFlight) (plaintext : Bytes) (reason : String) :
      Turn legacyOptIn before plaintext none (.message (.error reason))
  | whole (type : UInt8) (data : Bytes) (plain : type ≠ msgTypeFragment)
      (ordinary : legacyOptIn = true → type ≠ msgTypeFragmentMore ∧ type ≠ msgTypeFragmentEnd) :
      Turn legacyOptIn none (type :: data) none (arrival type data)
  | opened (type : UInt8) (chunk : Bytes) (plain : type ≠ msgTypeFragment)
      (fits : chunk.length ≤ maxReassembledMessageBytes) :
      Turn legacyOptIn none (msgTypeFragment :: fragmentFlagFirst :: type :: chunk) (some ⟨type, false, chunk⟩) .pending
  | only (type : UInt8) (chunk : Bytes) (plain : type ≠ msgTypeFragment)
      (fits : chunk.length ≤ maxReassembledMessageBytes) :
      Turn legacyOptIn none (msgTypeFragment :: (fragmentFlagLast ||| fragmentFlagFirst) :: type :: chunk) none
        (arrival type chunk)
  | continued (type : UInt8) (buffer chunk : Bytes) (fits : buffer.length + chunk.length ≤ maxReassembledMessageBytes) :
      Turn legacyOptIn (some ⟨type, false, buffer⟩) (msgTypeFragment :: 0 :: chunk)
        (some ⟨type, false, buffer ++ chunk⟩) .pending
  | ended (type : UInt8) (buffer chunk : Bytes) (fits : buffer.length + chunk.length ≤ maxReassembledMessageBytes) :
      Turn legacyOptIn (some ⟨type, false, buffer⟩) (msgTypeFragment :: fragmentFlagLast :: chunk) none
        (arrival type (buffer ++ chunk))
  | legacyOpened (type : UInt8) (chunk : Bytes) (optIn : legacyOptIn = true) (plain : type ∉ transportBinaryTypes)
      (fits : chunk.length ≤ maxReassembledMessageBytes) :
      Turn legacyOptIn none (msgTypeFragmentMore :: type :: chunk) (some ⟨type, true, chunk⟩) .pending
  | legacyContinued (type : UInt8) (buffer chunk : Bytes)
      (fits : buffer.length + chunk.length ≤ maxReassembledMessageBytes) :
      Turn legacyOptIn (some ⟨type, true, buffer⟩) (msgTypeFragmentMore :: chunk) (some ⟨type, true, buffer ++ chunk⟩)
        .pending
  | legacyEnded (type : UInt8) (buffer chunk : Bytes)
      (fits : buffer.length + chunk.length ≤ maxReassembledMessageBytes) :
      Turn legacyOptIn (some ⟨type, true, buffer⟩) (msgTypeFragmentEnd :: chunk) none (arrival type (buffer ++ chunk))

-- The receiver took the turn, its opt-in unchanged.
def Turned (receiver : Receiver) (plaintext : Bytes) (next : Receiver × Decoded) : Prop :=
  next.1.legacyOptIn = receiver.legacyOptIn ∧
    Turn receiver.legacyOptIn receiver.inFlight plaintext next.1.inFlight next.2

theorem turned_failed (receiver : Receiver) (plaintext : Bytes) (reason : String) :
    Turned receiver plaintext (receiver.error reason) := ⟨rfl, .failed _ plaintext reason⟩

theorem append_result (receiver : Receiver) (flight : InFlight) (data : Bytes) (last : Bool) :
    receiver.appendFragment flight data last = receiver.error "fragmented message exceeds maximum reassembly size" ∨
      flight.buffer.length + data.length ≤ maxReassembledMessageBytes ∧
        (last = false ∧ receiver.appendFragment flight data last =
            ({ receiver with inFlight := some { flight with buffer := flight.buffer ++ data } }, .pending) ∨
          last = true ∧ receiver.appendFragment flight data last =
            (receiver.informed flight.type (flight.buffer ++ data), arrival flight.type (flight.buffer ++ data))) := by
  by_cases fits : flight.buffer.length + data.length ≤ maxReassembledMessageBytes
  · cases last with
    | false => exact .inr ⟨fits, .inl ⟨rfl, append_pending receiver flight data fits⟩⟩
    | true => exact .inr ⟨fits, .inr ⟨rfl, append_last receiver flight data fits⟩⟩
  · rw [Receiver.appendFragment, if_pos (Nat.lt_of_not_le fits)]
    exact .inl rfl

theorem flags_unreserved (flags : UInt8) (free : flags &&& fragmentFlagsReserved = 0) :
    flags = 0 ∨ flags = fragmentFlagLast ∨ flags = fragmentFlagFirst ∨ flags = fragmentFlagLast ||| fragmentFlagFirst := by
  have every : ∀ number : Fin 256, UInt8.ofNat number.val &&& 0xFC = 0 → number.val < 4 := by decide +kernel
  have small : flags.toNat < 4 := every ⟨flags.toNat, flags.toNat_lt⟩ (by rw [UInt8.ofNat_toNat]; exact free)
  have same : flags = UInt8.ofNat flags.toNat := (UInt8.ofNat_toNat).symm
  generalize flags.toNat = number at small same
  subst same
  interval_cases number
  · exact .inl rfl
  · exact .inr (.inl rfl)
  · exact .inr (.inr (.inl rfl))
  · exact .inr (.inr (.inr rfl))

theorem first_turned (receiver : Receiver) (type : UInt8) (chunk : Bytes) (rest : List Bytes)
    (idle : receiver.inFlight = none) (plain : type ≠ msgTypeFragment) :
    Turned receiver (msgTypeFragment :: firstFlags rest :: type :: chunk)
      (receiver.appendFragment ⟨type, false, []⟩ chunk (rest = [])) := by
  rcases append_result receiver ⟨type, false, []⟩ chunk (rest = []) with failed | ⟨fits, ⟨more, appended⟩ | ⟨only, appended⟩⟩
  · rw [failed]
    exact turned_failed _ _ _
  · rw [appended, firstFlags, if_neg (by simpa using more), Turned, idle]
    exact ⟨rfl, .opened type chunk plain (by simpa using fits)⟩
  · rw [appended, firstFlags, if_pos (by simpa using only), Turned, idle]
    exact ⟨rfl, .only type chunk plain (by simpa using fits)⟩

theorem continuation_turned (receiver : Receiver) (type : UInt8) (buffer chunk : Bytes) (last : Bool)
    (held : receiver.inFlight = some ⟨type, false, buffer⟩) :
    Turned receiver (msgTypeFragment :: (if last then fragmentFlagLast else 0) :: chunk)
      (receiver.appendFragment ⟨type, false, buffer⟩ chunk last) := by
  rcases append_result receiver ⟨type, false, buffer⟩ chunk last with failed | ⟨fits, ⟨rfl, appended⟩ | ⟨rfl, appended⟩⟩
  · rw [failed]
    exact turned_failed _ _ _
  · rw [appended, Turned, held]
    exact ⟨rfl, .continued type buffer chunk fits⟩
  · rw [appended, Turned, held]
    exact ⟨rfl, .ended type buffer chunk fits⟩

theorem on_first_crossed (receiver : Receiver) (flight : InFlight) (rest : List Bytes) (data : Bytes)
    (held : receiver.inFlight = some flight) :
    receiver.onPlaintext (msgTypeFragment :: firstFlags rest :: data) =
      receiver.error "first fragment while a fragmented message is in flight" := by
  by_cases last : rest = [] <;> simp [Receiver.onPlaintext, Receiver.onFragment, held, firstFlags, last] <;> rfl

theorem on_later_orphaned (receiver : Receiver) (last : Bool) (data : Bytes) (idle : receiver.inFlight = none) :
    receiver.onPlaintext (msgTypeFragment :: (if last then fragmentFlagLast else 0) :: data) =
      receiver.error "continuation fragment with no fragmented message in flight" := by
  cases last with
  | false => simp [Receiver.onPlaintext, Receiver.onFragment, idle]
  | true =>
      simp [Receiver.onPlaintext, Receiver.onFragment, idle]
      rfl

-- A frame with the flags of a first one.
theorem on_first_turned (receiver : Receiver) (rest : List Bytes) (data : Bytes) :
    Turned receiver (msgTypeFragment :: firstFlags rest :: data)
      (receiver.onPlaintext (msgTypeFragment :: firstFlags rest :: data)) := by
  cases held : receiver.inFlight with
  | some flight => exact on_first_crossed receiver flight rest data held ▸ turned_failed _ _ _
  | none =>
      cases data with
      | nil =>
          have failed : receiver.onPlaintext [msgTypeFragment, firstFlags rest] =
              receiver.error "first fragment missing orig_type" := by
            by_cases last : rest = [] <;> simp [Receiver.onPlaintext, Receiver.onFragment, held, firstFlags, last] <;> rfl
          exact failed ▸ turned_failed _ _ _
      | cons type chunk =>
          by_cases plain : type = msgTypeFragment
          · have failed : receiver.onPlaintext (msgTypeFragment :: firstFlags rest :: type :: chunk) =
                receiver.error "first fragment has orig_type 1" := by
              by_cases last : rest = [] <;>
                simp [Receiver.onPlaintext, Receiver.onFragment, held, plain, firstFlags, last] <;> rfl
            exact failed ▸ turned_failed _ _ _
          · rw [on_first receiver type chunk rest held plain]
            exact first_turned receiver type chunk rest held plain

-- A frame with the flags of one that follows.
theorem on_later_turned (receiver : Receiver) (last : Bool) (data : Bytes) :
    Turned receiver (msgTypeFragment :: (if last then fragmentFlagLast else 0) :: data)
      (receiver.onPlaintext (msgTypeFragment :: (if last then fragmentFlagLast else 0) :: data)) := by
  cases held : receiver.inFlight with
  | none => exact on_later_orphaned receiver last data held ▸ turned_failed _ _ _
  | some flight =>
      rcases flight with ⟨type, legacy, buffer⟩
      cases legacy with
      | true =>
          have failed : receiver.onPlaintext (msgTypeFragment :: (if last then fragmentFlagLast else 0) :: data) =
              receiver.error "type 1 fragment inside a legacy fragmented message" := by
            cases last with
            | false => simp [Receiver.onPlaintext, Receiver.onFragment, held]
            | true =>
                simp [Receiver.onPlaintext, Receiver.onFragment, held]
                rfl
          exact failed ▸ turned_failed _ _ _
      | false =>
          rw [on_continuation receiver _ data last held rfl]
          exact continuation_turned receiver type buffer data last held

theorem on_fragment_turned (receiver : Receiver) (rest : Bytes) :
    Turned receiver (msgTypeFragment :: rest) (receiver.onPlaintext (msgTypeFragment :: rest)) := by
  cases rest with
  | nil => exact turned_failed _ _ _
  | cons flags data =>
      by_cases free : flags &&& fragmentFlagsReserved = 0
      · rcases flags_unreserved flags free with rfl | rfl | rfl | rfl
        · exact on_later_turned receiver false data
        · exact on_later_turned receiver true data
        · exact on_first_turned receiver [[]] data
        · exact on_first_turned receiver [] data
      · have failed : receiver.onPlaintext (msgTypeFragment :: flags :: data) =
            receiver.error ("fragment flags 0x" ++ Receiver.hexByte flags ++ " set reserved bits") := by
          simp [Receiver.onPlaintext, Receiver.onFragment, free]
        exact failed ▸ turned_failed _ _ _

theorem on_legacy_turned (receiver : Receiver) (last : Bool) (rest : Bytes) (optIn : receiver.legacyOptIn = true) :
    Turned receiver ((if last then msgTypeFragmentEnd else msgTypeFragmentMore) :: rest)
      (receiver.onPlaintext ((if last then msgTypeFragmentEnd else msgTypeFragmentMore) :: rest)) := by
  have routed : receiver.onPlaintext ((if last then msgTypeFragmentEnd else msgTypeFragmentMore) :: rest) =
      receiver.onLegacyFragment (if last then msgTypeFragmentEnd else msgTypeFragmentMore) rest := by
    cases last <;> simp [Receiver.onPlaintext, optIn, msgTypeFragment, msgTypeFragmentMore, msgTypeFragmentEnd]
  cases held : receiver.inFlight with
  | some flight =>
      rcases flight with ⟨type, legacy, buffer⟩
      cases legacy with
      | false =>
          have failed : receiver.onPlaintext ((if last then msgTypeFragmentEnd else msgTypeFragmentMore) :: rest) =
              receiver.error "legacy fragment inside a type 1 fragmented message" := by
            simp only [routed, Receiver.onLegacyFragment, held]
            rfl
          exact failed ▸ turned_failed _ _ _
      | true =>
          rw [on_legacy_continuation receiver _ rest last optIn held rfl]
          rcases append_result receiver ⟨type, true, buffer⟩ rest last with
            failed | ⟨fits, ⟨rfl, appended⟩ | ⟨rfl, appended⟩⟩
          · exact failed ▸ turned_failed _ _ _
          · rw [appended, Turned, held]
            exact ⟨rfl, .legacyContinued type buffer rest fits⟩
          · rw [appended, Turned, held]
            exact ⟨rfl, .legacyEnded type buffer rest fits⟩
  | none =>
      cases last with
      | true =>
          have failed : receiver.onPlaintext (msgTypeFragmentEnd :: rest) =
              receiver.error "legacy fragment-end frame with no fragmented message in flight" := by
            rw [if_pos rfl] at routed
            simp only [routed, Receiver.onLegacyFragment, held]
            rfl
          exact failed ▸ turned_failed _ _ _
      | false =>
          rw [if_neg Bool.false_ne_true] at routed
          cases rest with
          | nil =>
              have failed : receiver.onPlaintext [msgTypeFragmentMore] =
                  receiver.error "legacy fragment start frame missing orig_type" := by
                simp only [routed, Receiver.onLegacyFragment, held]
                rfl
              exact failed ▸ turned_failed _ _ _
          | cons type chunk =>
              by_cases plain : type ∈ transportBinaryTypes
              · have failed : receiver.onPlaintext (msgTypeFragmentMore :: type :: chunk) =
                    receiver.error ("legacy fragment has reserved orig_type " ++ toString type.toNat) := by
                  rw [routed]
                  simp [Receiver.onLegacyFragment, held, plain, msgTypeFragmentMore, msgTypeFragmentEnd]
                exact failed ▸ turned_failed _ _ _
              · rw [if_neg Bool.false_ne_true, on_legacy_first receiver type chunk held optIn plain]
                rcases append_result { receiver with legacySeen := receiver.legacySeen + 1 } ⟨type, true, []⟩ chunk false
                  with failed | ⟨fits, ⟨_, appended⟩ | ⟨impossible, _⟩⟩
                · rw [failed]
                  exact ⟨rfl, .failed _ _ _⟩
                · rw [appended, Turned, held]
                  exact ⟨rfl, .legacyOpened type chunk optIn plain (by simpa using fits)⟩
                · cases impossible

theorem on_plaintext_turned (receiver : Receiver) (plaintext : Bytes) :
    Turned receiver plaintext (receiver.onPlaintext plaintext) := by
  cases plaintext with
  | nil => exact turned_failed _ _ _
  | cons type data =>
      by_cases fragment : type = msgTypeFragment
      · exact fragment ▸ on_fragment_turned receiver data
      · by_cases legacy : (type = msgTypeFragmentMore ∨ type = msgTypeFragmentEnd) ∧ receiver.legacyOptIn = true
        · obtain ⟨rfl | rfl, optIn⟩ := legacy
          · exact on_legacy_turned receiver false data optIn
          · exact on_legacy_turned receiver true data optIn
        · have plain : ((type == msgTypeFragmentMore || type == msgTypeFragmentEnd) && receiver.legacyOptIn) = false := by
            simpa [← Bool.not_eq_true] using legacy
          cases held : receiver.inFlight with
          | some flight =>
              have failed : receiver.onPlaintext (type :: data) =
                  receiver.error "non-fragment frame while a fragmented message is in flight" := by
                simp only [Receiver.onPlaintext, if_neg fragment, plain, held]
                rfl
              exact failed ▸ turned_failed _ _ _
          | none =>
              have whole : receiver.onPlaintext (type :: data) = (receiver.informed type data, arrival type data) := by
                rw [← dispatch_arrival receiver type data held]
                simp only [Receiver.onPlaintext, if_neg fragment, plain, held, Option.isSome_none]
                rfl
              rw [whole, Turned, held]
              refine ⟨rfl, .whole type data fragment fun optIn => ?_⟩
              exact ⟨fun same => legacy ⟨.inl same, optIn⟩, fun same => legacy ⟨.inr same, optIn⟩⟩

-- What receive() gives a message of its own for, and not an error or the end of the connection.
def Decoded.arrived : Decoded → Bool
  | .raised => true
  | .message (.text _) => true
  | .message (.binary _) => true
  | _ => false

-- The receiver started idle is idle again.
def IdleAfter (receiver : Receiver) (raws : List RawFrame) : Prop := (receiver.receiveAll raws).1.inFlight = none

-- A frame of the peer, and not aiohttp's word that the connection failed or closed.
def RawFrame.isFrame : RawFrame → Bool
  | .closed => false
  | .error _ => false
  | _ => true

-- The frames among them decrypt to these plaintexts.
def Brings (raws : List RawFrame) (frames : List Bytes) : Prop := Decrypts (raws.filter RawFrame.isFrame) frames

-- The frames in which a message being reassembled has come so far.
def openingFrames (legacy : Bool) (type : UInt8) (first : Bytes) (middle : List Bytes) : List Bytes :=
  if legacy then (msgTypeFragmentMore :: type :: first) :: middle.map (msgTypeFragmentMore :: ·)
  else (msgTypeFragment :: fragmentFlagFirst :: type :: first) :: middle.map fun chunk => msgTypeFragment :: 0 :: chunk

-- What a receiver holds of the frames read: nothing, or the message its last frames opened and have not ended.
inductive Gathered (receiver : Receiver) (read : List RawFrame) : Option InFlight → Prop
  | idle : Gathered receiver read none
  | held (earlier opening : List RawFrame) (legacy : Bool) (type : UInt8) (first : Bytes) (middle : List Bytes)
      (split : read = earlier ++ opening) (idleBefore : IdleAfter receiver earlier)
      (brought : Brings opening (openingFrames legacy type first middle))
      (plain : type ≠ msgTypeFragment)
      (legacyPlain : legacy = true → receiver.legacyOptIn = true ∧ type ∉ transportBinaryTypes)
      (fits : (first ++ middle.flatten).length ≤ maxReassembledMessageBytes) :
      Gathered receiver read (some ⟨type, legacy, first ++ middle.flatten⟩)

theorem brings_one (raw plaintext : Bytes) : Brings [.binary raw (some plaintext)] [plaintext] := .cons ⟨raw, rfl⟩ .nil

theorem brings_snoc (raws : List RawFrame) (frames : List Bytes) (raw plaintext : Bytes) (read : Brings raws frames) :
    Brings (raws ++ [.binary raw (some plaintext)]) (frames ++ [plaintext]) := by
  rw [Brings, List.filter_append]
  exact List.rel_append read (brings_one raw plaintext)

theorem brings_nothing (raws : List RawFrame) (frames : List Bytes) (raw : RawFrame) (noFrame : raw.isFrame = false)
    (read : Brings raws frames) : Brings (raws ++ [raw]) frames := by
  rw [Brings, List.filter_append, List.filter_cons_of_neg (by simp [noFrame]), List.filter_nil, List.append_nil]
  exact read

theorem opening_snoc (legacy : Bool) (type : UInt8) (first chunk : Bytes) (middle : List Bytes) :
    openingFrames legacy type first middle ++
        [if legacy then msgTypeFragmentMore :: chunk else msgTypeFragment :: 0 :: chunk] =
      openingFrames legacy type first (middle ++ [chunk]) := by
  cases legacy <;> simp [openingFrames]

theorem continuations_snoc (middle : List Bytes) (last : Bytes) :
    continuations (middle ++ [last]) =
      (middle.map fun chunk => msgTypeFragment :: 0 :: chunk) ++ [msgTypeFragment :: fragmentFlagLast :: last] := by
  induction middle with
  | nil => rfl
  | cons chunk rest ih =>
      cases rest with
      | nil => rfl
      | cons second rest =>
          change (msgTypeFragment :: 0 :: chunk) :: continuations (second :: rest ++ [last]) = _
          rw [ih]
          rfl

theorem legacy_tail_snoc (middle : List Bytes) (last : Bytes) :
    legacyTail (middle ++ [last]) = middle.map (msgTypeFragmentMore :: ·) ++ [msgTypeFragmentEnd :: last] := by
  induction middle with
  | nil => rfl
  | cons chunk rest ih =>
      rw [List.cons_append, legacy_tail_cons, if_neg (by simp), ih]
      rfl

-- The last frame of a message completes frames that carry it.
theorem ended_carries (legacyOptIn legacy : Bool) (type : UInt8) (first last : Bytes) (middle : List Bytes)
    (plain : type ≠ msgTypeFragment)
    (legacyPlain : legacy = true → legacyOptIn = true ∧ type ∉ transportBinaryTypes)
    (fits : (first ++ middle.flatten).length + last.length ≤ maxReassembledMessageBytes) :
    Carries legacyOptIn type (first ++ middle.flatten ++ last)
      (openingFrames legacy type first middle ++
        [if legacy then msgTypeFragmentEnd :: last else msgTypeFragment :: fragmentFlagLast :: last]) := by
  have joined : first ++ middle.flatten ++ last = first ++ (middle ++ [last]).flatten := by simp
  have size : (first ++ (middle ++ [last]).flatten).length ≤ maxReassembledMessageBytes := by
    rw [← joined, List.length_append]
    exact fits
  rw [joined]
  cases legacy with
  | true =>
      have carried := Carries.legacy type first (middle ++ [last]) (by simp) (legacyPlain rfl).1 (legacyPlain rfl).2 size
      rw [legacy_tail_snoc] at carried
      exact carried
  | false =>
      have carried := @Carries.fragments legacyOptIn type first (middle ++ [last]) plain size
      rw [fragment_frames_cons, continuations_snoc, firstFlags, if_neg (by simp)] at carried
      exact carried

-- The frames a message has arrived in: the last ones read, since the receiver was last idle.
def Arrived (receiver : Receiver) (read : List RawFrame) (decoded : Decoded) : Prop :=
  ∃ earlier bracket type data frames, read = earlier ++ bracket ∧ IdleAfter receiver earlier ∧ Brings bracket frames ∧
    Carries receiver.legacyOptIn type data frames ∧ decoded = arrival type data

theorem continued_gathered (receiver : Receiver) (read : List RawFrame) (raw : Bytes) (legacy : Bool) (type : UInt8)
    (buffer chunk : Bytes) (gathered : Gathered receiver read (some ⟨type, legacy, buffer⟩))
    (fits : buffer.length + chunk.length ≤ maxReassembledMessageBytes) :
    Gathered receiver
      (read ++ [.binary raw (some (if legacy then msgTypeFragmentMore :: chunk else msgTypeFragment :: 0 :: chunk))])
      (some ⟨type, legacy, buffer ++ chunk⟩) := by
  cases gathered with
  | held earlier opening _ _ first middle split idle brought plain legacyPlain _ =>
      have more := brings_snoc opening _ raw (if legacy then msgTypeFragmentMore :: chunk else msgTypeFragment :: 0 :: chunk)
        brought
      rw [opening_snoc legacy type first chunk middle] at more
      have joined : first ++ middle.flatten ++ chunk = first ++ (middle ++ [chunk]).flatten := by simp
      rw [joined]
      refine .held earlier _ legacy type first (middle ++ [chunk]) (by rw [split, List.append_assoc]) idle more plain
        legacyPlain ?_
      rw [← joined, List.length_append]
      exact fits

-- A word of aiohttp's passes without touching what is being reassembled.
theorem passed_gathered (receiver : Receiver) (read : List RawFrame) (raw : RawFrame) (held : Option InFlight)
    (noFrame : raw.isFrame = false) (gathered : Gathered receiver read held) : Gathered receiver (read ++ [raw]) held := by
  cases gathered with
  | idle => exact .idle
  | held earlier opening legacy type first middle split idle brought plain legacyPlain fits =>
      exact .held earlier (opening ++ [raw]) legacy type first middle (by rw [split, List.append_assoc]) idle
        (brings_nothing opening _ raw noFrame brought) plain legacyPlain fits

theorem ended_arrived (receiver : Receiver) (read : List RawFrame) (raw : Bytes) (legacy : Bool) (type : UInt8)
    (buffer last : Bytes) (gathered : Gathered receiver read (some ⟨type, legacy, buffer⟩))
    (fits : buffer.length + last.length ≤ maxReassembledMessageBytes) :
    Arrived receiver
      (read ++
        [.binary raw (some (if legacy then msgTypeFragmentEnd :: last else msgTypeFragment :: fragmentFlagLast :: last))])
      (arrival type (buffer ++ last)) := by
  cases gathered with
  | held earlier opening _ _ first middle split idle brought plain legacyPlain _ =>
      have bracket := brings_snoc opening _ raw
        (if legacy then msgTypeFragmentEnd :: last else msgTypeFragment :: fragmentFlagLast :: last) brought
      exact ⟨earlier, _, type, _, _, by rw [split, List.append_assoc], idle, bracket,
        ended_carries receiver.legacyOptIn legacy type first last middle plain legacyPlain fits, rfl⟩

-- One frame more: what is held of it, and the message it may complete.
theorem turn_gathered (receiver : Receiver) (read : List RawFrame) (before after : Option InFlight)
    (raw plaintext : Bytes) (decoded : Decoded) (idleBefore : before = none → IdleAfter receiver read)
    (gathered : Gathered receiver read before) (turn : Turn receiver.legacyOptIn before plaintext after decoded) :
    Gathered receiver (read ++ [.binary raw (some plaintext)]) after ∧
      (decoded.arrived = true → Arrived receiver (read ++ [.binary raw (some plaintext)]) decoded) := by
  have single := brings_one raw plaintext
  cases turn with
  | failed => exact ⟨.idle, fun impossible => by cases impossible⟩
  | whole type data plain ordinary =>
      exact ⟨.idle, fun _ => ⟨read, _, type, data, _, rfl, idleBefore rfl, single, .whole type data plain ordinary, rfl⟩⟩
  | opened type chunk plain fits =>
      refine ⟨?_, fun impossible => by cases impossible⟩
      have held := @Gathered.held receiver _ read _ false type chunk [] rfl (idleBefore rfl) single plain
        (fun impossible => by cases impossible) (by simpa using fits)
      simpa using held
  | only type chunk plain fits =>
      refine ⟨.idle, fun _ => ⟨read, _, type, chunk, _, rfl, idleBefore rfl, single, ?_, rfl⟩⟩
      have carried := @Carries.fragments receiver.legacyOptIn type chunk [] plain (by simpa using fits)
      rw [List.flatten_nil, List.append_nil, fragment_frames_cons] at carried
      exact carried
  | continued type buffer chunk fits =>
      exact ⟨continued_gathered receiver read raw false type buffer chunk gathered fits,
        fun impossible => by cases impossible⟩
  | ended type buffer chunk fits =>
      exact ⟨.idle, fun _ => ended_arrived receiver read raw false type buffer chunk gathered fits⟩
  | legacyOpened type chunk optIn plain fits =>
      refine ⟨?_, fun impossible => by cases impossible⟩
      have held := @Gathered.held receiver _ read _ true type chunk [] rfl (idleBefore rfl) single
        (fun same => plain (by rw [same]; decide)) (fun _ => ⟨optIn, plain⟩) (by simpa using fits)
      simpa using held
  | legacyContinued type buffer chunk fits =>
      exact ⟨continued_gathered receiver read raw true type buffer chunk gathered fits,
        fun impossible => by cases impossible⟩
  | legacyEnded type buffer chunk fits =>
      exact ⟨.idle, fun _ => ended_arrived receiver read raw true type buffer chunk gathered fits⟩

-- The tap records a frame, and changes nothing of what is being reassembled.
theorem decode_frame_kept (receiver : Receiver) (raw : RawFrame) :
    (receiver.decode raw).1.inFlight = (receiver.decodeFrame raw).1.inFlight ∧
      (receiver.decode raw).1.legacyOptIn = (receiver.decodeFrame raw).1.legacyOptIn ∧
      (receiver.decode raw).2 = (receiver.decodeFrame raw).2 := by
  rw [Receiver.decode]
  split <;> exact ⟨rfl, rfl, rfl⟩

-- What holds after every frame: what is held was gathered, and each message that came arrived whole.
structure Sound (receiver : Receiver) (read : List RawFrame) (now : Receiver) : Prop where
  optIn : now.legacyOptIn = receiver.legacyOptIn
  gathered : Gathered receiver read now.inFlight

theorem decode_sound (receiver now : Receiver) (read : List RawFrame) (raw : RawFrame)
    (sound : Sound receiver read now) (reached : now = (receiver.receiveAll read).1) :
    Sound receiver (read ++ [raw]) (now.decode raw).1 ∧
      ((now.decode raw).2.arrived = true → Arrived receiver (read ++ [raw]) (now.decode raw).2) := by
  obtain ⟨inFlight, optIn, decoded⟩ := decode_frame_kept now raw
  rw [decoded]
  suffices turned : (now.decodeFrame raw).1.legacyOptIn = receiver.legacyOptIn ∧
      Gathered receiver (read ++ [raw]) (now.decodeFrame raw).1.inFlight ∧
      ((now.decodeFrame raw).2.arrived = true → Arrived receiver (read ++ [raw]) (now.decodeFrame raw).2) from
    ⟨⟨optIn.trans turned.1, inFlight ▸ turned.2.1⟩, turned.2.2⟩
  cases raw with
  | binary data plaintext =>
      cases plaintext with
      | none => exact ⟨sound.optIn, .idle, fun impossible => by cases impossible⟩
      | some plaintext =>
          obtain ⟨kept, turn⟩ := on_plaintext_turned now plaintext
          rw [sound.optIn] at kept turn
          exact ⟨kept, turn_gathered receiver read _ _ data plaintext _
            (fun idle => by rw [IdleAfter, ← reached]; exact idle) sound.gathered turn⟩
  | other typeName data => exact ⟨sound.optIn, .idle, fun impossible => by cases impossible⟩
  | closed => exact ⟨sound.optIn, passed_gathered receiver read .closed _ rfl sound.gathered, fun arrived => by cases arrived⟩
  | error reason =>
      exact ⟨sound.optIn, passed_gathered receiver read _ _ rfl sound.gathered, fun arrived => by cases arrived⟩

theorem receive_all_snoc (receiver : Receiver) (read : List RawFrame) (raw : RawFrame) :
    (receiver.receiveAll (read ++ [raw])).1 = ((receiver.receiveAll read).1.decode raw).1 := by
  rw [receive_all_append]
  rfl

theorem receive_all_sound (receiver : Receiver) (idle : receiver.inFlight = none) (read : List RawFrame) :
    Sound receiver read (receiver.receiveAll read).1 := by
  induction read using List.reverseRecOn with
  | nil => exact ⟨rfl, idle ▸ .idle⟩
  | append_singleton read raw ih =>
      rw [receive_all_snoc]
      exact (decode_sound receiver _ read raw ih rfl).1

-- Whatever frames a peer sends, a message comes up only when its frames have come one after the other and complete,
-- and never more than the limit is held of one.
theorem only_whole_messages (receiver : Receiver) (idle : receiver.inFlight = none) (read : List RawFrame)
    (raw : RawFrame) :
    (((receiver.receiveAll read).1.decode raw).2.arrived = true →
        Arrived receiver (read ++ [raw]) ((receiver.receiveAll read).1.decode raw).2) ∧
      ∀ flight, (receiver.receiveAll read).1.inFlight = some flight → flight.buffer.length ≤ maxReassembledMessageBytes := by
  have sound := receive_all_sound receiver idle read
  refine ⟨(decode_sound receiver _ read raw sound rfl).2, ?_⟩
  intro flight held
  have gathered := sound.gathered
  rw [held] at gathered
  cases gathered with
  | held _ _ _ _ _ _ _ _ _ _ _ fits => exact fits

-- A message that comes in two frames is up once the second has come.
theorem second_frame_completes :
    let receiver : Receiver := ⟨false, none, 0, []⟩
    let first : RawFrame := .binary [9] (some [1, 2, 4, 7])
    let last : RawFrame := .binary [9] (some [1, 1, 8])
    Arrived receiver [first, last] (.message (.binary [4, 7, 8])) ∧
      ∀ flight, (receiver.receiveAll [first]).1.inFlight = some flight →
        flight.buffer.length ≤ maxReassembledMessageBytes := by
  have whole := only_whole_messages ⟨false, none, 0, []⟩ rfl [.binary [9] (some [1, 2, 4, 7])]
    (.binary [9] (some [1, 1, 8]))
  exact ⟨whole.1 rfl, whole.2⟩

end Conformance.Noise
