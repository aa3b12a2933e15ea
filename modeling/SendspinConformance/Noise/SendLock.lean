import SendspinConformance.Noise.FragmentsSound

set_option autoImplicit false

namespace Conformance.Noise

open Base Python

-- One connection's sends: the callers waiting for _send_lock, the one that holds it with the
-- frames it has yet to send, the frames on the wire and what the frame tap saw go out.
structure Channel where
  waiting : List Message := []
  holder : Option (Message × List Bytes) := none
  wire : List Bytes := []
  tapped : List Message := []
deriving DecidableEq, Repr

-- What can happen next: a call of _send_plaintext, the lock going to the first caller, a frame
-- going out, the end of a send, and a task cancelled while it waits or between two frames.
inductive Act where
  | call (message : Message)
  | acquire
  | write
  | finish
  | withdraw (place : Nat)
  | cut
deriving DecidableEq, Repr

def Channel.step (legacyFragmentFraming : Bool) (channel : Channel) : Act → Option Channel
  | .call message =>
      if transportBinaryTypes.contains message.1 then none
      else some { channel with waiting := channel.waiting ++ [message] }
  | .acquire =>
      match channel.holder, channel.waiting with
      | none, message :: rest =>
          some { channel with
            waiting := rest, holder := some (message, sendPlaintext legacyFragmentFraming message.1 message.2) }
      | _, _ => none
  | .write =>
      match channel.holder with
      | some (message, frame :: rest) =>
          some { channel with holder := some (message, rest), wire := channel.wire ++ [frame] }
      | _ => none
  | .finish =>
      match channel.holder with
      | some (message, []) => some { channel with holder := none, tapped := channel.tapped ++ [message] }
      | _ => none
  | .withdraw place =>
      if place < channel.waiting.length then some { channel with waiting := channel.waiting.eraseIdx place } else none
  | .cut => channel.holder.map fun _ => { channel with holder := none }

-- A send that took the lock: how many of its frames went out, and whether it ran to its end.
structure Entry where
  message : Message
  written : Nat
  finished : Bool

def frames (message : Message) : List Bytes := sendPlaintext false message.1 message.2

def Entry.frames (entry : Entry) : List Bytes := (Noise.frames entry.message).take entry.written

-- The message went out whole.
def Entry.whole (entry : Entry) : Bool := (Noise.frames entry.message).length ≤ entry.written

-- The messages that come up at the peer. One cut off after its first frame leaves the peer in
-- the middle of it, and the next message with a frame on the wire is lost there.
def survivors : Bool → List Entry → List Message
  | _, [] => []
  | true, entry :: rest => survivors (entry.written == 0) rest
  | false, entry :: rest =>
      if entry.whole then entry.message :: survivors false rest
      else survivors (entry.written != 0) rest

-- The frames of a message, one or more fragments.
theorem frames_shape (message : Message) :
    frames message = [message.1 :: message.2] ∨
      ∃ first rest, rest ≠ [] ∧ frames message = fragmentFrames message.1 (first :: rest) ∧
        message.2 = first ++ rest.flatten := by
  rw [frames, sendPlaintext]
  by_cases small : (message.1 :: message.2).length ≤ maxTransportPlaintext
  · exact .inl (if_pos small)
  · rw [if_neg small, if_neg Bool.false_ne_true, fragment_cut]
    refine .inr ⟨_, _, ?_, rfl, ?_⟩
    · apply slices_nonempty
      · rw [List.length_cons] at small
        simp only [maxTransportPlaintext] at small ⊢
        omega
      · rw [maxTransportPlaintext]
        omega
    · rw [slices_flatten _ _ _ (by rw [maxTransportPlaintext]; omega), List.take_append_drop]

theorem frames_nonempty (message : Message) : frames message ≠ [] := by
  rcases frames_shape message with single | ⟨first, rest, _, split, _⟩
  · rw [single]
    exact List.cons_ne_nil _ _
  · rw [split, fragment_frames_cons]
    exact List.cons_ne_nil _ _

-- A receiver in the middle of a type 1 message, or one that is idle.
def Midway (receiver : Receiver) (dirty : Bool) : Prop :=
  if dirty then ∃ type buffer, receiver.inFlight = some ⟨type, false, buffer⟩ else receiver.inFlight = none

-- No message comes up, and the receiver is left so.
def Lost (receiver : Receiver) (raws : List RawFrame) (dirty : Bool) : Prop :=
  Midway (receiver.receiveAll raws).1 dirty ∧ (receiver.receiveAll raws).2.filter Decoded.arrived = []

theorem lost_cons (receiver : Receiver) (raw : RawFrame) (rest : List RawFrame) (dirty : Bool)
    (quiet : (receiver.decode raw).2.arrived = false) (later : Lost (receiver.decode raw).1 rest dirty) :
    Lost receiver (raw :: rest) dirty := by
  have nothing : (Receiver.received (receiver.decode raw).2).filter Decoded.arrived = [] := by
    cases decoded : (receiver.decode raw).2 with
    | pending => rfl
    | raised => rw [decoded] at quiet; cases quiet
    | message message =>
        rw [decoded] at quiet
        simp [Receiver.received, quiet]
  exact ⟨later.1, by rw [Receiver.receiveAll, List.filter_append, nothing, later.2]; rfl⟩

theorem decode_failed (receiver : Receiver) (raw plaintext : Bytes) (reason : String)
    (failed : receiver.onPlaintext plaintext = receiver.error reason) :
    (receiver.decode (.binary raw (some plaintext))).1.inFlight = none ∧
      (receiver.decode (.binary raw (some plaintext))).2.arrived = false := by
  obtain ⟨inFlight, _, decoded⟩ := decode_frame_kept receiver (.binary raw (some plaintext))
  rw [inFlight, decoded, Receiver.decodeFrame, failed]
  exact ⟨rfl, rfl⟩

-- Frames that follow a lost first one are lost with it.
theorem continuations_lost (chunks : List Bytes) (count : Nat) (receiver : Receiver) (raws : List RawFrame)
    (idle : receiver.inFlight = none) (read : Decrypts raws ((continuations chunks).take count)) :
    Lost receiver raws false := by
  induction chunks generalizing receiver raws count with
  | nil =>
      rw [continuations, List.take_nil] at read
      cases read
      exact ⟨idle, rfl⟩
  | cons chunk rest ih =>
      have split : ∃ last : Bool, continuations (chunk :: rest) =
          (msgTypeFragment :: (if last then fragmentFlagLast else 0) :: chunk) :: continuations rest := by
        cases rest with
        | nil => exact ⟨true, rfl⟩
        | cons second rest => exact ⟨false, rfl⟩
      obtain ⟨last, split⟩ := split
      rw [split] at read
      cases count with
      | zero =>
          cases read
          exact ⟨idle, rfl⟩
      | succ count =>
          rw [List.take_succ_cons] at read
          cases read with
          | cons first others =>
              obtain ⟨raw, rfl⟩ := first
              have failed : receiver.onPlaintext (msgTypeFragment :: (if last then fragmentFlagLast else 0) :: chunk) =
                  receiver.error "continuation fragment with no fragmented message in flight" :=
                on_later_orphaned receiver last chunk idle
              obtain ⟨after, quiet⟩ := decode_failed receiver raw _ _ failed
              exact lost_cons receiver _ _ false quiet (ih count _ _ after others)

theorem continuations_length (chunks : List Bytes) : (continuations chunks).length = chunks.length := by
  induction chunks with
  | nil => rfl
  | cons chunk rest ih =>
      cases rest with
      | nil => rfl
      | cons second rest => exact congrArg (· + 1) ih

-- Frames before the last one leave the message unfinished.
theorem continuations_held (chunks : List Bytes) (count : Nat) (receiver : Receiver) (type : UInt8) (buffer : Bytes)
    (raws : List RawFrame) (cutOff : count < chunks.length) (read : Decrypts raws ((continuations chunks).take count))
    (held : receiver.inFlight = some ⟨type, false, buffer⟩)
    (fits : buffer.length + chunks.flatten.length ≤ maxReassembledMessageBytes) : Lost receiver raws true := by
  induction chunks generalizing receiver buffer raws count with
  | nil => exact absurd cutOff (Nat.not_lt_zero count)
  | cons chunk rest ih =>
      rw [List.flatten_cons, List.length_append] at fits
      cases count with
      | zero =>
          cases read
          exact ⟨⟨type, buffer, held⟩, rfl⟩
      | succ count =>
          have more : rest ≠ [] := by
            rintro rfl
            simp at cutOff
          obtain ⟨second, others, rfl⟩ := List.exists_cons_of_ne_nil more
          change Decrypts raws ((msgTypeFragment :: 0 :: chunk) :: (continuations (second :: others)).take count) at read
          cases read with
          | cons first others =>
              obtain ⟨raw, rfl⟩ := first
              have turned := on_continuation receiver _ chunk false held rfl
              rw [append_pending receiver _ chunk (by simp only; omega)] at turned
              have decoded := decode_plaintext receiver raw (msgTypeFragment :: 0 :: chunk) fun reason => by
                rw [show receiver.onPlaintext (msgTypeFragment :: 0 :: chunk) = _ from turned]
                simp
              rw [show receiver.onPlaintext (msgTypeFragment :: 0 :: chunk) = _ from turned] at decoded
              apply lost_cons receiver _ _ true
              · rw [decoded]
                rfl
              · rw [decoded]
                refine ih count _ (buffer ++ chunk) _ (Nat.lt_of_succ_lt_succ cutOff) others rfl ?_
                rw [List.length_append]
                omega

theorem lost_nothing (receiver : Receiver) (dirty : Bool) (midway : Midway receiver dirty) : Lost receiver [] dirty :=
  ⟨midway, rfl⟩

-- A message cut off between its first and its last frame.
theorem cut_off_held (receiver : Receiver) (message : Message) (count : Nat) (raws : List RawFrame)
    (sendable : Sendable message) (idle : receiver.inFlight = none) (started : count ≠ 0)
    (cutOff : count < (frames message).length) (read : Decrypts raws ((frames message).take count)) :
    Lost receiver raws true := by
  have plain : message.1 ≠ msgTypeFragment := fun same => sendable.1 (by rw [same]; decide)
  rcases frames_shape message with single | ⟨first, rest, more, split, joined⟩
  · rw [single, List.length_singleton] at cutOff
    omega
  · have fits := sendable.2
    rw [joined, List.length_append] at fits
    rw [split, fragment_frames_cons] at read cutOff
    obtain ⟨before, rfl⟩ := Nat.exists_eq_succ_of_ne_zero started
    rw [List.take_succ_cons] at read
    rw [List.length_cons, continuations_length] at cutOff
    cases read with
    | cons opened others =>
        obtain ⟨raw, rfl⟩ := opened
        have turned := on_first receiver message.1 first rest idle plain
        rw [decide_eq_false more, append_pending receiver _ first (by simp only [List.length_nil]; omega)] at turned
        have decoded := decode_plaintext receiver raw (msgTypeFragment :: firstFlags rest :: message.1 :: first)
          fun reason => by rw [turned]; simp
        rw [turned] at decoded
        apply lost_cons receiver _ _ true
        · rw [decoded]
          rfl
        · rw [decoded]
          exact continuations_held rest before _ message.1 first _ (by omega) others rfl fits

-- A message whose frames meet another one unfinished.
theorem crossed_lost (receiver : Receiver) (message : Message) (count : Nat) (raws : List RawFrame)
    (sendable : Sendable message) (midway : Midway receiver true) (started : count ≠ 0)
    (read : Decrypts raws ((frames message).take count)) : Lost receiver raws false := by
  obtain ⟨type, buffer, held⟩ := midway
  obtain ⟨before, rfl⟩ := Nat.exists_eq_succ_of_ne_zero started
  rcases frames_shape message with single | ⟨first, rest, more, split, joined⟩
  · rw [single, List.take_succ_cons, List.take_nil] at read
    cases read with
    | cons only none =>
        obtain ⟨raw, rfl⟩ := only
        cases none
        have failed : receiver.onPlaintext (message.1 :: message.2) =
            receiver.error "non-fragment frame while a fragmented message is in flight" := by
          have outside := sendable.1
          simp only [transportBinaryTypes, List.mem_cons, List.not_mem_nil, or_false, not_or] at outside
          have ordinary : ((message.1 == msgTypeFragmentMore || message.1 == msgTypeFragmentEnd) &&
              receiver.legacyOptIn) = false := by
            simp [msgTypeFragmentMore, msgTypeFragmentEnd, outside]
          simp only [Receiver.onPlaintext, if_neg outside.1, ordinary, held]
          rfl
        obtain ⟨after, quiet⟩ := decode_failed receiver raw _ _ failed
        exact lost_cons receiver _ _ false quiet (lost_nothing _ false after)
  · rw [split, fragment_frames_cons, List.take_succ_cons] at read
    cases read with
    | cons opened others =>
        obtain ⟨raw, rfl⟩ := opened
        obtain ⟨after, quiet⟩ := decode_failed receiver raw _ _ (on_first_crossed receiver _ rest (message.1 :: first) held)
        exact lost_cons receiver _ _ false quiet (continuations_lost rest before _ _ after others)

-- What comes up at the peer of the frames on the wire.
def delivered (receiver : Receiver) (raws : List RawFrame) : List Decoded :=
  (receiver.receiveAll raws).2.filter Decoded.arrived

theorem delivered_append (receiver : Receiver) (first second : List RawFrame) :
    delivered receiver (first ++ second) = delivered receiver first ++ delivered (receiver.receiveAll first).1 second := by
  rw [delivered, receive_all_append, List.filter_append]
  rfl

theorem arrival_arrived (type : UInt8) (data : Bytes) : (arrival type data).arrived = true := by
  rw [arrival]
  split
  · split <;> rfl
  · rfl

theorem whole_delivered (receiver : Receiver) (message : Message) (raws : List RawFrame) (sendable : Sendable message)
    (idle : receiver.inFlight = none) (read : Decrypts raws (frames message)) :
    (receiver.receiveAll raws).1.inFlight = none ∧ delivered receiver raws = [arrival message.1 message.2] := by
  have carried := sent_carried false receiver.legacyOptIn (fun impossible => by cases impossible) message.1 message.2
    sendable.1 sendable.2
  obtain ⟨seen, taken⟩ := carried_taken receiver message.1 message.2 _ raws idle carried read
  rw [delivered, taken]
  exact ⟨rfl, by simp [arrival_arrived]⟩

theorem log_delivered (log : List Entry) (sendable : ∀ entry ∈ log, Sendable entry.message) (dirty : Bool)
    (receiver : Receiver) (midway : Midway receiver dirty) (raws : List RawFrame)
    (read : Decrypts raws (log.flatMap Entry.frames)) :
    delivered receiver raws = (survivors dirty log).map fun message => arrival message.1 message.2 := by
  induction log generalizing receiver dirty raws with
  | nil =>
      cases read
      cases dirty <;> rfl
  | cons entry rest ih =>
      rw [List.flatMap_cons] at read
      obtain ⟨first, others, rfl, readFirst, readOthers⟩ := decrypts_split raws _ _ read
      have here := sendable entry List.mem_cons_self
      have later := fun other member => sendable other (List.mem_cons_of_mem entry member)
      rw [delivered_append]
      -- Frames of this entry that bring up nothing leave the rest to a receiver in the state `after`.
      have lost (after : Bool) (nothing : Lost receiver first after) :
          delivered receiver first ++ delivered (receiver.receiveAll first).1 others =
            (survivors after rest).map fun message => arrival message.1 message.2 := by
        rw [delivered, nothing.2, List.nil_append]
        exact ih later after _ nothing.1 others readOthers
      have unwritten (none : entry.written = 0) : first = [] := by
        rw [Entry.frames, none, List.take_zero] at readFirst
        cases readFirst
        rfl
      cases dirty with
      | true =>
          rw [survivors]
          by_cases none : entry.written = 0
          · rw [none, unwritten none]
            exact ih later true receiver midway others readOthers
          · rw [beq_eq_false_iff_ne.mpr none]
            exact lost false (crossed_lost receiver entry.message entry.written first here midway none readFirst)
      | false =>
          rw [survivors]
          by_cases whole : entry.whole = true
          · rw [if_pos whole, List.map_cons]
            rw [Entry.frames, List.take_of_length_le (by simpa [Entry.whole] using whole)] at readFirst
            obtain ⟨after, taken⟩ := whole_delivered receiver entry.message first here midway readFirst
            rw [taken, ih later false _ after others readOthers]
            rfl
          · rw [if_neg whole]
            by_cases none : entry.written = 0
            · rw [none, unwritten none]
              exact ih later false receiver midway others readOthers
            · rw [bne_iff_ne.mpr none]
              exact lost true (cut_off_held receiver entry.message entry.written first here midway none
                (by simpa [Entry.whole] using whole) readFirst)

end Conformance.Noise
