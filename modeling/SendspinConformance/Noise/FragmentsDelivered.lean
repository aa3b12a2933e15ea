import SendspinConformance.Noise.Fragments

set_option autoImplicit false

namespace Conformance.Noise

open Base Python

-- What send_str and send_bytes put on the wire carries the message, in frames the Noise transport takes.

theorem continuation_length (chunks : List Bytes) (frame : Bytes) (sent : frame ∈ continuations chunks) :
    ∃ chunk ∈ chunks, frame.length = chunk.length + 2 := by
  induction chunks with
  | nil => cases sent
  | cons chunk rest ih =>
      cases rest with
      | nil =>
          rw [continuations, List.mem_singleton] at sent
          exact ⟨chunk, List.mem_cons_self, by rw [sent]; rfl⟩
      | cons second rest =>
          rcases List.mem_cons.mp sent with rfl | later
          · exact ⟨chunk, List.mem_cons_self, rfl⟩
          · obtain ⟨other, member, size⟩ := ih later
            exact ⟨other, List.mem_cons_of_mem chunk member, size⟩

theorem legacy_tail_length (chunks : List Bytes) (frame : Bytes) (sent : frame ∈ legacyTail chunks) :
    ∃ chunk ∈ chunks, frame.length = chunk.length + 1 := by
  induction chunks with
  | nil => cases sent
  | cons chunk rest ih =>
      rw [legacy_tail_cons, List.mem_cons] at sent
      rcases sent with rfl | later
      · exact ⟨chunk, List.mem_cons_self, rfl⟩
      · obtain ⟨other, member, size⟩ := ih later
        exact ⟨other, List.mem_cons_of_mem chunk member, size⟩

theorem fragment_cut (type : UInt8) (data : Bytes) :
    fragment type data =
      fragmentFrames type (data.take (maxTransportPlaintext - 3) ::
        slices data (maxTransportPlaintext - 3) (maxTransportPlaintext - 2)) := rfl

theorem fragment_legacy_cut (type : UInt8) (data : Bytes) :
    fragmentLegacy type data =
      (msgTypeFragmentMore :: type :: data.take (maxTransportPlaintext - 2)) ::
        legacyTail (slices (data.drop (maxTransportPlaintext - 2)) 0 (maxTransportPlaintext - 1)) := rfl

-- Each frame leaves room for the tag in a Noise transport message.
theorem sent_frames_fit (legacy : Bool) (type : UInt8) (data : Bytes) (frame : Bytes)
    (sent : frame ∈ sendPlaintext legacy type data) : frame.length ≤ maxTransportPlaintext := by
  rw [sendPlaintext] at sent
  by_cases small : (type :: data).length ≤ maxTransportPlaintext
  · rw [if_pos small, List.mem_singleton] at sent
    exact sent ▸ small
  · rw [if_neg small] at sent
    cases legacy with
    | true =>
        rw [if_pos rfl, fragment_legacy_cut, List.mem_cons] at sent
        rcases sent with rfl | later
        · have cut := Nat.min_le_left (maxTransportPlaintext - 2) data.length
          simp only [List.length_cons, List.length_take]
          simp only [maxTransportPlaintext] at cut ⊢
          omega
        · obtain ⟨chunk, member, size⟩ := legacy_tail_length _ frame later
          have cut := slices_length _ _ _ chunk member
          rw [size]
          simp only [maxTransportPlaintext] at cut ⊢
          omega
    | false =>
        rw [if_neg Bool.false_ne_true, fragment_cut, fragment_frames_cons, List.mem_cons] at sent
        rcases sent with rfl | later
        · have cut := Nat.min_le_left (maxTransportPlaintext - 3) data.length
          simp only [List.length_cons, List.length_take]
          simp only [maxTransportPlaintext] at cut ⊢
          omega
        · obtain ⟨chunk, member, size⟩ := continuation_length _ frame later
          have cut := slices_length _ _ _ chunk member
          rw [size]
          simp only [maxTransportPlaintext] at cut ⊢
          omega

theorem plaintext_type (outgoing : Outgoing) (type : UInt8) (data : Bytes)
    (accepted : outgoing.plaintext = .ok (type, data)) : type ∉ transportBinaryTypes := by
  cases outgoing with
  | str text =>
      cases accepted
      decide
  | bytes bytes =>
      cases bytes with
      | nil => cases accepted
      | cons first rest =>
          rw [Outgoing.plaintext] at accepted
          split at accepted
          · cases accepted
          · rename_i free
            cases accepted
            simpa using free

-- A message the peer can take.
def Sendable (message : Message) : Prop :=
  message.1 ∉ transportBinaryTypes ∧ message.2.length ≤ maxReassembledMessageBytes

-- What send_str and send_bytes accept, the peer can take unless it is too long.
theorem accepted_sendable (outgoing : Outgoing) (message : Message) (accepted : outgoing.plaintext = .ok message)
    (fits : message.2.length ≤ maxReassembledMessageBytes) : Sendable message :=
  ⟨plaintext_type outgoing message.1 message.2 accepted, fits⟩

theorem all_sendable (sent : List Outgoing) (messages : List Message)
    (accepted : List.Forall₂ (fun outgoing message => outgoing.plaintext = .ok message) sent messages)
    (small : ∀ message ∈ messages, message.2.length ≤ maxReassembledMessageBytes) :
    ∀ message ∈ messages, Sendable message := by
  induction accepted with
  | nil => exact fun _ member => (List.not_mem_nil member).elim
  | cons here _ ih =>
      rw [List.forall_mem_cons] at small ⊢
      exact ⟨accepted_sendable _ _ here small.1, ih small.2⟩

theorem sent_carried (legacy legacyOptIn : Bool) (framing : legacy = true → legacyOptIn = true) (type : UInt8)
    (data : Bytes) (plain : type ∉ transportBinaryTypes) (fits : data.length ≤ maxReassembledMessageBytes) :
    Carries legacyOptIn type data (sendPlaintext legacy type data) := by
  have notFragment : type ≠ msgTypeFragment := fun same => plain (by rw [same]; decide)
  rw [sendPlaintext]
  by_cases small : (type :: data).length ≤ maxTransportPlaintext
  · rw [if_pos small]
    refine .whole type data notFragment fun _ => ⟨fun same => plain ?_, fun same => plain ?_⟩
    · rw [same]
      decide
    · rw [same]
      decide
  · rw [if_neg small]
    rw [List.length_cons] at small
    cases legacy with
    | true =>
        have joined : data.take (maxTransportPlaintext - 2) ++
            (slices (data.drop (maxTransportPlaintext - 2)) 0 (maxTransportPlaintext - 1)).flatten = data := by
          rw [slices_flatten _ _ _ (by decide), List.drop_zero, List.take_append_drop]
        have more : slices (data.drop (maxTransportPlaintext - 2)) 0 (maxTransportPlaintext - 1) ≠ [] := by
          apply slices_nonempty _ _ _ _ (by decide)
          rw [List.length_drop]
          simp only [maxTransportPlaintext] at small ⊢
          omega
        have carried := Carries.legacy type _ _ more (framing rfl) plain (by rw [joined]; exact fits)
        rw [if_pos rfl, fragment_legacy_cut]
        rw [joined] at carried
        exact carried
    | false =>
        have joined : data.take (maxTransportPlaintext - 3) ++
            (slices data (maxTransportPlaintext - 3) (maxTransportPlaintext - 2)).flatten = data := by
          rw [slices_flatten _ _ _ (by decide), List.take_append_drop]
        have carried := @Carries.fragments legacyOptIn type _ _ notFragment (by rw [joined]; exact fits)
        rw [if_neg Bool.false_ne_true, fragment_cut]
        rw [joined] at carried
        exact carried

-- The receiver after whole messages have arrived.
def Receiver.informedAll (receiver : Receiver) (seen : Nat) (messages : List Message) : Receiver :=
  { receiver with
    legacySeen := receiver.legacySeen + seen
    tapped := receiver.tapped ++ messages.flatMap fun message => arrivalTap message.1 message.2 }

theorem decrypts_split (raws : List RawFrame) (first second : List Bytes) (read : Decrypts raws (first ++ second)) :
    ∃ earlier later, raws = earlier ++ later ∧ Decrypts earlier first ∧ Decrypts later second :=
  ⟨raws.take first.length, raws.drop first.length, (List.take_append_drop _ _).symm,
    List.forall₂_take_append raws first second read, List.forall₂_drop_append raws first second read⟩

-- Messages carried one after the other arrive one after the other, each as it was.
theorem carried_messages_taken (receiver : Receiver) (frames : UInt8 → Bytes → List Bytes)
    (messages : List Message) (raws : List RawFrame) (idle : receiver.inFlight = none)
    (carried : ∀ message ∈ messages, Carries receiver.legacyOptIn message.1 message.2 (frames message.1 message.2))
    (read : Decrypts raws (messages.flatMap fun message => frames message.1 message.2)) :
    ∃ seen, receiver.receiveAll raws =
      (receiver.informedAll seen messages, messages.map fun message => arrival message.1 message.2) := by
  induction messages generalizing receiver raws with
  | nil =>
      cases read
      exact ⟨0, by simp [Receiver.receiveAll, Receiver.informedAll]⟩
  | cons message rest ih =>
      rw [List.flatMap_cons] at read
      obtain ⟨first, others, rfl, readFirst, readOthers⟩ := decrypts_split raws _ _ read
      obtain ⟨seen, taken⟩ := carried_taken receiver message.1 message.2 _ first idle
        (carried message List.mem_cons_self) readFirst
      obtain ⟨more, later⟩ := ih ({ receiver with legacySeen := receiver.legacySeen + seen }.informed message.1 message.2)
        others rfl (fun other member => carried other (List.mem_cons_of_mem message member)) readOthers
      refine ⟨seen + more, ?_⟩
      rw [receive_all_append, taken]
      simp only [later]
      simp [Receiver.informedAll, Receiver.informed, idle, Nat.add_assoc, List.append_assoc]

theorem str_arrival (text : String) : arrival msgTypeJsonBody (utf8Encode text) = .message (.text text) := by
  rw [arrival, if_pos rfl, utf8_decode_encode]

-- What the caller of receive() reads of a message handed to send_str or send_bytes. Bytes of type 0 are a JSON body.
inductive ReadAs : Outgoing → Decoded → Prop
  | str (data : String) : ReadAs (.str data) (.message (.text data))
  | bytes (type : UInt8) (data : Bytes) (binary : type ≠ msgTypeJsonBody) :
      ReadAs (.bytes (type :: data)) (.message (.binary (type :: data)))
  | body (data : Bytes) (text : String) (decodes : utf8Decode data = some text) :
      ReadAs (.bytes (msgTypeJsonBody :: data)) (.message (.text text))
  | garbled (data : Bytes) (undecodable : utf8Decode data = none) :
      ReadAs (.bytes (msgTypeJsonBody :: data)) .raised

theorem accepted_read (outgoing : Outgoing) (message : Message) (accepted : outgoing.plaintext = .ok message) :
    ReadAs outgoing (arrival message.1 message.2) := by
  cases outgoing with
  | str text =>
      cases accepted
      rw [str_arrival]
      exact .str text
  | bytes bytes =>
      cases bytes with
      | nil => cases accepted
      | cons type data =>
          rw [Outgoing.plaintext] at accepted
          split at accepted
          · cases accepted
          · cases accepted
            by_cases body : type = msgTypeJsonBody
            · subst body
              rw [arrival, if_pos rfl]
              cases decoded : utf8Decode data with
              | none => exact .garbled data decoded
              | some text => exact .body data text decoded
            · rw [arrival, if_neg body]
              exact .bytes type data body

-- Messages that send_str and send_bytes accept, in either framing the receiver knows: they fit the frames of the
-- transport and, where none is longer than what a receiver reassembles, are read as they were sent; its tap sees each
-- that could be read.
theorem framing_round_trip (legacy : Bool) (receiver : Receiver) (idle : receiver.inFlight = none)
    (framing : legacy = true → receiver.legacyOptIn = true) (sent : List Outgoing) (messages : List Message)
    (accepted : List.Forall₂ (fun outgoing message => outgoing.plaintext = .ok message) sent messages)
    (small : ∀ message ∈ messages, message.2.length ≤ maxReassembledMessageBytes) (raws : List RawFrame)
    (read : Decrypts raws (messages.flatMap fun message => sendPlaintext legacy message.1 message.2)) :
    (∀ message ∈ messages, ∀ frame ∈ sendPlaintext legacy message.1 message.2, frame.length + 16 ≤ 65535) ∧
      List.Forall₂ ReadAs sent (receiver.receiveAll raws).2 ∧
      (receiver.receiveAll raws).1.inFlight = none ∧
      (receiver.receiveAll raws).1.tapped =
        receiver.tapped ++ messages.flatMap fun message => arrivalTap message.1 message.2 := by
  have sendable : ∀ message ∈ messages, Sendable message := all_sendable sent messages accepted small
  obtain ⟨seen, taken⟩ := carried_messages_taken receiver (sendPlaintext legacy) messages raws idle
    (fun message member => sent_carried legacy receiver.legacyOptIn framing message.1 message.2 (sendable message member).1
      (sendable message member).2) read
  refine ⟨?_, ?_⟩
  · intro message _ frame sent
    have fits := sent_frames_fit legacy message.1 message.2 frame sent
    rw [maxTransportPlaintext] at fits
    omega
  · rw [taken]
    refine ⟨?_, idle, rfl⟩
    rw [List.forall₂_map_right_iff]
    exact accepted.imp accepted_read

-- A chunk of audio that takes two frames.
def longChunk : Bytes := List.replicate 70000 7

theorem long_chunk_length : longChunk.length = 70000 := List.length_replicate

-- Frames as the session decrypts them.
def rawFrames (frames : List Bytes) : List RawFrame := frames.map fun frame => .binary [9] (some frame)

theorem raw_frames_decrypt (frames : List Bytes) : Decrypts (rawFrames frames) frames := by
  rw [Decrypts, rawFrames, List.forall₂_map_left_iff, List.forall₂_same]
  exact fun frame _ => ⟨[9], rfl⟩

theorem long_chunk_read :
    let messages : List Message := [(0, utf8Encode "hi"), (4, longChunk)]
    let frames := messages.flatMap fun message => sendPlaintext true message.1 message.2
    let received := Receiver.receiveAll ⟨true, none, 0, []⟩ (rawFrames frames)
    (sendPlaintext true 4 longChunk).length = 2 ∧
      (∀ message ∈ messages, ∀ frame ∈ sendPlaintext true message.1 message.2, frame.length + 16 ≤ 65535) ∧
      List.Forall₂ ReadAs [.str "hi", .bytes (4 :: longChunk)] received.2 ∧ received.1.inFlight = none ∧
      received.1.tapped = [] ++ messages.flatMap fun message => arrivalTap message.1 message.2 := by
  refine ⟨?_, ?_⟩
  · have long : ¬(4 :: longChunk).length ≤ maxTransportPlaintext := by
      rw [List.length_cons, long_chunk_length]
      decide
    rw [sendPlaintext, if_neg long, if_pos rfl, fragment_legacy_cut, List.length_cons, legacyTail, List.length_mapIdx,
      slices, List.length_map, List.length_drop, long_chunk_length]
    decide
  · exact framing_round_trip true ⟨true, none, 0, []⟩ rfl (fun _ => rfl) [.str "hi", .bytes (4 :: longChunk)]
      [(0, utf8Encode "hi"), (4, longChunk)] (.cons rfl (.cons rfl .nil))
      (fun message member => by
        simp only [List.mem_cons, List.not_mem_nil, or_false] at member
        rcases member with rfl | rfl
        · decide
        · rw [long_chunk_length]
          decide)
      _ (raw_frames_decrypt _)

end Conformance.Noise
