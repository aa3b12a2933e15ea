import SendspinConformance.Adapters.WireMessages

set_option autoImplicit false

namespace Conformance.Adapters

open Python Protocol Base

section messages

variable (id : Nat) (run : List TracedMessage) (message : TracedMessage)

theorem confirmed_later (spanned : SpannedMessage) (earlier : spanned.ended < run.length) :
    confirmedIn id (run ++ [message]) spanned =
      (confirmedIn id run spanned || decide (message.connectionId = id) && message.written) := by
  rw [confirmedIn, confirmedIn, List.drop_append_of_le_length earlier, List.any_append]
  simp [Bool.or_assoc]

-- No write completion comes after the last message of a run.
theorem confirmed_new (spanned : SpannedMessage) (last : spanned.ended = run.length) :
    confirmedIn id (run ++ [message]) spanned = spanned.message.inbound := by
  rw [confirmedIn, last, List.drop_of_length_le (by simp)]
  simp

end messages

-- Messages in the order of their first frames.
structure BegunInOrder (messages ordered : List SpannedMessage) (count : Nat) : Prop where
  same : ordered.Perm messages
  sorted : ordered.Pairwise fun first second => first.began < second.began
  traced : ∀ spanned ∈ ordered, spanned.began < count ∧ spanned.ended < count

theorem in_order_later (messages ordered : List SpannedMessage) (count : Nat) (inOrder : BegunInOrder messages ordered count) :
    BegunInOrder messages ordered (count + 1) := by
  refine ⟨inOrder.same, inOrder.sorted, ?_⟩
  intro spanned member
  obtain ⟨began, ended⟩ := inOrder.traced spanned member
  exact ⟨by omega, by omega⟩

-- A place between the messages that began before a frame and those that began after it.
structure Between (front back : List SpannedMessage) (began : Nat) : Prop where
  before : ∀ spanned ∈ front, spanned.began < began
  after : ∀ spanned ∈ back, began < spanned.began

theorem in_order_insert (messages front back : List SpannedMessage) (count : Nat) (spanned : SpannedMessage)
    (inOrder : BegunInOrder messages (front ++ back) count) (between : Between front back spanned.began)
    (began : spanned.began ≤ count) (ended : spanned.ended = count) :
    BegunInOrder (messages ++ [spanned]) (front ++ spanned :: back) (count + 1) := by
  constructor
  · have moved : (front ++ spanned :: back).Perm (spanned :: (front ++ back)) := List.perm_middle
    have added : (messages ++ [spanned]).Perm (spanned :: messages) := List.perm_append_singleton spanned messages
    exact moved.trans ((inOrder.same.cons spanned).trans added.symm)
  · obtain ⟨frontSorted, backSorted, across⟩ := List.pairwise_append.mp inOrder.sorted
    refine List.pairwise_append.mpr ⟨frontSorted, List.pairwise_cons.mpr ⟨between.after, backSorted⟩, ?_⟩
    intro first inFront second inBack
    cases List.mem_cons.mp inBack with
    | inl same =>
        rw [same]
        exact between.before first inFront
    | inr later => exact across first inFront second later
  · intro other member
    rw [List.mem_append, List.mem_cons] at member
    rcases member with inFront | same | inBack
    · have earlier := inOrder.traced other (List.mem_append_left back inFront)
      exact ⟨by omega, by omega⟩
    · rw [same]
      exact ⟨by omega, by omega⟩
    · have earlier := inOrder.traced other (List.mem_append_right front inBack)
      exact ⟨by omega, by omega⟩

variable (json : ArduinoJson)

def SpannedMessage.time (spanned : SpannedMessage) : Option TimeEntry := spanned.message.time json

def SpannedMessage.confirmation (confirmed : SpannedMessage → Bool) (spanned : SpannedMessage) : Option Bool :=
  (spanned.time json).map fun _ => confirmed spanned

-- The three lists of a connection tell of the same messages in the same order.
structure Shown (confirmed : SpannedMessage → Bool) (ordered : List SpannedMessage) (tracks : WireTracks) : Prop where
  events : tracks.events = ordered.map fun spanned => spanned.message.event json
  timeExchange : tracks.timeExchange = ordered.filterMap (SpannedMessage.time json)
  timeConfirmed : tracks.timeConfirmed = ordered.filterMap (SpannedMessage.confirmation json confirmed)

theorem confirmation_congr (first second : SpannedMessage → Bool) (ordered : List SpannedMessage)
    (agree : ∀ spanned ∈ ordered, first spanned = second spanned) :
    ordered.filterMap (SpannedMessage.confirmation json first) =
      ordered.filterMap (SpannedMessage.confirmation json second) := by
  apply List.filterMap_congr
  intro spanned member
  rw [SpannedMessage.confirmation, SpannedMessage.confirmation, agree spanned member]

theorem shown_congr (first second : SpannedMessage → Bool) (ordered : List SpannedMessage) (tracks : WireTracks)
    (shown : Shown json first ordered tracks) (agree : ∀ spanned ∈ ordered, first spanned = second spanned) :
    Shown json second ordered tracks :=
  ⟨shown.events, shown.timeExchange, shown.timeConfirmed.trans (confirmation_congr json first second ordered agree)⟩

theorem confirmation_length (confirmed : SpannedMessage → Bool) (ordered : List SpannedMessage) :
    (ordered.filterMap (SpannedMessage.confirmation json confirmed)).length =
      (ordered.filterMap (SpannedMessage.time json)).length := by
  induction ordered with
  | nil => rfl
  | cons spanned rest ih =>
      rw [List.filterMap_cons, List.filterMap_cons, SpannedMessage.confirmation]
      cases spanned.time json with
      | none => exact ih
      | some entry => simpa using ih

-- The position of a place among the messages.
structure Stands (front : List SpannedMessage) (position : Position) : Prop where
  events : position.events = front.length
  timeExchange : position.timeExchange = (front.filterMap (SpannedMessage.time json)).length

theorem insert_some_middle {α : Type} (view : SpannedMessage → Option α) (front back : List SpannedMessage)
    (spanned : SpannedMessage) (place : Nat) (here : place = (front.filterMap view).length) :
    insertSome place (view spanned) ((front ++ back).filterMap view) = (front ++ spanned :: back).filterMap view := by
  rw [List.filterMap_append, List.filterMap_append, List.filterMap_cons, here]
  cases view spanned with
  | none => rfl
  | some found => exact insert_at_middle found (front.filterMap view) (back.filterMap view)

theorem shown_add (confirmed : SpannedMessage → Bool) (front back : List SpannedMessage) (spanned : SpannedMessage)
    (tracks : WireTracks) (position : Position) (shown : Shown json confirmed (front ++ back) tracks)
    (stands : Stands json front position) (unwritten : confirmed spanned = spanned.message.inbound) :
    Shown json confirmed (front ++ spanned :: back) (tracks.add json position spanned.message) := by
  constructor
  · have inserted := insert_at_middle (spanned.message.event json)
      (front.map fun other => other.message.event json) (back.map fun other => other.message.event json)
    rw [List.length_map, ← stands.events, ← List.map_append, ← shown.events] at inserted
    rw [List.map_append, List.map_cons]
    exact inserted
  · rw [WireTracks.add, shown.timeExchange]
    exact insert_some_middle (SpannedMessage.time json) front back spanned _ stands.timeExchange
  · have isConfirmation : (spanned.message.time json).map (fun _ => spanned.message.inbound) =
        spanned.confirmation json confirmed := by
      rw [SpannedMessage.confirmation, unwritten, SpannedMessage.time]
    rw [WireTracks.add, shown.timeConfirmed, isConfirmation]
    refine insert_some_middle (SpannedMessage.confirmation json confirmed) front back spanned _ ?_
    rw [stands.timeExchange, confirmation_length]

-- The place of the message in fragments among those that are whole.
def Placed (front back ordered : List SpannedMessage) (began : Nat) (position : Position) : Prop :=
  ordered = front ++ back ∧ Between front back began ∧ Stands json front position

structure Aligned (id : Nat) (run : List TracedMessage) (ordered : List SpannedMessage) (tracks : WireTracks)
    (reader : WireReader) : Prop where
  count : reader.count = run.length
  fragments : tracks.fragments = reader.fragments
  inOrder : BegunInOrder reader.messages ordered reader.count
  shown : Shown json (confirmedIn id run) ordered tracks
  opened : reader.fragments.type ≠ none →
    reader.opened < reader.count ∧ ∃ front back, Placed json front back ordered reader.opened tracks.position

-- The end of the lists.
structure Ends (tracks : WireTracks) (here : Position) : Prop where
  events : here.events = tracks.events.length
  timeExchange : here.timeExchange = tracks.timeExchange.length

section step

variable (id : Nat) (run : List TracedMessage) (message : TracedMessage) (ordered : List SpannedMessage)
  (tracks : WireTracks) (reader : WireReader) (here : Position)

theorem placed_here (aligned : Aligned json id run ordered tracks reader) (ends : Ends tracks here) :
    Placed json ordered [] ordered reader.count here := by
  refine ⟨(List.append_nil ordered).symm, ⟨?_, ?_⟩, ?_, ?_⟩
  · intro spanned member
    exact (aligned.inOrder.traced spanned member).1
  · intro spanned member
    cases member
  · rw [ends.events, aligned.shown.events, List.length_map]
  · rw [ends.timeExchange, aligned.shown.timeExchange]

theorem gather_type (fragments : Reassembly) (flags : UInt8) (rest : Bytes) (more : ¬opensMessage flags rest = true) :
    (fragments.gather flags rest).type = fragments.type := by
  cases rest with
  | nil => rfl
  | cons type data =>
      have notFirst : ¬(flags &&& firstFragmentFlag ≠ 0) := by simpa [opensMessage] using more
      rw [Reassembly.gather, if_neg notFirst]

-- Where the message of a fragment stands, once the fragment is gathered.
theorem placed_fragment (aligned : Aligned json id run ordered tracks reader) (ends : Ends tracks here) (flags : UInt8)
    (rest : Bytes) (known : (reader.fragments.gather flags rest).type ≠ none) :
    (if opensMessage flags rest then reader.count else reader.opened) ≤ reader.count ∧
      ∃ front back, Placed json front back ordered (if opensMessage flags rest then reader.count else reader.opened)
        (if opensMessage flags rest then here else tracks.position) := by
  by_cases opens : opensMessage flags rest = true
  · rw [if_pos opens, if_pos opens]
    exact ⟨le_refl _, ordered, [], placed_here json id run ordered tracks reader here aligned ends⟩
  · rw [gather_type reader.fragments flags rest opens] at known
    rw [if_neg opens, if_neg opens]
    obtain ⟨earlier, placed⟩ := aligned.opened known
    exact ⟨earlier.le, placed⟩

-- A frame that is no write completion of the connection confirms nothing.
theorem unconfirmed_agree (aligned : Aligned json id run ordered tracks reader)
    (unwritten : (decide (message.connectionId = id) && message.written) = false) :
    ∀ spanned ∈ ordered, confirmedIn id run spanned = confirmedIn id (run ++ [message]) spanned := by
  intro spanned member
  have earlier := (aligned.inOrder.traced spanned member).2
  rw [aligned.count] at earlier
  rw [confirmed_later id run message spanned earlier, unwritten, Bool.or_false]

theorem aligned_skipped (aligned : Aligned json id run ordered tracks reader)
    (unwritten : (decide (message.connectionId = id) && message.written) = false) :
    Aligned json id (run ++ [message]) ordered tracks { reader with count := reader.count + 1 } := by
  constructor
  · simp [aligned.count]
  · exact aligned.fragments
  · exact in_order_later _ _ _ aligned.inOrder
  · exact shown_congr json _ _ ordered tracks aligned.shown
      (unconfirmed_agree json id run message ordered tracks reader aligned unwritten)
  · intro known
    obtain ⟨earlier, placed⟩ := aligned.opened known
    exact ⟨Nat.lt_succ_of_lt earlier, placed⟩

theorem aligned_written (aligned : Aligned json id run ordered tracks reader)
    (written : (decide (message.connectionId = id) && message.written) = true) :
    Aligned json id (run ++ [message]) ordered
      { tracks with timeConfirmed := tracks.timeConfirmed.map fun _ => true }
      { reader with count := reader.count + 1 } := by
  constructor
  · simp [aligned.count]
  · exact aligned.fragments
  · exact in_order_later _ _ _ aligned.inOrder
  · have every : ∀ spanned ∈ ordered, confirmedIn id (run ++ [message]) spanned = true := by
      intro spanned member
      have earlier := (aligned.inOrder.traced spanned member).2
      rw [aligned.count] at earlier
      rw [confirmed_later id run message spanned earlier, written, Bool.or_true]
    refine ⟨aligned.shown.events, aligned.shown.timeExchange, ?_⟩
    dsimp only
    rw [aligned.shown.timeConfirmed, confirmation_congr json _ (fun _ => true) ordered every, List.map_filterMap]
    apply List.filterMap_congr
    intro spanned _
    rw [SpannedMessage.confirmation, SpannedMessage.confirmation, Option.map_map]
    rfl
  · intro known
    obtain ⟨earlier, placed⟩ := aligned.opened known
    exact ⟨Nat.lt_succ_of_lt earlier, placed⟩

theorem aligned_whole (aligned : Aligned json id run ordered tracks reader) (ends : Ends tracks here)
    (unwritten : (decide (message.connectionId = id) && message.written) = false) (wire : WireMessage) :
    Aligned json id (run ++ [message]) (ordered ++ [⟨reader.count, reader.count, wire⟩])
      (tracks.take json here (.whole wire)) { reader.take (.whole wire) with count := reader.count + 1 } := by
  let spanned : SpannedMessage := ⟨reader.count, reader.count, wire⟩
  obtain ⟨nothing, between, stands⟩ := placed_here json id run ordered tracks reader here aligned ends
  have inOrder := aligned.inOrder
  have shown := shown_congr json _ _ ordered tracks aligned.shown
    (unconfirmed_agree json id run message ordered tracks reader aligned unwritten)
  rw [nothing] at inOrder shown
  constructor
  · simp [aligned.count]
  · exact aligned.fragments
  · exact in_order_insert reader.messages ordered [] reader.count spanned inOrder between (le_refl _) rfl
  · exact shown_add json _ ordered [] spanned tracks here shown stands
      (confirmed_new id run message spanned aligned.count)
  · intro known
    obtain ⟨earlier, front, back, split, within, place⟩ := aligned.opened known
    refine ⟨Nat.lt_succ_of_lt earlier, front, back ++ [spanned], ?_, ⟨within.before, ?_⟩, place⟩
    · rw [split, List.append_assoc]
    · intro other member
      cases List.mem_append.mp member with
      | inl inBack => exact within.after other inBack
      | inr isLast =>
          rw [List.mem_singleton.mp isLast]
          exact earlier

theorem aligned_fragment (aligned : Aligned json id run ordered tracks reader) (ends : Ends tracks here)
    (unwritten : (decide (message.connectionId = id) && message.written) = false) (flags : UInt8) (rest : Bytes) :
    ∃ next, Aligned json id (run ++ [message]) next (tracks.take json here (.fragment flags rest))
      { reader.take (.fragment flags rest) with count := reader.count + 1 } := by
  have placed := placed_fragment json id run ordered tracks reader here aligned ends flags rest
  have shown := shown_congr json _ _ ordered tracks aligned.shown
    (unconfirmed_agree json id run message ordered tracks reader aligned unwritten)
  simp only [WireTracks.take, WireReader.take]
  rw [aligned.fragments, Reassembly.add]
  generalize (if opensMessage flags rest then reader.count else reader.opened) = opened at placed ⊢
  generalize (if opensMessage flags rest then here else tracks.position) = position at placed ⊢
  have gathered : Aligned json id (run ++ [message]) ordered
      { tracks with fragments := reader.fragments.gather flags rest, position := position }
      { reader with fragments := reader.fragments.gather flags rest, opened := opened, count := reader.count + 1 } := by
    constructor
    · simp [aligned.count]
    · rfl
    · exact in_order_later _ _ _ aligned.inOrder
    · exact ⟨shown.events, shown.timeExchange, shown.timeConfirmed⟩
    · intro known
      obtain ⟨earlier, place⟩ := placed known
      exact ⟨Nat.lt_succ_of_le earlier, place⟩
  cases isType : (reader.fragments.gather flags rest).type with
  | none => exact ⟨ordered, gathered⟩
  | some type =>
      dsimp only
      by_cases more : flags &&& lastFragmentFlag = 0
      · rw [if_pos more]
        exact ⟨ordered, gathered⟩
      · rw [if_neg more]
        obtain ⟨earlier, front, back, split, between, stands⟩ := placed (by simp [isType])
        have inOrder := aligned.inOrder
        rw [split] at inOrder shown
        let spanned : SpannedMessage :=
          ⟨opened, reader.count, ⟨false, true, type, (reader.fragments.gather flags rest).data⟩⟩
        refine ⟨front ++ spanned :: back, ?_, rfl, ?_, ?_, ?_⟩
        · simp [aligned.count]
        · exact in_order_insert reader.messages front back reader.count spanned inOrder between earlier rfl
        · exact shown_add json _ front back spanned _ position
            ⟨shown.events, shown.timeExchange, shown.timeConfirmed⟩ stands
            (confirmed_new id run message spanned aligned.count)
        · intro known
          exact absurd rfl known

-- One traced message keeps the connection and the messages read off the run aligned.
theorem aligned_trace (aligned : Aligned json id run ordered tracks reader) (ends : Ends tracks here) :
    ∃ next, Aligned json id (run ++ [message]) next (tracks.trace json here id message) (reader.read id message) := by
  rw [WireTracks.trace, WireReader.read]
  by_cases same : message.connectionId = id
  · rw [if_neg (not_not.mpr same)]
    cases isWritten : message.written with
    | true =>
        have written : (decide (message.connectionId = id) && message.written) = true := by simp [same, isWritten]
        rw [if_pos rfl, if_pos (Or.inr rfl)]
        exact ⟨ordered, aligned_written json id run message ordered tracks reader aligned written⟩
    | false =>
        have unwritten : (decide (message.connectionId = id) && message.written) = false := by simp [isWritten]
        rw [if_neg Bool.false_ne_true, if_neg (by simp [same])]
        cases frameOf message with
        | none => exact ⟨ordered, aligned_skipped json id run message ordered tracks reader aligned unwritten⟩
        | some frame =>
            cases frame with
            | whole wire =>
                exact ⟨_, aligned_whole json id run message ordered tracks reader here aligned ends unwritten wire⟩
            | fragment flags rest =>
                exact aligned_fragment json id run message ordered tracks reader here aligned ends unwritten flags rest
  · have unwritten : (decide (message.connectionId = id) && message.written) = false := by simp [same]
    rw [if_pos same, if_pos (Or.inl same)]
    exact ⟨ordered, aligned_skipped json id run message ordered tracks reader aligned unwritten⟩

end step

theorem recorded_aligned (id : Nat) (run : List TracedMessage) :
    ∃ ordered, Aligned json id run ordered (tracksOf ((recorded json run).connections id)) (wireReader id run) := by
  induction run using List.reverseRecOn with
  | nil =>
      refine ⟨[], rfl, rfl, ⟨.refl [], .nil, fun _ member => by cases member⟩, ⟨rfl, rfl, rfl⟩, ?_⟩
      intro known
      exact absurd rfl known
  | append_singleton run message ih =>
      obtain ⟨ordered, aligned⟩ := ih
      have step := recorded_in_step json run id
      rw [recorded_snoc, on_message_tracks json _ message id step, wireReader, List.foldl_append]
      exact aligned_trace json id run message ordered _ _ _ aligned ⟨rfl, rfl⟩

-- A list after one message: as it was, or with one item put in at a place it has.
def InsertedAt {α : Type} (place : Nat) (before after : List α) : Prop :=
  after = before ∨ place ≤ before.length ∧ ∃ item, after = insertAt place item before

theorem insert_some_at {α : Type} (place : Nat) (item : Option α) (items : List α) (within : place ≤ items.length) :
    InsertedAt place items (insertSome place item items) := by
  cases item with
  | none => exact .inl rfl
  | some found => exact .inr ⟨within, found, rfl⟩

theorem inserted_grows {α : Type} (place : Nat) (before after : List α) (inserted : InsertedAt place before after) :
    before.length ≤ after.length := by
  rcases inserted with same | ⟨_, item, same⟩
  · rw [same]
  · rw [same, length_insert_at]
    omega

theorem grown_at_inserted (place : Nat) (before after : List AvailabilityEntry) (grown : GrownAt place before after)
    (within : place ≤ before.length) : InsertedAt place before after := by
  rcases grown with same | ⟨available, _, same⟩ | ⟨roles, same⟩
  · exact .inl same
  · exact .inr ⟨within, stateEntry available, same⟩
  · exact .inr ⟨within, sendingEntry roles, same⟩

-- What one message other than a write completion does to the lists of its connection.
structure Inserted (place : Position) (before after : Connection) : Prop where
  events : InsertedAt place.events before.record.events after.record.events
  availability :
    InsertedAt place.availability before.record.availabilityTrace after.record.availabilityTrace
  timeExchange : InsertedAt place.timeExchange before.record.timeExchange after.record.timeExchange
  timeConfirmed : InsertedAt place.timeExchange before.timeConfirmed after.timeConfirmed

-- Where the tracks put in the message of a frame.
def WireTracks.place (tracks : WireTracks) (here : Position) (frame : WireFrame) : Position :=
  match frame with
  | .whole _ => here
  | .fragment flags rest => if opensMessage flags rest then here else tracks.position

section insertions

variable (tracks : WireTracks) (here place : Position) (frame : WireFrame)

theorem add_inserted (message : WireMessage) (events : place.events ≤ tracks.events.length)
    (times : place.timeExchange ≤ tracks.timeExchange.length)
    (confirmations : place.timeExchange ≤ tracks.timeConfirmed.length) :
    InsertedAt place.events tracks.events (tracks.add json place message).events ∧
      InsertedAt place.timeExchange tracks.timeExchange (tracks.add json place message).timeExchange ∧
      InsertedAt place.timeExchange tracks.timeConfirmed (tracks.add json place message).timeConfirmed :=
  ⟨.inr ⟨events, _, rfl⟩, insert_some_at _ _ _ times, insert_some_at _ _ _ confirmations⟩

theorem take_inserted (isPlace : tracks.place here frame = place) (events : place.events ≤ tracks.events.length)
    (times : place.timeExchange ≤ tracks.timeExchange.length)
    (confirmations : place.timeExchange ≤ tracks.timeConfirmed.length) :
    InsertedAt place.events tracks.events (tracks.take json here frame).events ∧
      InsertedAt place.timeExchange tracks.timeExchange (tracks.take json here frame).timeExchange ∧
      InsertedAt place.timeExchange tracks.timeConfirmed (tracks.take json here frame).timeConfirmed := by
  subst isPlace
  cases frame with
  | whole message => exact add_inserted json tracks here message events times confirmations
  | fragment flags rest =>
      simp only [WireTracks.take]
      split
      · exact add_inserted json _ _ _ events times confirmations
      · exact ⟨.inl rfl, .inl rfl, .inl rfl⟩

theorem take_position :
    (tracks.take json here frame).position = tracks.position ∨ (tracks.take json here frame).position = here := by
  cases frame with
  | whole message => exact .inl rfl
  | fragment flags rest =>
      have opened : (if opensMessage flags rest then here else tracks.position) = tracks.position ∨
          (if opensMessage flags rest then here else tracks.position) = here := by
        split
        · exact .inr rfl
        · exact .inl rfl
      simp only [WireTracks.take]
      split
      · exact opened
      · exact opened

theorem insertion_place (connection : Connection) (message : TracedMessage) (isFrame : frameOf message = some frame) :
    insertionPlace connection message = (tracksOf connection).place (positionOf connection) frame := by
  rw [frameOf] at isFrame
  cases isBinary : message.binary with
  | false =>
      rw [if_pos isBinary] at isFrame
      rw [← Option.some.inj isFrame]
      exact insertion_place_text connection message isBinary
  | true =>
      rw [if_neg (by simp [isBinary])] at isFrame
      cases isDirection : message.direction with
      | inbound =>
          rw [insertion_place_inbound connection message isDirection]
          rw [isDirection] at isFrame
          cases found : message.plaintext with
          | nil =>
              rw [found] at isFrame
              rw [← Option.some.inj isFrame]
              rfl
          | cons id body =>
              rw [found] at isFrame
              rw [← Option.some.inj isFrame]
              rfl
      | outbound =>
          rw [isDirection] at isFrame
          cases found : message.plaintext with
          | nil =>
              rw [found] at isFrame
              cases isFrame
          | cons id body =>
              rw [found] at isFrame
              cases body with
              | nil =>
                  rw [← Option.some.inj isFrame]
                  exact insertion_place_frame connection message id [] found (.inr rfl)
              | cons flags rest =>
                  have same := Option.some.inj isFrame
                  by_cases isFragment : id = fragmentMessageId
                  · rw [if_pos isFragment] at same
                    rw [isFragment] at found
                    rw [← same, insertion_place_fragment connection message flags rest isDirection isBinary found]
                    exact congrArg WireTracks.position (gather_fragment_tracks connection flags rest)
                  · rw [if_neg isFragment] at same
                    rw [← same]
                    exact insertion_place_frame connection message id (flags :: rest) found (.inl isFragment)

end insertions

theorem position_within (connection : Connection) (step : InStep connection) :
    Within (positionOf connection) connection := ⟨le_refl _, le_refl _, le_refl _, step.ge⟩

-- Both places a message may use lie in the lists.
theorem insertion_within (connection : Connection) (message : TracedMessage) (step : InStep connection)
    (within : Within connection.fragmentPosition connection) : Within (insertionPlace connection message) connection := by
  cases isFrame : frameOf message with
  | none =>
      have absent : insertionPlace connection message = positionOf connection := by
        cases isBinary : message.binary with
        | false => exact insertion_place_text connection message isBinary
        | true =>
            cases found : message.plaintext with
            | nil =>
                rw [insertionPlace, found, isBinary]
                cases message.direction <;> rfl
            | cons id body =>
                rw [frameOf, if_neg (by simp [isBinary]), found] at isFrame
                cases isDirection : message.direction with
                | inbound => exact insertion_place_inbound connection message isDirection
                | outbound =>
                    rw [isDirection] at isFrame
                    cases body <;> cases isFrame
      rw [absent]
      exact position_within connection step
  | some frame =>
      rw [insertion_place frame connection message isFrame]
      cases frame with
      | whole wire => exact position_within connection step
      | fragment flags rest =>
          rw [WireTracks.place]
          split
          · exact position_within connection step
          · exact within

theorem message_inserted (recorder : TraceRecorder) (message : TracedMessage) (unwritten : message.written = false)
    (step : InStep (recorder.connections message.connectionId))
    (within : Within (recorder.connections message.connectionId).fragmentPosition
      (recorder.connections message.connectionId)) :
    Inserted (insertionPlace (recorder.connections message.connectionId) message)
      (recorder.connections message.connectionId)
      ((onMessage json recorder message).connections message.connectionId) := by
  have tracks := on_message_tracks json recorder message message.connectionId step
  have grown := on_message_grown_at json recorder message (by simp [unwritten])
  generalize (onMessage json recorder message).connections message.connectionId = after at tracks grown ⊢
  generalize recorder.connections message.connectionId = connection at step within tracks grown ⊢
  obtain ⟨events, availability, times, confirmations⟩ := insertion_within connection message step within
  have states := grown_at_inserted _ _ _ grown availability
  rw [WireTracks.trace, if_neg (not_not.mpr rfl), if_neg (by simp [unwritten])] at tracks
  cases isFrame : frameOf message with
  | none =>
      rw [isFrame] at tracks
      exact ⟨.inl (congrArg WireTracks.events tracks), states, .inl (congrArg WireTracks.timeExchange tracks),
        .inl (congrArg WireTracks.timeConfirmed tracks)⟩
  | some frame =>
      rw [isFrame] at tracks
      dsimp only at tracks
      have isPlace := (insertion_place frame connection message isFrame).symm
      have taken := take_inserted json (tracksOf connection) (positionOf connection) _ frame isPlace events times
        confirmations
      rw [← tracks] at taken
      exact ⟨taken.1, states, taken.2.1, taken.2.2⟩

theorem within_grows (position : Position) (before after : Connection) (within : Within position before)
    (events : before.record.events.length ≤ after.record.events.length)
    (availability : before.record.availabilityTrace.length ≤ after.record.availabilityTrace.length)
    (times : before.record.timeExchange.length ≤ after.record.timeExchange.length)
    (confirmations : before.timeConfirmed.length ≤ after.timeConfirmed.length) : Within position after := by
  obtain ⟨first, second, third, fourth⟩ := within
  exact ⟨first.trans events, second.trans availability, third.trans times, fourth.trans confirmations⟩

-- A remembered place stays in the lists it was taken from.
theorem message_within (recorder : TraceRecorder) (message : TracedMessage) (id : Nat)
    (step : InStep (recorder.connections id))
    (within : Within (recorder.connections id).fragmentPosition (recorder.connections id)) :
    Within ((onMessage json recorder message).connections id).fragmentPosition
      ((onMessage json recorder message).connections id) := by
  by_cases same : message.connectionId = id
  · subst same
    have tracks := on_message_tracks json recorder message message.connectionId step
    rw [WireTracks.trace, if_neg (not_not.mpr rfl)] at tracks
    cases isWritten : message.written with
    | true =>
        have trace := on_message_written json recorder message isWritten
        rw [if_pos isWritten] at tracks
        have samePosition := congrArg WireTracks.position tracks
        have events := congrArg (fun kept => kept.events.length) tracks
        have times := congrArg (fun kept => kept.timeExchange.length) tracks
        have confirmations := congrArg (fun kept => kept.timeConfirmed.length) tracks
        simp only [List.length_map] at confirmations
        have availability := congrArg List.length trace
        rw [List.length_append] at availability
        have kept : ((onMessage json recorder message).connections message.connectionId).fragmentPosition =
            (recorder.connections message.connectionId).fragmentPosition := samePosition
        rw [kept]
        exact within_grows _ _ _ within events.ge (by omega) times.ge confirmations.ge
    | false =>
        have inserted := message_inserted json recorder message isWritten step within
        have grows (position : Position) (isWithin : Within position (recorder.connections message.connectionId)) :=
          within_grows position _ _ isWithin (inserted_grows _ _ _ inserted.events)
            (inserted_grows _ _ _ inserted.availability) (inserted_grows _ _ _ inserted.timeExchange)
            (inserted_grows _ _ _ inserted.timeConfirmed)
        rw [if_neg (by simp [isWritten])] at tracks
        cases isFrame : frameOf message with
        | none =>
            rw [isFrame] at tracks
            have kept : ((onMessage json recorder message).connections message.connectionId).fragmentPosition =
                (recorder.connections message.connectionId).fragmentPosition := congrArg WireTracks.position tracks
            rw [kept]
            exact grows _ within
        | some frame =>
            rw [isFrame] at tracks
            have position : ((onMessage json recorder message).connections message.connectionId).fragmentPosition =
                ((tracksOf (recorder.connections message.connectionId)).take json
                  (positionOf (recorder.connections message.connectionId)) frame).position :=
              congrArg WireTracks.position tracks
            rw [position]
            cases take_position json (tracksOf (recorder.connections message.connectionId))
                (positionOf (recorder.connections message.connectionId)) frame with
            | inl kept =>
                rw [kept]
                exact grows _ within
            | inr here =>
                rw [here]
                exact grows _ (position_within _ step)
  · rw [on_message_other json recorder message id (Ne.symm same)]
    exact within

theorem recorded_within (id : Nat) (run : List TracedMessage) :
    Within ((recorded json run).connections id).fragmentPosition ((recorded json run).connections id) := by
  induction run using List.reverseRecOn with
  | nil => exact ⟨le_refl _, le_refl _, le_refl _, le_refl _⟩
  | append_singleton run message ih =>
      rw [recorded_snoc]
      exact message_within json _ message id (recorded_in_step json run id) ih

-- An entry of a list is said to repeat when it is an other-sent with nothing else right before it.
def repeats (previous : Option TimeEntry) (entry : TimeEntry) : Bool :=
  decide (entry.kind = .otherSent) && previous.all fun last => decide (last.kind = .otherSent)

def unrepeated (entries : List TimeEntry) : List TimeEntry :=
  (((none :: entries.map some).zip entries).filter fun beside => !repeats beside.1 beside.2).map Prod.snd

theorem merged_unrepeated (entries kept : List TimeEntry) (previous : Option TimeEntry)
    (same : (kept.getLast?.all fun last => decide (last.kind = .otherSent)) =
      previous.all fun last => decide (last.kind = .otherSent)) :
    merged kept entries = kept ++
      (((previous :: entries.map some).zip entries).filter fun beside => !repeats beside.1 beside.2).map Prod.snd := by
  induction entries generalizing kept previous with
  | nil => simp [merged]
  | cons entry rest ih =>
      have agree : (entry.kind == .otherSent && kept.getLast?.all fun last => last.kind == .otherSent) =
          repeats previous entry := by
        rw [repeats, ← same]
        rfl
      rw [merged, agree, List.map_cons, List.zip_cons_cons]
      cases isRepeated : repeats previous entry with
      | true =>
          obtain ⟨isOther, afterOther⟩ := Bool.and_eq_true_iff.mp isRepeated
          have sameAfter : (kept.getLast?.all fun last => decide (last.kind = .otherSent)) =
              (some entry).all fun last => decide (last.kind = .otherSent) := by
            rw [same, afterOther, Option.all_some, isOther]
          rw [if_pos rfl, ih kept (some entry) sameAfter, List.filter_cons_of_neg (by simp [isRepeated])]
      | false =>
          have sameAfter : ((kept ++ [entry]).getLast?.all fun last => decide (last.kind = .otherSent)) =
              (some entry).all fun last => decide (last.kind = .otherSent) := by
            rw [List.getLast?_concat]
          rw [if_neg Bool.false_ne_true, ih (kept ++ [entry]) (some entry) sameAfter,
            List.filter_cons_of_pos (by simp [isRepeated]), List.map_cons, List.append_assoc, List.singleton_append]

-- The entries of the time exchange whose messages were received or are known written.
def timesConfirmed (confirmed : SpannedMessage → Bool) (ordered : List SpannedMessage) : List TimeEntry :=
  (ordered.filter confirmed).filterMap (SpannedMessage.time json)

theorem shown_confirmed (confirmed : SpannedMessage → Bool) (ordered : List SpannedMessage) (connection : Connection)
    (shown : Shown json confirmed ordered (tracksOf connection)) :
    Adapters.confirmed connection = timesConfirmed json confirmed ordered := by
  have exchange : connection.record.timeExchange = _ := shown.timeExchange
  have confirmations : connection.timeConfirmed = _ := shown.timeConfirmed
  rw [Adapters.confirmed, exchange, confirmations, timesConfirmed]
  clear shown exchange confirmations
  induction ordered with
  | nil => rfl
  | cons spanned rest ih =>
      rw [List.filterMap_cons, List.filterMap_cons, SpannedMessage.confirmation]
      cases isTime : spanned.time json with
      | none =>
          cases isConfirmed : confirmed spanned with
          | true => simpa [isConfirmed, isTime] using ih
          | false => simpa [isConfirmed] using ih
      | some entry =>
          cases isConfirmed : confirmed spanned with
          | true => simpa [isConfirmed, isTime] using ih
          | false => simpa [isConfirmed] using ih

-- An outbound JSON message has one event and one entry of the time exchange. They stand after
-- those of every message begun before its first frame and before those of every one begun later.
def Entered (ordered : List SpannedMessage) (connection : Connection) (spanned : SpannedMessage) : Prop :=
  ∃ earlier later entry, ordered = earlier ++ spanned :: later ∧ spanned.time json = some entry ∧
    (∀ other ∈ earlier, other.began < spanned.began) ∧ (∀ other ∈ later, spanned.began < other.began) ∧
    connection.record.events = (earlier.map fun other => other.message.event json) ++
      (spanned.message.event json :: later.map fun other => other.message.event json) ∧
    connection.record.timeExchange =
      earlier.filterMap (SpannedMessage.time json) ++ entry :: later.filterMap (SpannedMessage.time json)

theorem outbound_time (message : WireMessage) (outbound : message.inbound = false)
    (isJson : message.messageId = jsonMessageId) : ∃ entry, message.time json = some entry := by
  rw [WireMessage.time, if_neg (not_not.mpr isJson), outbound, if_neg Bool.false_ne_true]
  exact ⟨_, rfl⟩

theorem outbound_entered (confirmed : SpannedMessage → Bool) (ordered : List SpannedMessage) (connection : Connection)
    (sorted : ordered.Pairwise fun first second => first.began < second.began)
    (shown : Shown json confirmed ordered (tracksOf connection)) (spanned : SpannedMessage) (member : spanned ∈ ordered)
    (outbound : spanned.message.inbound = false) (isJson : spanned.message.messageId = jsonMessageId) :
    Entered json ordered connection spanned := by
  obtain ⟨earlier, later, split⟩ := List.append_of_mem member
  obtain ⟨entry, entered⟩ := outbound_time json spanned.message outbound isJson
  have isEntry : spanned.time json = some entry := entered
  rw [split] at sorted
  obtain ⟨_, after, across⟩ := List.pairwise_append.mp sorted
  refine ⟨earlier, later, entry, split, isEntry, ?_, (List.pairwise_cons.mp after).1, ?_, ?_⟩
  · intro other inEarlier
    exact across other inEarlier spanned List.mem_cons_self
  · have events : connection.record.events = _ := shown.events
    rw [events, split, List.map_append, List.map_cons]
  · have times : connection.record.timeExchange = _ := shown.timeExchange
    rw [times, split, List.filterMap_append, List.filterMap_cons_some isEntry]

-- A message in two fragments stands where the first found the run, beside a whole one between them.
example : messagesOf 1 [binaryMessage [1, 2, 0, 7], binaryMessage [0, 9], binaryMessage [1, 1, 8]] =
    [⟨1, 1, ⟨false, true, 0, [9]⟩⟩, ⟨0, 2, ⟨false, true, 0, [7, 8]⟩⟩] := by decide

end Conformance.Adapters
