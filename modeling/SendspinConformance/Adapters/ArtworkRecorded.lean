import SendspinConformance.Adapters.ArtworkTransfers
import SendspinConformance.Adapters.FragmentsInvisible

set_option autoImplicit false

namespace Conformance.Adapters

open Python Protocol Base

def reassembly (connection : Connection) : Reassembly := ⟨connection.fragmentType, connection.fragmentData⟩

-- What a connection holds of artwork, beside a state of the fragments.
def artworkWith (connection : Connection) (state : Reassembly) :
    List SentArtwork × List SentArtwork × Option SentArtwork × Nat × Reassembly :=
  (connection.record.artworkImages, connection.unwrittenArtwork, connection.artworkTransfer,
    connection.artworkTotalSize, state)

-- What a connection holds of artwork and of the fragments gathered.
def artworkView (connection : Connection) : List SentArtwork × List SentArtwork × Option SentArtwork × Nat × Reassembly :=
  artworkWith connection (reassembly connection)

-- A transfer in flight lacks some of its bytes.
def InFlight (connection : Connection) : Prop :=
  ∀ transfer ∈ connection.artworkTransfer, transfer.bytes.length < connection.artworkTotalSize

-- The images the connection will show once these events were traced: those written, those
-- complete, the one in flight, and those still to be announced.
def imagesAfter (connection : Connection) (events : List ArtworkEvent) : List SentArtwork :=
  connection.record.artworkImages ++
    (if events.any ArtworkEvent.isWritten then connection.unwrittenArtwork else []) ++
    (match connection.artworkTransfer with
      | some transfer => imageOf transfer.channel connection.artworkTotalSize transfer.bytes events
      | none => []) ++ imagesSent events

section views

variable (before after : Connection) (state : Reassembly) (same : artworkView after = artworkWith before state)
include same

theorem images_after_view (events : List ArtworkEvent) : imagesAfter after events = imagesAfter before events := by
  simp only [artworkView, artworkWith, Prod.mk.injEq] at same
  obtain ⟨images, unwritten, transfer, total, _⟩ := same
  rw [imagesAfter, imagesAfter, images, unwritten, transfer, total]

theorem in_flight_view (inFlight : InFlight before) : InFlight after := by
  simp only [artworkView, artworkWith, Prod.mk.injEq] at same
  obtain ⟨_, _, transfer, total, _⟩ := same
  rw [InFlight, transfer, total]
  exact inFlight

theorem reassembly_view : reassembly after = state := by
  simp only [artworkView, artworkWith, Prod.mk.injEq] at same
  exact same.2.2.2.2

end views

section events

theorem image_complete (channel total : Nat) (gathered : Bytes) (complete : total ≤ gathered.length)
    (events : List ArtworkEvent) :
    imageOf channel total gathered events =
      if events.any ArtworkEvent.isWritten then [⟨channel, gathered⟩] else [] := by
  cases events with
  | nil => rfl
  | cons event rest => cases event <;> simp only [imageOf, if_pos complete]

theorem transfer_written_images (connection : Connection) (transfer : SentArtwork) (total : Nat)
    (events : List ArtworkEvent) :
    imagesAfter (transferWritten connection transfer total) events =
        connection.record.artworkImages ++
          (if events.any ArtworkEvent.isWritten then connection.unwrittenArtwork else []) ++
          imageOf transfer.channel total transfer.bytes events ++ imagesSent events ∧
      InFlight (transferWritten connection transfer total) := by
  by_cases complete : transfer.bytes.length ≥ total
  · rw [transferWritten, if_pos complete]
    refine ⟨?_, fun _ absent => by cases absent⟩
    rw [image_complete transfer.channel total transfer.bytes complete events, imagesAfter]
    split <;> simp
  · rw [transferWritten, if_neg complete]
    refine ⟨rfl, ?_⟩
    intro found isTransfer
    cases isTransfer
    exact not_le.mp complete

theorem announce_images (connection : Connection) (inFlight : InFlight connection) (channel total : Nat)
    (events : List ArtworkEvent) :
    imagesAfter (transferWritten connection ⟨channel, []⟩ total) events =
      imagesAfter connection (.announce channel total :: events) := by
  have replaced : (match connection.artworkTransfer with
      | some transfer =>
          imageOf transfer.channel connection.artworkTotalSize transfer.bytes (.announce channel total :: events)
      | none => []) = [] := by
    cases isTransfer : connection.artworkTransfer with
    | none => rfl
    | some transfer =>
        have lacking := not_le.mpr (inFlight transfer isTransfer)
        simp only [imageOf, if_neg lacking]
  rw [(transfer_written_images connection ⟨channel, []⟩ total events).1, imagesAfter, replaced]
  simp [imagesSent, ArtworkEvent.isWritten, List.append_assoc]

theorem part_images (connection : Connection) (inFlight : InFlight connection) (channel : Nat) (data : Bytes)
    (transfer : SentArtwork) (isTransfer : connection.artworkTransfer = some transfer)
    (sameChannel : transfer.channel = channel) (events : List ArtworkEvent) :
    imagesAfter (transferWritten connection ⟨channel, transfer.bytes ++ data⟩ connection.artworkTotalSize) events =
      imagesAfter connection (.part channel data :: events) := by
  have lacking := not_le.mpr (inFlight transfer isTransfer)
  rw [(transfer_written_images connection _ _ events).1, imagesAfter, isTransfer]
  simp [imageOf, lacking, sameChannel, imagesSent, ArtworkEvent.isWritten]

theorem cancel_images (connection : Connection) (inFlight : InFlight connection) (channel : Nat)
    (transfer : SentArtwork) (isTransfer : connection.artworkTransfer = some transfer)
    (sameChannel : transfer.channel = channel) (events : List ArtworkEvent) :
    imagesAfter { connection with artworkTransfer := none } events =
      imagesAfter connection (.cancel channel :: events) := by
  have lacking := not_le.mpr (inFlight transfer isTransfer)
  simp [imagesAfter, isTransfer, imageOf, lacking, sameChannel, imagesSent, ArtworkEvent.isWritten]

-- A part or a cancel concerns no other channel's transfer.
def Elsewhere (connection : Connection) (channel : Nat) : Prop :=
  ∀ transfer ∈ connection.artworkTransfer, transfer.channel ≠ channel

theorem elsewhere_images (connection : Connection) (inFlight : InFlight connection) (channel : Nat)
    (elsewhere : Elsewhere connection channel) (events : List ArtworkEvent) :
    (∀ data, imagesAfter connection (.part channel data :: events) = imagesAfter connection events) ∧
      imagesAfter connection (.cancel channel :: events) = imagesAfter connection events := by
  cases isTransfer : connection.artworkTransfer with
  | none => simp [imagesAfter, isTransfer, imagesSent, ArtworkEvent.isWritten]
  | some transfer =>
      have lacking := not_le.mpr (inFlight transfer isTransfer)
      have differs : ¬channel = transfer.channel := fun same => elsewhere transfer isTransfer same.symm
      simp [imagesAfter, isTransfer, imageOf, lacking, differs, imagesSent, ArtworkEvent.isWritten]

theorem on_outbound_artwork_images (connection : Connection) (inFlight : InFlight connection) (id flags : UInt8)
    (data : Bytes) (isArtwork : (firstArtworkMessageId ≤ id && id ≤ lastArtworkMessageId) = true)
    (events : List ArtworkEvent) :
    imagesAfter (onOutboundArtwork connection (id :: flags :: data)) events =
        imagesAfter connection ((eventOf (id :: flags :: data)).toList ++ events) ∧
      InFlight (onOutboundArtwork connection (id :: flags :: data)) := by
  rw [eventOf, if_pos isArtwork, onOutboundArtwork]
  dsimp only
  generalize id.toNat - firstArtworkMessageId.toNat = channel
  by_cases cancels : flags &&& artworkCancelFlag ≠ 0
  · rw [if_pos cancels, if_pos cancels]
    cases isTransfer : connection.artworkTransfer with
    | none =>
        have elsewhere : Elsewhere connection channel := by simp [Elsewhere, isTransfer]
        exact ⟨(elsewhere_images connection inFlight channel elsewhere events).2.symm, inFlight⟩
    | some transfer =>
        by_cases same : transfer.channel = channel
        · simp only [Option.any_some, beq_iff_eq, same, if_true]
          exact ⟨cancel_images connection inFlight channel transfer isTransfer same events, fun _ absent => by cases absent⟩
        · have elsewhere : Elsewhere connection channel := by simpa [Elsewhere, isTransfer] using same
          simp only [Option.any_some, beq_iff_eq, same, if_false]
          exact ⟨(elsewhere_images connection inFlight channel elsewhere events).2.symm, inFlight⟩
  · rw [if_neg cancels, if_neg cancels]
    by_cases announces : flags &&& artworkAnnounceFlag ≠ 0
    · rw [if_pos announces, if_pos announces]
      by_cases size : (id :: flags :: data).length ≠ artworkAnnounceBytes
      · rw [if_pos size, if_pos size]
        exact ⟨rfl, inFlight⟩
      · rw [if_neg size, if_neg size]
        exact ⟨announce_images connection inFlight channel _ events, (transfer_written_images _ _ _ events).2⟩
    · rw [if_neg announces, if_neg announces]
      cases isTransfer : connection.artworkTransfer with
      | none =>
          have elsewhere : Elsewhere connection channel := by simp [Elsewhere, isTransfer]
          exact ⟨((elsewhere_images connection inFlight channel elsewhere events).1 data).symm, inFlight⟩
      | some transfer =>
          by_cases same : transfer.channel = channel
          · simp only [beq_iff_eq, same, if_true]
            exact ⟨part_images connection inFlight channel data transfer isTransfer same events,
              (transfer_written_images _ _ _ events).2⟩
          · have elsewhere : Elsewhere connection channel := by simpa [Elsewhere, isTransfer] using same
            simp only [beq_iff_eq, same, if_false]
            exact ⟨((elsewhere_images connection inFlight channel elsewhere events).1 data).symm, inFlight⟩

variable (json : ArduinoJson)

theorem metadata_written_images (stampUs : Int) (unwritten : List Bytes) (record : ConnectionRecord) :
    (unwritten.foldl (metadataWritten json stampUs) record).artworkImages = record.artworkImages := by
  induction unwritten generalizing record with
  | nil => rfl
  | cons metadata rest ih => exact ih (metadataWritten json stampUs record metadata)

theorem on_written_images (connection : Connection) (inFlight : InFlight connection) (stampUs : Int)
    (events : List ArtworkEvent) :
    imagesAfter (onWritten json connection stampUs) events = imagesAfter connection (.written :: events) ∧
      InFlight (onWritten json connection stampUs) := by
  have kept := metadata_written_images json stampUs connection.unwrittenMetadata connection.record
  refine ⟨?_, inFlight⟩
  cases isTransfer : connection.artworkTransfer with
  | none => simp [imagesAfter, onWritten, kept, isTransfer, imagesSent, ArtworkEvent.isWritten]
  | some transfer =>
      have lacking := not_le.mpr (inFlight transfer isTransfer)
      simp [imagesAfter, onWritten, kept, isTransfer, imageOf, lacking, imagesSent, ArtworkEvent.isWritten]

end events

section frames

variable (json : ArduinoJson)

theorem on_inbound_view (connection : Connection) (binary : Bool) (messageId : UInt8) (plaintext : Bytes) :
    artworkView (onInbound json connection binary messageId plaintext).1 = artworkView connection := by
  obtain ⟨added, isCase, traced⟩ := on_inbound_received json binary messageId plaintext
  rw [traced]
  rfl

theorem on_group_update_view (connection : Connection) (text : Bytes) :
    artworkView (onGroupUpdate connection text) = artworkView connection := by
  simp only [onGroupUpdate]
  split <;> rfl

theorem on_outbound_json_view (connection : Connection) (text : Bytes) (position : Position) (binary : Bool) :
    artworkView (onOutboundJson json connection text position binary) = artworkView connection := by
  simp only [onOutboundJson]
  split
  · rfl
  · split
    · exact on_group_update_view _ text
    · split
      · rfl
      · split
        · rfl
        · split <;> rfl

theorem transfer_written_reassembly (connection : Connection) (transfer : SentArtwork) (total : Nat) :
    reassembly (transferWritten connection transfer total) = reassembly connection := by
  rw [transferWritten]
  split <;> rfl

theorem on_outbound_artwork_reassembly (connection : Connection) (plaintext : Bytes) :
    reassembly (onOutboundArtwork connection plaintext) = reassembly connection := by
  match plaintext with
  | [] => rfl
  | [_] => rfl
  | id :: flags :: data =>
      simp only [onOutboundArtwork]
      split
      · split <;> rfl
      · split
        · split
          · rfl
          · exact transfer_written_reassembly _ _ _
        · split
          · split
            · exact transfer_written_reassembly _ _ _
            · rfl
          · rfl

theorem on_outbound_frame_images (connection : Connection) (inFlight : InFlight connection) (message : TracedMessage)
    (id : UInt8) (body : Bytes) (isPlaintext : message.plaintext = id :: body) (events : List ArtworkEvent) :
    imagesAfter (onOutboundFrame connection message id) events =
        imagesAfter connection ((eventOf message.plaintext).toList ++ events) ∧
      InFlight (onOutboundFrame connection message id) ∧
      reassembly (onOutboundFrame connection message id) = reassembly connection := by
  let seen := addEvent connection ⟨false, true, id, ""⟩
  have seenView : artworkView seen = artworkView connection := rfl
  have seenInFlight := in_flight_view connection seen _ seenView inFlight
  let transferred :=
    if firstArtworkMessageId ≤ id && id ≤ lastArtworkMessageId then onOutboundArtwork seen message.plaintext else seen
  have sentView : artworkView (onOutboundFrame connection message id) = artworkView transferred := by
    simp only [onOutboundFrame]
    change artworkView (if _ then addUnwrittenAudio (if _ then addChunkTimestamp (addSentFrame transferred _ _) _ else
      addSentFrame transferred _ _) _ else (if _ then addChunkTimestamp (addSentFrame transferred _ _) _ else
      addSentFrame transferred _ _)) = artworkView transferred
    split <;> split <;> rfl
  have sent : imagesAfter transferred events = imagesAfter seen ((eventOf message.plaintext).toList ++ events) ∧
      InFlight transferred ∧ reassembly transferred = reassembly seen := by
    by_cases isArtwork : (firstArtworkMessageId ≤ id && id ≤ lastArtworkMessageId) = true
    · have isTransferred : transferred = onOutboundArtwork seen message.plaintext := if_pos isArtwork
      rw [isTransferred, on_outbound_artwork_reassembly, isPlaintext]
      cases body with
      | nil => exact ⟨rfl, seenInFlight, rfl⟩
      | cons flags data =>
          obtain ⟨images, kept⟩ := on_outbound_artwork_images seen seenInFlight id flags data isArtwork events
          exact ⟨images, kept, rfl⟩
    · have isSeen : transferred = seen := if_neg isArtwork
      have noEvent : eventOf message.plaintext = none := by
        rw [isPlaintext]
        cases body with
        | nil => rfl
        | cons flags data => rw [eventOf, if_neg isArtwork]
      rw [isSeen, noEvent]
      exact ⟨rfl, seenInFlight, rfl⟩
  refine ⟨?_, in_flight_view transferred _ _ sentView sent.2.1, ?_⟩
  · rw [images_after_view transferred _ _ sentView, sent.1, images_after_view connection seen _ seenView]
  · rw [reassembly_view transferred _ _ sentView, sent.2.2]
    rfl

theorem gather_fragment_view (connection : Connection) (flags : UInt8) (rest : Bytes) :
    artworkView (gatherFragment connection flags rest) =
      artworkWith connection ((reassembly connection).gather flags rest) := by
  cases rest with
  | nil => rfl
  | cons type data =>
      simp only [gatherFragment, Reassembly.gather]
      split <;> rfl

theorem on_fragmented_binary_view (connection : Connection) (messageId : UInt8) (data : Bytes) :
    artworkView (onFragmentedBinary connection messageId data) = artworkView connection := by
  simp only [onFragmentedBinary]
  split <;> split <;> rfl

-- Of a fragment the connection keeps what the transport reassembles, and nothing of artwork.
theorem on_outbound_fragment_view (connection : Connection) (plaintext : Bytes) (flags : UInt8) (rest : Bytes) :
    artworkView (onOutboundFragment json connection plaintext flags rest) =
      artworkWith connection ((reassembly connection).add flags rest).1 := by
  have gatheredView := gather_fragment_view connection flags rest
  have gatheredType : (gatherFragment connection flags rest).fragmentType =
      ((reassembly connection).gather flags rest).type :=
    congrArg (fun view => view.2.2.2.2.type) gatheredView
  simp only [onOutboundFragment, Reassembly.add]
  rw [← gatheredType]
  generalize gatherFragment connection flags rest = gathered at gatheredView ⊢
  have framedView : artworkView (if gathered.fragmentType ≠ some jsonMessageId then addSentFrame gathered plaintext none
      else gathered) = artworkView gathered := by
    split <;> rfl
  generalize (if gathered.fragmentType ≠ some jsonMessageId then _ else _ : Connection) = framed at framedView ⊢
  have finishedView : artworkView { framed with fragmentType := none, fragmentData := [] } =
      artworkWith connection {} := by
    have both := framedView.trans gatheredView
    exact congrArg (fun view => (view.1, view.2.1, view.2.2.1, view.2.2.2.1, ({} : Reassembly))) both
  cases gathered.fragmentType with
  | none => exact framedView.trans gatheredView
  | some messageId =>
      dsimp only
      by_cases more : flags &&& lastFragmentFlag = 0
      · rw [if_pos more, if_pos more]
        exact framedView.trans gatheredView
      · rw [if_neg more, if_neg more]
        by_cases isJson : messageId = jsonMessageId
        · rw [if_pos isJson]
          exact (on_outbound_json_view json _ _ _ _).trans finishedView
        · rw [if_neg isJson]
          exact (on_fragmented_binary_view _ _ _).trans finishedView

end frames

section runs

variable (json : ArduinoJson)

-- The artwork message changes nothing of the transfer in flight.
def Ignored (connection : Connection) : ArtworkEvent → Prop
  | .announce channel total =>
      connection.artworkTransfer = some ⟨channel, []⟩ ∧ connection.artworkTotalSize = total
  | .part channel data => data = [] ∨ Elsewhere connection channel
  | .cancel channel => Elsewhere connection channel
  | .written => False

theorem ignored_images (connection : Connection) (inFlight : InFlight connection) (event : ArtworkEvent)
    (ignored : Ignored connection event) (events : List ArtworkEvent) :
    imagesAfter connection (event :: events) = imagesAfter connection events := by
  cases event with
  | announce channel total =>
      obtain ⟨isTransfer, sameTotal⟩ := ignored
      have lacking := inFlight _ isTransfer
      rw [sameTotal] at lacking
      have nonzero : ¬total = 0 := Nat.ne_of_gt lacking
      simp [imagesAfter, isTransfer, sameTotal, imageOf, nonzero, imagesSent, ArtworkEvent.isWritten]
  | part channel data =>
      cases ignored with
      | inl isEmpty =>
          cases isTransfer : connection.artworkTransfer with
          | none => simp [imagesAfter, isTransfer, imagesSent, ArtworkEvent.isWritten]
          | some transfer =>
              have lacking := not_le.mpr (inFlight transfer isTransfer)
              simp [imagesAfter, isTransfer, isEmpty, imageOf, lacking, imagesSent, ArtworkEvent.isWritten]
      | inr elsewhere => exact (elsewhere_images connection inFlight channel elsewhere events).1 data
  | cancel channel => exact (elsewhere_images connection inFlight channel ignored events).2
  | written => exact absurd ignored id

-- A message the last of its fragments completes is no artwork message that would change the
-- transfer in flight.
def StepMeets (recorder : TraceRecorder) (message : TracedMessage) : Prop :=
  let connection := recorder.connections message.connectionId
  ∀ flags rest event, carried message.connectionId message = some (.fragment flags rest) →
    ((reassembly connection).add flags rest).2.bind eventOf = some event → Ignored connection event

def RunMeets (recorder : TraceRecorder) : List TracedMessage → Prop
  | [] => True
  | message :: rest => StepMeets recorder message ∧ RunMeets (onMessage json recorder message) rest

-- The images a recorder's connection will show once the rest was traced.
def imagesToCome (recorder : TraceRecorder) (id : Nat) (rest : List TracedMessage) : List SentArtwork :=
  imagesAfter (recorder.connections id) (eventsOf id (reassembly (recorder.connections id)) rest)

theorem unchanged_images (before after : Connection) (same : artworkView after = artworkView before)
    (inFlight : InFlight before) (id : Nat) (rest : List TracedMessage) :
    imagesAfter after (eventsOf id (reassembly after) rest) =
        imagesAfter before (eventsOf id (reassembly before) rest) ∧ InFlight after := by
  rw [reassembly_view before after _ same, images_after_view before after _ same]
  exact ⟨rfl, in_flight_view before after _ same inFlight⟩

theorem outbound_recorded (connection : Connection) (inFlight : InFlight connection) (message : TracedMessage) (id : Nat)
    (sent : message.connectionId = id ∧ message.written = false ∧ message.direction = .outbound)
    (meets : ∀ flags rest event, carried id message = some (.fragment flags rest) →
      ((reassembly connection).add flags rest).2.bind eventOf = some event → Ignored connection event)
    (rest : List TracedMessage) :
    imagesAfter (onOutbound json connection message)
        (eventsOf id (reassembly (onOutbound json connection message)) rest) =
      imagesAfter connection (eventsOf id (reassembly connection) (message :: rest)) ∧
      InFlight (onOutbound json connection message) := by
  have notWritten : ¬(message.connectionId = id ∧ message.written = true) := by
    simp [sent.2.1]
  cases isBinary : message.binary with
  | false =>
      have notCarried : carried id message = none := by simp [carried, isBinary]
      have traced : onOutbound json connection message =
          onOutboundJson json connection message.plaintext (positionOf connection) false := by
        simp [onOutbound, isBinary]
      rw [eventsOf, if_neg notWritten, notCarried, traced]
      exact unchanged_images connection _ (on_outbound_json_view json _ _ _ _) inFlight id rest
  | true =>
      have isSent : message.connectionId = id ∧ message.written = false ∧ message.direction = .outbound ∧
          message.binary = true := ⟨sent.1, sent.2.1, sent.2.2, isBinary⟩
      cases isPlaintext : message.plaintext with
      | nil =>
          have isCarried : carried id message = some (.whole []) := by
            rw [carried, if_pos isSent, isPlaintext]
          have traced : onOutbound json connection message = connection := by
            simp [onOutbound, isBinary, isPlaintext]
          rw [eventsOf, if_neg notWritten, isCarried, traced]
          exact ⟨rfl, inFlight⟩
      | cons kind body =>
          by_cases isJson : kind = jsonMessageId
          · have isCarried : carried id message = some (.whole message.plaintext) := by
              rw [carried, if_pos isSent, isPlaintext, isJson]
              cases body <;> rfl
            have noEvent : eventOf message.plaintext = none := by
              rw [isPlaintext, isJson]
              cases body <;> rfl
            have traced : onOutbound json connection message =
                onOutboundJson json connection body (positionOf connection) true := by
              simp [onOutbound, isBinary, isPlaintext, isJson]
            rw [eventsOf, if_neg notWritten, isCarried, traced]
            simp only [noEvent, Option.toList_none, List.nil_append]
            exact unchanged_images connection _ (on_outbound_json_view json _ _ _ _) inFlight id rest
          · have whole (isCarried : carried id message = some (.whole message.plaintext))
                (traced : onOutbound json connection message = onOutboundFrame connection message kind) :
                imagesAfter (onOutbound json connection message)
                    (eventsOf id (reassembly (onOutbound json connection message)) rest) =
                  imagesAfter connection (eventsOf id (reassembly connection) (message :: rest)) ∧
                  InFlight (onOutbound json connection message) := by
              rw [eventsOf, if_neg notWritten, isCarried, traced]
              dsimp only
              have framed := fun events =>
                on_outbound_frame_images connection inFlight message kind body isPlaintext events
              rw [(framed []).2.2]
              exact ⟨(framed _).1, (framed []).2.1⟩
            cases body with
            | nil =>
                refine whole ?_ ?_
                · rw [carried, if_pos isSent, isPlaintext]
                · simp [onOutbound, isBinary, isPlaintext, isJson]
            | cons flags more =>
                by_cases isFragment : kind = fragmentMessageId
                · have isCarried : carried id message = some (.fragment flags more) := by
                    rw [carried, if_pos isSent, isPlaintext]
                    simp only [if_pos isFragment]
                  have traced : onOutbound json connection message =
                      onOutboundFragment json connection message.plaintext flags more := by
                    simp only [onOutbound, isBinary, isPlaintext, Bool.not_true, Bool.false_eq_true, if_false,
                      if_neg isJson, if_pos isFragment]
                  have view := on_outbound_fragment_view json connection message.plaintext flags more
                  rw [eventsOf, if_neg notWritten, isCarried, traced]
                  dsimp only
                  rw [reassembly_view connection _ _ view, images_after_view connection _ _ view]
                  refine ⟨?_, in_flight_view connection _ _ view inFlight⟩
                  cases completes : ((reassembly connection).add flags more).2.bind eventOf with
                  | none => rfl
                  | some event =>
                      have ignored := meets flags more event isCarried completes
                      exact (ignored_images connection inFlight event ignored _).symm
                · refine whole ?_ ?_
                  · rw [carried, if_pos isSent, isPlaintext]
                    simp only [if_neg isFragment]
                  · simp [onOutbound, isBinary, isPlaintext, isJson, isFragment]

-- One traced message leaves the images to come as they were.
theorem message_recorded (recorder : TraceRecorder) (message : TracedMessage) (id : Nat)
    (inFlight : InFlight (recorder.connections id)) (meets : StepMeets recorder message) (rest : List TracedMessage) :
    imagesToCome (onMessage json recorder message) id rest = imagesToCome recorder id (message :: rest) ∧
      InFlight ((onMessage json recorder message).connections id) := by
  by_cases sameId : message.connectionId = id
  · subst sameId
    let connection := named message.connectionId (recorder.connections message.connectionId)
    have view : artworkView connection = artworkView (recorder.connections message.connectionId) := rfl
    have namedInFlight := in_flight_view _ connection _ view inFlight
    have sameConnection (events : List ArtworkEvent) : imagesAfter connection events =
        imagesAfter (recorder.connections message.connectionId) events := images_after_view _ connection _ view events
    rw [imagesToCome, imagesToCome]
    cases isWritten : message.written with
    | true =>
        have traced : (onMessage json recorder message).connections message.connectionId =
            onWritten json connection message.stampUs := by
          simp [onMessage, isWritten, connection, named]
        have covers : message.connectionId = message.connectionId ∧ message.written = true := ⟨rfl, isWritten⟩
        have sameReassembly : reassembly (onWritten json connection message.stampUs) =
            reassembly (recorder.connections message.connectionId) := rfl
        rw [traced, eventsOf, if_pos covers, sameReassembly, ← sameConnection]
        exact on_written_images json connection namedInFlight message.stampUs _
    | false =>
        cases isDirection : message.direction with
        | inbound =>
            have notWritten : ¬(message.connectionId = message.connectionId ∧ message.written = true) := by
              simp [isWritten]
            have notCarried : carried message.connectionId message = none := by simp [carried, isDirection]
            let messageId := if message.binary then message.plaintext.headD jsonMessageId else jsonMessageId
            have traced : (onMessage json recorder message).connections message.connectionId =
                (onInbound json connection message.binary messageId message.plaintext).1 := by
              simp [onMessage, isWritten, isDirection, connection, named, messageId]
            rw [traced, eventsOf, if_neg notWritten, notCarried]
            exact unchanged_images _ _ ((on_inbound_view json connection _ _ _).trans view) inFlight _ rest
        | outbound =>
            have traced : (onMessage json recorder message).connections message.connectionId =
                onOutbound json connection message := by
              simp [onMessage, isWritten, isDirection, connection, named]
            rw [traced, ← sameConnection]
            exact outbound_recorded json connection namedInFlight message message.connectionId
              ⟨rfl, isWritten, isDirection⟩ meets rest
  · have other : (onMessage json recorder message).connections id = recorder.connections id := by
      simp only [onMessage]
      split
      · exact Function.update_of_ne (Ne.symm sameId) _ _
      · split <;> exact Function.update_of_ne (Ne.symm sameId) _ _
    have notWritten : ¬(message.connectionId = id ∧ message.written = true) := fun both => sameId both.1
    have notCarried : carried id message = none := if_neg fun both => sameId both.1
    rw [imagesToCome, imagesToCome, other, eventsOf, if_neg notWritten, notCarried]
    exact ⟨rfl, inFlight⟩

theorem run_recorded (run : List TracedMessage) (recorder : TraceRecorder) (id : Nat)
    (inFlight : InFlight (recorder.connections id)) (meets : RunMeets json recorder run) :
    ((run.foldl (onMessage json) recorder).connections id).record.artworkImages = imagesToCome recorder id run := by
  induction run generalizing recorder with
  | nil =>
      have complete : imagesAfter (recorder.connections id) [] =
          (recorder.connections id).record.artworkImages := by
        cases isTransfer : (recorder.connections id).artworkTransfer <;>
          simp [imagesAfter, isTransfer, imageOf, imagesSent]
      exact complete.symm
  | cons message rest ih =>
      obtain ⟨kept, later⟩ := message_recorded json recorder message id inFlight meets.1 rest
      rw [List.foldl_cons, ih _ later meets.2, kept]

theorem run_meets_prior (prior rest : List TracedMessage) (recorder : TraceRecorder)
    (meets : RunMeets json recorder (prior ++ rest)) : RunMeets json recorder prior := by
  induction prior generalizing recorder with
  | nil => trivial
  | cons message others ih => exact ⟨meets.1, ih _ meets.2⟩

-- A run of whole messages.
theorem whole_run_meets (run : List TracedMessage) (recorder : TraceRecorder)
    (whole : ∀ message ∈ run, ∀ flags rest, carried message.connectionId message ≠ some (.fragment flags rest)) :
    RunMeets json recorder run := by
  induction run generalizing recorder with
  | nil => trivial
  | cons message others ih =>
      refine ⟨?_, ih _ fun other member => whole other (List.mem_cons_of_mem message member)⟩
      intro flags rest event isFragment
      exact absurd isFragment (whole message List.mem_cons_self flags rest)

-- In every state of a run in which no fragmented artwork message would change the transfer in
-- flight, a connection's images are those its trace shows sent in full.
theorem artwork_images_recorded (run : List TracedMessage) (meets : RunMeets json {} run) :
    ∀ prior rest, run = prior ++ rest → ∀ id,
      ((prior.foldl (onMessage json) {}).connections id).record.artworkImages = imagesSent (eventsOf id {} prior) := by
  rintro prior rest rfl id
  have empty : InFlight (({} : TraceRecorder).connections id) := fun _ absent => (nomatch absent)
  rw [run_recorded json prior {} id empty (run_meets_prior json prior rest {} meets)]
  simp [imagesToCome, imagesAfter, reassembly]

end runs

-- A library that reads no JSON.
def noJson : ArduinoJson := ⟨fun _ => (true, .null), fun _ => []⟩

def artworkTraced (plaintext : Bytes) : TracedMessage := ⟨1, false, .outbound, true, plaintext, 0, 0⟩

def writeTraced : TracedMessage := ⟨1, true, .outbound, false, [], 0, 0⟩

-- An image of three bytes in one part, traced whole or in two fragments.
def wholeImage : List TracedMessage :=
  [artworkTraced (ArtworkMessage.announce 0 5 3).plaintext, artworkTraced (ArtworkMessage.part 0 [1, 2, 3]).plaintext,
    writeTraced]

def fragmentedImage : List TracedMessage :=
  [artworkTraced (ArtworkMessage.announce 0 5 3).plaintext, artworkTraced [1, 2, 8, 0, 1], artworkTraced [1, 1, 2, 3],
    writeTraced]

theorem whole_image_recorded :
    ((wholeImage.foldl (onMessage noJson) {}).connections 1).record.artworkImages =
        imagesSent (eventsOf 1 {} wholeImage) ∧
      imagesSent (eventsOf 1 {} wholeImage) = [⟨0, [1, 2, 3]⟩] := by
  refine ⟨artwork_images_recorded noJson wholeImage ?_ wholeImage [] (List.append_nil _).symm 1, rfl⟩
  refine whole_run_meets noJson wholeImage {} ?_
  intro message member flags rest isFragment
  simp only [wholeImage, List.mem_cons, List.not_mem_nil, or_false] at member
  obtain rfl | rfl | rfl := member <;> cases isFragment

-- The image traced in fragments is sent and is not recorded.
theorem fragmented_image_unrecorded :
    ((fragmentedImage.foldl (onMessage noJson) {}).connections 1).record.artworkImages = [] ∧
      imagesSent (eventsOf 1 {} fragmentedImage) = [⟨0, [1, 2, 3]⟩] := ⟨rfl, rfl⟩

end Conformance.Adapters
