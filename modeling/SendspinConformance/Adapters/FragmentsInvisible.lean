import SendspinConformance.Adapters.FragmentsTraced

set_option autoImplicit false

namespace Conformance.Adapters

open Python Protocol Base

-- One confirmation is kept for each time entry.
def InStep (connection : Connection) : Prop :=
  connection.timeConfirmed.length = connection.record.timeExchange.length

-- What the time exchange is kept in.
def times (connection : Connection) : List Bool × List TimeEntry :=
  (connection.timeConfirmed, connection.record.timeExchange)

theorem in_step_times (before after : Connection) (same : times after = times before) (step : InStep before) :
    InStep after := by
  obtain ⟨confirmed, exchange⟩ := Prod.mk.inj same
  rw [InStep, confirmed, exchange]
  exact step

variable (json : ArduinoJson)

theorem metadata_written_times (stampUs : Int) (unwritten : List Bytes) (record : ConnectionRecord) :
    (unwritten.foldl (metadataWritten json stampUs) record).timeExchange = record.timeExchange := by
  induction unwritten generalizing record with
  | nil => rfl
  | cons metadata rest ih => exact ih _

theorem on_written_in_step (connection : Connection) (stampUs : Int) (step : InStep connection) :
    InStep (onWritten json connection stampUs) := by
  simpa [InStep, onWritten, metadata_written_times] using step

theorem received_in_step (connection : Connection) (added : Received) (step : InStep connection) :
    InStep (received connection added) := by
  rw [InStep] at step
  simp [InStep, received, step]

theorem insert_time_in_step (connection : Connection) (place : Nat) (entry : TimeEntry) (step : InStep connection) :
    InStep (insertTime connection place entry) := by
  rw [InStep] at step
  simp [InStep, insertTime, length_insert_at, step]

theorem on_group_update_times (connection : Connection) (text : Bytes) :
    times (onGroupUpdate connection text) = times connection := by
  simp only [onGroupUpdate]
  split <;> rfl

theorem on_outbound_json_in_step (connection : Connection) (text : Bytes) (position : Position) (binary : Bool)
    (step : InStep connection) : InStep (onOutboundJson json connection text position binary) := by
  have traced (entry : TimeEntry) (event : WireEvent) :
      InStep (insertTime (insertEvent connection position.events event) position.timeExchange entry) :=
    insert_time_in_step _ _ entry step
  simp only [onOutboundJson]
  split
  · exact in_step_times _ _ rfl (traced _ _)
  · split
    · exact in_step_times _ _ (on_group_update_times _ text) (traced _ _)
    · split
      · exact in_step_times _ _ rfl (traced _ _)
      · split
        · exact in_step_times _ _ rfl (traced _ _)
        · split
          · exact in_step_times _ _ rfl (traced _ _)
          · exact traced _ _

theorem transfer_written_times (connection : Connection) (transfer : SentArtwork) (totalSize : Nat) :
    times (transferWritten connection transfer totalSize) = times connection := by
  by_cases complete : transfer.bytes.length ≥ totalSize <;> simp [transferWritten, complete, times]

theorem on_outbound_artwork_times (connection : Connection) (plaintext : Bytes) :
    times (onOutboundArtwork connection plaintext) = times connection := by
  match plaintext with
  | [] => rfl
  | [_] => rfl
  | id :: flags :: data =>
      simp only [onOutboundArtwork]
      split
      · split <;> rfl
      · split
        · split
          · rfl
          · exact transfer_written_times _ _ _
        · split
          · split
            · exact transfer_written_times _ _ _
            · rfl
          · rfl

theorem on_outbound_frame_times (connection : Connection) (message : TracedMessage) (id : UInt8) :
    times (onOutboundFrame connection message id) = times connection := by
  have transferred : times (if firstArtworkMessageId ≤ id && id ≤ lastArtworkMessageId then
      onOutboundArtwork (addEvent connection ⟨false, true, id, ""⟩) message.plaintext
      else addEvent connection ⟨false, true, id, ""⟩) = times connection := by
    split
    · exact on_outbound_artwork_times _ message.plaintext
    · rfl
  refine Eq.trans ?_ transferred
  simp only [onOutboundFrame]
  generalize (if (firstArtworkMessageId ≤ id && id ≤ lastArtworkMessageId) = true then _ else _ : Connection) = sent
  split <;> split <;> rfl

theorem gather_fragment_times (connection : Connection) (flags : UInt8) (rest : Bytes) :
    times (gatherFragment connection flags rest) = times connection := by
  cases rest with
  | nil => rfl
  | cons type data =>
      simp only [gatherFragment]
      split <;> rfl

theorem on_fragmented_binary_times (connection : Connection) (messageId : UInt8) (data : Bytes) :
    times (onFragmentedBinary connection messageId data) = times connection := by
  simp only [onFragmentedBinary]
  split <;> split <;> rfl

theorem on_outbound_fragment_in_step (connection : Connection) (plaintext : Bytes) (flags : UInt8) (rest : Bytes)
    (step : InStep connection) : InStep (onOutboundFragment json connection plaintext flags rest) := by
  have gatheredStep := in_step_times _ _ (gather_fragment_times connection flags rest) step
  simp only [onOutboundFragment]
  generalize gatherFragment connection flags rest = gathered at gatheredStep ⊢
  have framedStep : InStep (if gathered.fragmentType ≠ some jsonMessageId then addSentFrame gathered plaintext none
      else gathered) := by
    split
    · exact in_step_times _ _ rfl gatheredStep
    · exact gatheredStep
  generalize (if gathered.fragmentType ≠ some jsonMessageId then _ else _ : Connection) = framed at framedStep ⊢
  have finished : InStep { framed with fragmentType := none, fragmentData := [] } := in_step_times _ _ rfl framedStep
  cases gathered.fragmentType with
  | none => exact framedStep
  | some messageId =>
      dsimp only
      by_cases more : flags &&& lastFragmentFlag = 0
      · rw [if_pos more]
        exact framedStep
      · by_cases isJson : messageId = jsonMessageId
        · rw [if_neg more, if_pos isJson]
          exact on_outbound_json_in_step json _ _ _ _ finished
        · rw [if_neg more, if_neg isJson]
          exact in_step_times _ _ (on_fragmented_binary_times _ _ _) finished

theorem on_outbound_in_step (connection : Connection) (message : TracedMessage) (step : InStep connection) :
    InStep (onOutbound json connection message) := by
  rw [onOutbound]
  split
  · exact on_outbound_json_in_step json _ _ _ _ step
  · split
    · exact step
    · split
      · exact on_outbound_json_in_step json _ _ _ _ step
      · split
        · split
          · exact on_outbound_fragment_in_step json _ _ _ _ step
          · exact in_step_times _ _ (on_outbound_frame_times _ _ _) step
        · exact in_step_times _ _ (on_outbound_frame_times _ _ _) step

theorem incoming_message (message : TracedMessage) (incoming : Incoming message) :
    ∃ (added : Received) (isCase : Bool), ∀ recorder, onMessage json recorder message =
      ⟨Function.update recorder.connections message.connectionId
          (received (named message.connectionId (recorder.connections message.connectionId)) added),
        if isCase then some message.connectionId else recorder.caseConnection⟩ := by
  obtain ⟨added, isCase, traced⟩ := on_inbound_received json message.binary
    (if message.binary then message.plaintext.headD jsonMessageId else jsonMessageId) message.plaintext
  refine ⟨added, isCase, ?_⟩
  intro recorder
  simp only [onMessage, incoming.1, incoming.2, Bool.false_eq_true, if_false, traced, named]

theorem sent_message (recorder : TraceRecorder) (id : Nat) (plaintext : Bytes) (message : TracedMessage)
    (sent : Sent id plaintext message) :
    onMessage json recorder message =
      ⟨Function.update recorder.connections id (onOutbound json (named id (recorder.connections id)) message),
        recorder.caseConnection⟩ := by
  simp only [onMessage, sent.unwritten, sent.outbound, sent.connection, Bool.false_eq_true, if_false, named]

theorem message_in_step (recorder : TraceRecorder) (message : TracedMessage)
    (step : ∀ id, InStep (recorder.connections id)) (id : Nat) :
    InStep ((onMessage json recorder message).connections id) := by
  by_cases same : id = message.connectionId
  · have namedStep : InStep (named message.connectionId (recorder.connections message.connectionId)) :=
      step message.connectionId
    subst same
    simp only [onMessage]
    split
    · simp only [Function.update_self]
      exact on_written_in_step json _ _ namedStep
    · cases message.direction with
      | inbound =>
          obtain ⟨added, isCase, traced⟩ := on_inbound_received json message.binary
            (if message.binary then message.plaintext.headD jsonMessageId else jsonMessageId) message.plaintext
          simp only [traced, Function.update_self]
          exact received_in_step _ added namedStep
      | outbound =>
          simp only [Function.update_self]
          exact on_outbound_in_step json _ message namedStep
  · rw [on_message_other json recorder message id same]
    exact step id

theorem recorded_in_step (messages : List TracedMessage) (id : Nat) :
    InStep ((recorded json messages).connections id) := by
  induction messages using List.reverseRecOn generalizing id with
  | nil => rfl
  | append_singleton messages message ih =>
      rw [recorded_snoc]
      exact message_in_step json _ message ih id

def RecordersAlike (left right : TraceRecorder) : Prop :=
  left.caseConnection = right.caseConnection ∧ ∀ id, Alike (left.connections id) (right.connections id)

theorem named_alike (id : Nat) (left right : Connection) (alike : Alike left right) :
    Alike (named id left) (named id right) :=
  congrArg (named id) alike

theorem named_itself (id : Nat) (connection : Connection) (same : connection.record.connectionId = id) :
    named id connection = connection := by
  rw [named, ← same]

theorem incoming_alike (left right : TraceRecorder) (message : TracedMessage) (incoming : Incoming message)
    (alike : RecordersAlike left right) :
    RecordersAlike (onMessage json left message) (onMessage json right message) := by
  obtain ⟨added, isCase, traced⟩ := incoming_message json message incoming
  rw [traced, traced, RecordersAlike]
  apply And.intro
  · rw [alike.1]
  · intro id
    by_cases own : id = message.connectionId
    · subst own
      simp only [Function.update_self]
      exact received_alike _ _ added (named_alike _ _ _ (alike.2 _))
    · simp only [Function.update_of_ne own]
      exact alike.2 id

theorem incoming_run_alike (inbound : List TracedMessage) (left right : TraceRecorder)
    (incoming : ∀ message ∈ inbound, Incoming message) (alike : RecordersAlike left right) :
    RecordersAlike (inbound.foldl (onMessage json) left) (inbound.foldl (onMessage json) right) := by
  induction inbound generalizing left right with
  | nil => exact alike
  | cons message rest ih =>
      exact ih _ _ (fun later member => incoming later (List.mem_cons_of_mem _ member))
        (incoming_alike json left right message (incoming message List.mem_cons_self) alike)

theorem written_message_alike (left right : TraceRecorder) (message : TracedMessage) (written : message.written = true)
    (alike : RecordersAlike left right) :
    RecordersAlike (onMessage json left message) (onMessage json right message) := by
  simp only [onMessage, if_pos written]
  refine ⟨alike.1, fun id => ?_⟩
  by_cases own : id = message.connectionId
  · subst own
    simp only [Function.update_self]
    exact written_alike json _ _ message.stampUs (named_alike message.connectionId _ _ (alike.2 _))
  · simp only [Function.update_of_ne own]
    exact alike.2 id

-- The recorder with a whole message traced at the places given.
def completed (recorder : TraceRecorder) (id : Nat) (position : Position) (type : UInt8) (body : Bytes) :
    TraceRecorder :=
  ⟨Function.update recorder.connections id (onCompleted json (recorder.connections id) position type body),
    recorder.caseConnection⟩

theorem update_alike (recorder : TraceRecorder) (id : Nat) (left right : Connection) (alike : Alike left right) :
    RecordersAlike ⟨Function.update recorder.connections id left, recorder.caseConnection⟩
      ⟨Function.update recorder.connections id right, recorder.caseConnection⟩ := by
  refine ⟨rfl, fun other => ?_⟩
  by_cases own : other = id
  · subst own
    simp only [Function.update_self]
    exact alike
  · simp only [Function.update_of_ne own]
    rfl

theorem completed_update (recorder : TraceRecorder) (id : Nat) (connection : Connection) (position : Position)
    (type : UInt8) (body : Bytes) :
    completed json ⟨Function.update recorder.connections id connection, recorder.caseConnection⟩ id position type body =
      ⟨Function.update recorder.connections id (onCompleted json connection position type body),
        recorder.caseConnection⟩ := by
  simp only [completed, Function.update_self, Function.update_idem]

theorem completed_named (id : Nat) (connection : Connection) (position : Position) (type : UInt8) (body : Bytes) :
    named id (onCompleted json connection position type body) =
      onCompleted json (named id connection) position type body := by
  by_cases isJson : type = jsonMessageId
  · simp only [onCompleted, if_pos isJson, onOutboundJson]
    split
    · rfl
    · split
      · simp only [onGroupUpdate]
        exact apply_ite (named id) _ _ _
      · split
        · rfl
        · split
          · rfl
          · split <;> rfl
  · simp only [onCompleted, if_neg isJson, onFragmentedBinary]
    split <;> split <;> rfl

-- An inbound message and the message completed where its send began may change places.
theorem incoming_completed (recorder : TraceRecorder) (message : TracedMessage) (id : Nat) (position : Position)
    (type : UInt8) (body : Bytes) (incoming : Incoming message)
    (isNamed : (recorder.connections id).record.connectionId = id) (within : Within position (recorder.connections id)) :
    onMessage json (completed json recorder id position type body) message =
      completed json (onMessage json recorder message) id position type body := by
  obtain ⟨added, isCase, traced⟩ := incoming_message json message incoming
  rw [traced, traced]
  simp only [completed]
  by_cases own : message.connectionId = id
  · rw [own]
    simp only [Function.update_self, Function.update_idem]
    rw [completed_named, named_itself id _ isNamed,
      received_completed json _ added position type body within]
  · simp only [Function.update_of_ne own, Function.update_of_ne (Ne.symm own)]
    rw [Function.update_comm own]

-- What follows a first fragment, `body` still to come: middle fragments and inbound messages in
-- any order, then the last fragment. `inbound` is the inbound messages among them.
inductive Rest (id : Nat) : Bytes → List TracedMessage → List TracedMessage → Prop where
  | last (flags : UInt8) (data : Bytes) (message : TracedMessage) :
      Sent id (fragmentMessageId :: flags :: data) message → flags &&& firstFragmentFlag = 0 →
        flags &&& lastFragmentFlag ≠ 0 → Rest id data [message] []
  | middle (flags : UInt8) (data body : Bytes) (message : TracedMessage) (run inbound : List TracedMessage) :
      Sent id (fragmentMessageId :: flags :: data) message → flags &&& firstFragmentFlag = 0 →
        flags &&& lastFragmentFlag = 0 → Rest id body run inbound → Rest id (data ++ body) (message :: run) inbound
  | inbound (body : Bytes) (message : TracedMessage) (run inbound : List TracedMessage) :
      Incoming message → Rest id body run inbound → Rest id body (message :: run) (message :: inbound)

-- A message of the type given, traced in fragments that carry its body.
inductive Fragmented (id : Nat) (type : UInt8) : Bytes → List TracedMessage → List TracedMessage → Prop where
  | first (flags : UInt8) (data body : Bytes) (message : TracedMessage) (run inbound : List TracedMessage) :
      Sent id (fragmentMessageId :: flags :: type :: data) message → flags &&& firstFragmentFlag ≠ 0 →
        flags &&& lastFragmentFlag = 0 → Rest id body run inbound →
          Fragmented id type (data ++ body) (message :: run) inbound

theorem rest_incoming (id : Nat) (body : Bytes) (run inbound : List TracedMessage) (rest : Rest id body run inbound) :
    ∀ message ∈ inbound, Incoming message := by
  induction rest with
  | last => exact fun _ member => absurd member List.not_mem_nil
  | middle _ _ _ _ _ _ _ _ _ _ ih => exact ih
  | inbound _ message _ _ incoming _ ih => exact List.forall_mem_cons.mpr ⟨incoming, ih⟩

theorem fragmented_incoming (id : Nat) (type : UInt8) (body : Bytes) (run inbound : List TracedMessage)
    (fragmented : Fragmented id type body run inbound) : ∀ message ∈ inbound, Incoming message := by
  cases fragmented with
  | first _ _ body _ run inbound _ _ _ rest => exact rest_incoming id body run inbound rest

-- From a connection that gathers, the rest of the run leaves what completing the message at
-- once and then tracing the inbound messages does.
theorem rest_traced (id : Nat) (body : Bytes) (run inbound : List TracedMessage) (rest : Rest id body run inbound)
    (recorder : TraceRecorder) (type : UInt8) (gathered : Bytes) (position : Position)
    (gathering : Gathering type gathered position (recorder.connections id))
    (isNamed : (recorder.connections id).record.connectionId = id) (within : Within position (recorder.connections id)) :
    RecordersAlike (run.foldl (onMessage json) recorder)
      (inbound.foldl (onMessage json) (completed json recorder id position type (gathered ++ body))) := by
  induction rest generalizing recorder gathered with
  | last flags data message sent notFirst isLast =>
      rw [List.foldl_cons, List.foldl_nil, List.foldl_nil, sent_message json recorder id _ message sent,
        named_itself id _ isNamed]
      exact update_alike recorder id _ _
        (last_fragment json _ id flags type gathered data position message sent gathering notFirst isLast)
  | middle flags data body message run inbound sent notFirst notLast rest ih =>
      obtain ⟨more, alike⟩ := middle_fragment json (recorder.connections id) id flags type gathered data position
        message sent gathering notFirst notLast
      rw [List.foldl_cons, sent_message json recorder id _ message sent, named_itself id _ isNamed]
      have records : (onOutbound json (recorder.connections id) message).record.connectionId = id :=
        (congrArg (fun connection => connection.record.connectionId) alike).trans isNamed
      have still : Within position (onOutbound json (recorder.connections id) message) :=
        (congrArg (Within position) alike).mpr within
      have later := ih ⟨Function.update recorder.connections id (onOutbound json (recorder.connections id) message),
        recorder.caseConnection⟩ (gathered ++ data) (by simpa using more) (by simpa using records) (by simpa using still)
      rw [completed_update] at later
      have ahead := incoming_run_alike json inbound _ _ (rest_incoming id body run inbound rest)
        (update_alike recorder id _ _ (completed_alike json _ _ position type (gathered ++ data ++ body) alike))
      rw [List.append_assoc] at later ahead
      exact ⟨later.1.trans ahead.1, fun other => (later.2 other).trans (ahead.2 other)⟩
  | inbound body message run inbound incoming rest ih =>
      obtain ⟨added, isCase, traced⟩ := incoming_message json message incoming
      rw [List.foldl_cons, List.foldl_cons,
        incoming_completed json recorder message id position type _ incoming isNamed within]
      have kept : Gathering type gathered position ((onMessage json recorder message).connections id) ∧
          ((onMessage json recorder message).connections id).record.connectionId = id ∧
          Within position ((onMessage json recorder message).connections id) := by
        rw [traced]
        by_cases own : message.connectionId = id
        · rw [own]
          simp only [Function.update_self]
          rw [named_itself id _ isNamed]
          exact ⟨⟨gathering.type, gathering.data, gathering.position⟩, isNamed,
            received_within _ added position within⟩
        · simp only [Function.update_of_ne (Ne.symm own)]
          exact ⟨gathering, isNamed, within⟩
      exact ih _ gathered kept.1 kept.2.1 kept.2.2

-- The whole message at the place of its first fragment.
theorem fragmented_traced (recorder : TraceRecorder) (id : Nat) (type : UInt8) (body : Bytes)
    (run inbound : List TracedMessage) (step : InStep (recorder.connections id))
    (fragmented : Fragmented id type body run inbound) :
    RecordersAlike (run.foldl (onMessage json) recorder)
      (inbound.foldl (onMessage json) ⟨Function.update recorder.connections id (onCompleted json
        (named id (recorder.connections id)) (positionOf (recorder.connections id)) type body),
        recorder.caseConnection⟩) := by
  cases fragmented with
  | first flags data body message run inbound sent first notLast rest =>
      let opened := named id (recorder.connections id)
      obtain ⟨gathering, alike⟩ := first_fragment json opened id flags type data message sent first notLast
      have begun : Within (positionOf opened) opened := ⟨le_rfl, le_rfl, le_rfl, ge_of_eq step⟩
      have within : Within (positionOf opened) (onOutbound json opened message) :=
        (congrArg (Within (positionOf opened)) alike).mpr begun
      have isNamed : (onOutbound json opened message).record.connectionId = id :=
        congrArg (fun connection => connection.record.connectionId) alike
      rw [List.foldl_cons, sent_message json recorder id _ message sent]
      have later := rest_traced json id body run inbound rest
        ⟨Function.update recorder.connections id (onOutbound json opened message), recorder.caseConnection⟩ type data
        (positionOf opened) (by simpa using gathering) (by simpa using isNamed) (by simpa using within)
      rw [completed_update] at later
      have ahead := incoming_run_alike json inbound _ _ (rest_incoming id body run inbound rest)
        (update_alike recorder id _ _ (completed_alike json _ _ (positionOf opened) type (data ++ body) alike))
      exact ⟨later.1.trans ahead.1, fun other => (later.2 other).trans (ahead.2 other)⟩

def binaryMessage (plaintext : Bytes) : TracedMessage := ⟨1, false, .outbound, true, plaintext, 0, 0⟩

-- A stream/start in three fragments, a client/hello and a client/state between them.
def startFragments : List TracedMessage :=
  [binaryMessage (fragmentMessageId :: firstFragmentFlag :: jsonMessageId :: startText.take 10),
    sampleMessage false .inbound helloText,
    binaryMessage (fragmentMessageId :: 0 :: (startText.drop 10).take 10),
    sampleMessage false .inbound availableText,
    binaryMessage (fragmentMessageId :: lastFragmentFlag :: startText.drop 20)]

end Conformance.Adapters
