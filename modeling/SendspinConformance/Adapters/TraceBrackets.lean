import SendspinConformance.Adapters.TraceRecorder
import SendspinConformance.Protocol.GateWiden

set_option autoImplicit false

namespace Conformance.Adapters

open Python Protocol Base

-- The nearest stream/start entry at the end of a trace.
def nearestStart (trace : List AvailabilityEntry) : Option AvailabilityEntry :=
  trace.reverse.find? fun entry => entry.streamStart

def BracketOpen (trace : List AvailabilityEntry) : Prop :=
  ∃ opening, nearestStart trace = some opening ∧ opening.sent = false

-- Each `sent` closes the stream/start entry nearest before it, which is a `sending`.
def NeverNests (trace : List AvailabilityEntry) : Prop :=
  ∀ before entry after, trace = before ++ entry :: after → entry.streamStart = true → entry.sent = true →
    BracketOpen before

theorem nearest_start_append (first second : List AvailabilityEntry) :
    nearestStart (first ++ second) = (nearestStart second).or (nearestStart first) := by
  simp [nearestStart, List.find?_append]

theorem nearest_start_snoc (trace : List AvailabilityEntry) (entry : AvailabilityEntry) (start : entry.streamStart = true) :
    nearestStart (trace ++ [entry]) = some entry := by
  simp [nearestStart, start]

theorem never_nests_snoc (trace : List AvailabilityEntry) (entry : AvailabilityEntry) :
    NeverNests (trace ++ [entry]) ↔
      NeverNests trace ∧ (entry.streamStart = true → entry.sent = true → BracketOpen trace) := by
  apply Iff.intro
  · intro whole
    refine ⟨?_, whole trace entry [] rfl⟩
    intro before found after split
    exact whole before found (after ++ [entry]) (by simp [split])
  · intro parts before found after split
    rcases List.eq_nil_or_concat after with none | ⟨front, last, same⟩
    · subst none
      obtain ⟨sameFront, sameLast⟩ := List.append_inj' split rfl
      have sameEntry : entry = found := (List.cons.inj sameLast).1
      rw [← sameFront, ← sameEntry]
      exact parts.2
    · rw [List.concat_eq_append] at same
      subst same
      have regrouped : trace ++ [entry] = (before ++ found :: front) ++ [last] := by simp [split]
      exact parts.1 before found front (List.append_inj' regrouped rfl).1

theorem never_nests_state (trace : List AvailabilityEntry) (available : Option Bool) (nests : NeverNests trace) :
    NeverNests (trace ++ [stateEntry available]) :=
  (never_nests_snoc trace _).mpr ⟨nests, by simp [stateEntry]⟩

-- A `sending` put in anywhere is itself an opening for what follows it.
theorem never_nests_insert (place : Nat) (roles : List String) (trace : List AvailabilityEntry)
    (nests : NeverNests trace) : NeverNests (insertAt place (sendingEntry roles) trace) := by
  obtain ⟨front, back, rfl, inserted, _⟩ := insert_at_split place (sendingEntry roles) trace
  rw [inserted]
  intro before entry after split start sent
  rcases List.append_eq_append_iff.mp split with ⟨middle, sameBefore, sameBack⟩ | ⟨middle, sameFront, sameEntry⟩
  · cases middle with
    | nil =>
        have here : sendingEntry roles = entry := (List.cons.inj sameBack).1
        rw [← here] at sent
        simp [sendingEntry] at sent
    | cons opening rest =>
        obtain ⟨rfl, backSplit⟩ := List.cons.inj sameBack
        obtain ⟨found, nearest, isOpen⟩ := nests (front ++ rest) entry after (by simp [backSplit]) start sent
        rw [nearest_start_append] at nearest
        have whole : front ++ sendingEntry roles :: rest = (front ++ [sendingEntry roles]) ++ rest := by simp
        rw [sameBefore, whole]
        cases tail : nearestStart rest with
        | some last =>
            have same : last = found := by simpa [tail] using nearest
            subst same
            exact ⟨last, by rw [nearest_start_append, tail]; rfl, isOpen⟩
        | none =>
            refine ⟨sendingEntry roles, ?_, rfl⟩
            rw [nearest_start_append, tail, nearest_start_snoc front _ rfl]
            rfl
  · cases middle with
    | nil =>
        have here : sendingEntry roles = entry := by
          have heads := sameEntry
          simp only [List.nil_append, List.cons.injEq] at heads
          exact heads.1.symm
        rw [← here] at sent
        simp [sendingEntry] at sent
    | cons found rest =>
        obtain ⟨rfl, tailSplit⟩ := List.cons.inj sameEntry
        exact nests before entry (rest ++ back) (by simp [sameFront]) start sent

-- What a write completion may append: nothing, or one `sent` right where a bracket is open.
def WriteInOrder (connection : Connection) : Prop :=
  connection.unwrittenStreamStarts = [] ∨
    ((∃ roles, connection.unwrittenStreamStarts = [roles]) ∧ BracketOpen connection.record.availabilityTrace)

theorem never_nests_written (trace : List AvailabilityEntry) (starts : List (List String)) (nests : NeverNests trace) :
    NeverNests (trace ++ starts.map sentEntry) ↔ starts = [] ∨ ((∃ roles, starts = [roles]) ∧ BracketOpen trace) := by
  cases starts with
  | nil => simp [nests]
  | cons roles rest =>
      have first : trace ++ (roles :: rest).map sentEntry = (trace ++ [sentEntry roles]) ++ rest.map sentEntry := by simp
      cases rest with
      | nil =>
          rw [List.map_singleton, never_nests_snoc]
          simp [nests, sentEntry]
      | cons second later =>
          apply iff_of_false
          · intro whole
            obtain ⟨opening, nearest, isOpen⟩ :=
              whole (trace ++ [sentEntry roles]) (sentEntry second) (later.map sentEntry) (by simp) rfl rfl
            rw [nearest_start_snoc trace (sentEntry roles) rfl] at nearest
            rw [← Option.some.inj nearest] at isOpen
            simp [sentEntry] at isOpen
          · simp

variable (json : ArduinoJson)

-- What a message other than a write completion does to the trace.
def Grown (before after : List AvailabilityEntry) : Prop :=
  after = before ∨ (∃ available, after = before ++ [stateEntry available]) ∨
    ∃ place roles, after = insertAt place (sendingEntry roles) before

-- The same, of a message whose entries are put in at one place.
def GrownAt (place : Nat) (before after : List AvailabilityEntry) : Prop :=
  after = before ∨ (∃ available, place = before.length ∧ after = insertAt place (stateEntry available) before) ∨
    ∃ roles, after = insertAt place (sendingEntry roles) before

theorem grown_at_grown (place : Nat) (before after : List AvailabilityEntry) (grown : GrownAt place before after) :
    Grown before after := by
  rcases grown with same | ⟨available, rfl, stated⟩ | ⟨roles, inserted⟩
  · exact .inl same
  · exact .inr (.inl ⟨available, stated.trans (insert_at_length _ before)⟩)
  · exact .inr (.inr ⟨place, roles, inserted⟩)

theorem never_nests_grown (before after : List AvailabilityEntry) (grown : Grown before after)
    (nests : NeverNests before) : NeverNests after := by
  rcases grown with rfl | ⟨available, rfl⟩ | ⟨place, roles, rfl⟩
  · exact nests
  · exact never_nests_state before available nests
  · exact never_nests_insert place roles before nests

theorem metadata_written_trace (stampUs : Int) (unwritten : List Bytes) (record : ConnectionRecord) :
    (unwritten.foldl (metadataWritten json stampUs) record).availabilityTrace = record.availabilityTrace := by
  induction unwritten generalizing record with
  | nil => rfl
  | cons metadata rest ih => exact ih _

theorem on_written_trace (connection : Connection) (stampUs : Int) :
    (onWritten json connection stampUs).record.availabilityTrace =
      connection.record.availabilityTrace ++ connection.unwrittenStreamStarts.map sentEntry := by
  simp [onWritten, metadata_written_trace]

theorem on_client_command_trace (connection : Connection) (doc : Json) :
    (onClientCommand json connection doc).record.availabilityTrace = connection.record.availabilityTrace := by
  simp only [onClientCommand]
  split <;> rfl

theorem on_group_update_trace (connection : Connection) (text : Bytes) :
    (onGroupUpdate connection text).record.availabilityTrace = connection.record.availabilityTrace := by
  simp only [onGroupUpdate]
  split <;> rfl

theorem on_inbound_trace (connection : Connection) (binary : Bool) (messageId : UInt8) (plaintext : Bytes) :
    GrownAt connection.record.availabilityTrace.length connection.record.availabilityTrace
      (onInbound json connection binary messageId plaintext).1.record.availabilityTrace := by
  simp only [onInbound]
  split
  · exact .inl rfl
  · split
    · exact .inl rfl
    · split
      · exact .inr (.inl ⟨_, rfl, (insert_at_length _ _).symm⟩)
      · split
        · exact .inl rfl
        · split
          · exact .inl (on_client_command_trace json _ _)
          · exact .inl rfl

theorem on_outbound_json_trace (connection : Connection) (text : Bytes) (position : Position) (binary : Bool) :
    GrownAt position.availability connection.record.availabilityTrace
      (onOutboundJson json connection text position binary).record.availabilityTrace := by
  simp only [onOutboundJson]
  generalize (if (messageType json text == "server/time") = true then _ else _ : TimeEntry) = entry
  split
  · exact .inl rfl
  · split
    · exact .inl (on_group_update_trace _ _)
    · split
      · exact .inr (.inr ⟨_, rfl⟩)
      · split
        · exact .inl rfl
        · split <;> exact .inl rfl

theorem transfer_written_record (connection : Connection) (transfer : SentArtwork) (totalSize : Nat) :
    (transferWritten connection transfer totalSize).record = connection.record := by
  by_cases complete : transfer.bytes.length ≥ totalSize <;> simp [transferWritten, complete]

theorem on_outbound_artwork_record (connection : Connection) (plaintext : Bytes) :
    (onOutboundArtwork connection plaintext).record = connection.record := by
  match plaintext with
  | [] => rfl
  | [_] => rfl
  | id :: flags :: data =>
      simp only [onOutboundArtwork]
      split
      · split <;> rfl
      · split
        · split
          · rfl
          · rw [transfer_written_record]
        · split
          · split
            · rw [transfer_written_record]
            · rfl
          · rfl

theorem on_outbound_frame_trace (connection : Connection) (message : TracedMessage) (id : UInt8) :
    (onOutboundFrame connection message id).record.availabilityTrace = connection.record.availabilityTrace := by
  have transferred : ∀ seen : Connection, (if firstArtworkMessageId ≤ id && id ≤ lastArtworkMessageId then
      onOutboundArtwork seen message.plaintext else seen).record = seen.record := by
    intro seen
    split
    · exact on_outbound_artwork_record seen message.plaintext
    · rfl
  have framed := congrArg ConnectionRecord.availabilityTrace (transferred (addEvent connection ⟨false, true, id, ""⟩))
  refine Eq.trans ?_ framed
  simp only [onOutboundFrame]
  generalize (if (firstArtworkMessageId ≤ id && id ≤ lastArtworkMessageId) = true then _ else _ : Connection) = sent
  split <;> split <;> rfl

theorem gather_fragment_record (connection : Connection) (flags : UInt8) (rest : Bytes) :
    (gatherFragment connection flags rest).record = connection.record := by
  cases rest with
  | nil => rfl
  | cons type data =>
      simp only [gatherFragment]
      split <;> rfl

theorem on_fragmented_binary_trace (connection : Connection) (messageId : UInt8) (data : Bytes) :
    (onFragmentedBinary connection messageId data).record.availabilityTrace = connection.record.availabilityTrace := by
  simp only [onFragmentedBinary]
  split <;> split <;> rfl

theorem on_outbound_fragment_trace (connection : Connection) (plaintext : Bytes) (flags : UInt8) (rest : Bytes) :
    GrownAt (gatherFragment connection flags rest).fragmentPosition.availability connection.record.availabilityTrace
      (onOutboundFragment json connection plaintext flags rest).record.availabilityTrace := by
  rw [← gather_fragment_record connection flags rest]
  simp only [onOutboundFragment]
  generalize gatherFragment connection flags rest = gathered
  have framedTrace : (if gathered.fragmentType ≠ some jsonMessageId then addSentFrame gathered plaintext none
      else gathered).record.availabilityTrace = gathered.record.availabilityTrace := by
    split <;> rfl
  have framedPosition : (if gathered.fragmentType ≠ some jsonMessageId then addSentFrame gathered plaintext none
      else gathered).fragmentPosition = gathered.fragmentPosition := by
    split <;> rfl
  rw [← framedTrace, ← framedPosition]
  generalize (if gathered.fragmentType ≠ some jsonMessageId then _ else _ : Connection) = framed
  cases gathered.fragmentType with
  | none => exact .inl rfl
  | some messageId =>
      dsimp only
      by_cases last : flags &&& lastFragmentFlag = 0
      · rw [if_pos last]
        exact .inl rfl
      · by_cases body : messageId = jsonMessageId
        · rw [if_neg last, if_pos body]
          exact on_outbound_json_trace json _ _ _ _
        · rw [if_neg last, if_neg body]
          exact .inl (on_fragmented_binary_trace _ _ _)

-- Where a message puts its entries in: where its first frame found the lists to end.
def insertionPlace (connection : Connection) (message : TracedMessage) : Position :=
  match message.direction, message.binary, message.plaintext with
  | .outbound, true, id :: flags :: rest =>
      if id = fragmentMessageId then (gatherFragment connection flags rest).fragmentPosition else positionOf connection
  | _, _, _ => positionOf connection

theorem insertion_place_inbound (connection : Connection) (message : TracedMessage)
    (inbound : message.direction = .inbound) : insertionPlace connection message = positionOf connection := by
  rw [insertionPlace, inbound]

theorem insertion_place_text (connection : Connection) (message : TracedMessage) (text : message.binary = false) :
    insertionPlace connection message = positionOf connection := by
  rw [insertionPlace, text]
  cases message.direction <;> rfl

theorem insertion_place_frame (connection : Connection) (message : TracedMessage) (id : UInt8) (body : Bytes)
    (plaintext : message.plaintext = id :: body) (whole : id ≠ fragmentMessageId ∨ body = []) :
    insertionPlace connection message = positionOf connection := by
  rw [insertionPlace, plaintext]
  cases message.direction with
  | inbound => rfl
  | outbound =>
      cases message.binary with
      | false => rfl
      | true =>
          cases body with
          | nil => rfl
          | cons flags rest =>
              cases whole with
              | inl other => exact if_neg other
              | inr empty => exact absurd empty (List.cons_ne_nil flags rest)

theorem insertion_place_fragment (connection : Connection) (message : TracedMessage) (flags : UInt8) (rest : Bytes)
    (outbound : message.direction = .outbound) (binary : message.binary = true)
    (plaintext : message.plaintext = fragmentMessageId :: flags :: rest) :
    insertionPlace connection message = (gatherFragment connection flags rest).fragmentPosition := by
  rw [insertionPlace, outbound, binary, plaintext]
  exact if_pos rfl

theorem on_outbound_trace (connection : Connection) (message : TracedMessage) (outbound : message.direction = .outbound) :
    GrownAt (insertionPlace connection message).availability connection.record.availabilityTrace
      (onOutbound json connection message).record.availabilityTrace := by
  cases isBinary : message.binary with
  | false =>
      rw [onOutbound, isBinary, Bool.not_false, if_pos rfl, insertion_place_text connection message isBinary]
      exact on_outbound_json_trace json _ _ _ _
  | true =>
      rw [onOutbound, isBinary, Bool.not_true, if_neg Bool.false_ne_true]
      match found : message.plaintext with
      | [] => exact .inl rfl
      | id :: body =>
          dsimp only
          by_cases isJson : id = jsonMessageId
          · have whole : id ≠ fragmentMessageId ∨ body = [] := .inl (by rw [isJson]; decide)
            rw [if_pos isJson, insertion_place_frame connection message id body found whole]
            exact on_outbound_json_trace json _ _ _ _
          · rw [if_neg isJson]
            cases body with
            | nil => exact .inl (on_outbound_frame_trace _ _ _)
            | cons flags rest =>
                dsimp only
                by_cases isFragment : id = fragmentMessageId
                · subst isFragment
                  rw [if_pos rfl, insertion_place_fragment connection message flags rest outbound isBinary found]
                  exact on_outbound_fragment_trace json _ _ _ _
                · rw [if_neg isFragment]
                  exact .inl (on_outbound_frame_trace _ _ _)

def NeverNestsAnywhere (recorder : TraceRecorder) : Prop :=
  ∀ id, NeverNests (recorder.connections id).record.availabilityTrace

-- A message changes its own connection, as the handler for its kind does.
theorem on_message_other (recorder : TraceRecorder) (message : TracedMessage) (id : Nat) (other : id ≠ message.connectionId) :
    (onMessage json recorder message).connections id = recorder.connections id := by
  simp only [onMessage]
  split
  · exact Function.update_of_ne other _ _
  · split <;> exact Function.update_of_ne other _ _

theorem on_message_written (recorder : TraceRecorder) (message : TracedMessage) (written : message.written = true) :
    ((onMessage json recorder message).connections message.connectionId).record.availabilityTrace =
      (recorder.connections message.connectionId).record.availabilityTrace ++
        (recorder.connections message.connectionId).unwrittenStreamStarts.map sentEntry := by
  simp only [onMessage, if_pos written, Function.update_self, on_written_trace]

-- The connection a message is traced on, under the message's number for it.
def named (id : Nat) (connection : Connection) : Connection :=
  { connection with record := { connection.record with connectionId := id } }

theorem insertion_place_named (id : Nat) (connection : Connection) (message : TracedMessage) :
    insertionPlace (named id connection) message = insertionPlace connection message := by
  have gathered (flags : UInt8) (rest : Bytes) : (gatherFragment (named id connection) flags rest).fragmentPosition =
      (gatherFragment connection flags rest).fragmentPosition := by
    cases rest with
    | nil => rfl
    | cons type data =>
        simp only [gatherFragment]
        split <;> rfl
  simp only [insertionPlace, gathered]
  rfl

theorem on_message_grown_at (recorder : TraceRecorder) (message : TracedMessage) (other : message.written ≠ true) :
    GrownAt (insertionPlace (recorder.connections message.connectionId) message).availability
      (recorder.connections message.connectionId).record.availabilityTrace
      ((onMessage json recorder message).connections message.connectionId).record.availabilityTrace := by
  simp only [onMessage, if_neg other]
  cases isDirection : message.direction with
  | inbound =>
      dsimp only
      rw [Function.update_self, insertion_place_inbound _ message isDirection]
      exact on_inbound_trace json _ _ _ _
  | outbound =>
      dsimp only
      rw [Function.update_self, ← insertion_place_named message.connectionId]
      exact on_outbound_trace json (named message.connectionId _) message isDirection

theorem on_message_grown (recorder : TraceRecorder) (message : TracedMessage) (other : message.written ≠ true) :
    Grown (recorder.connections message.connectionId).record.availabilityTrace
      ((onMessage json recorder message).connections message.connectionId).record.availabilityTrace :=
  grown_at_grown _ _ _ (on_message_grown_at json recorder message other)

def MeetsWriteOrder (recorder : TraceRecorder) (message : TracedMessage) : Prop :=
  message.written = true → WriteInOrder (recorder.connections message.connectionId)

-- A message keeps every bracket in order exactly when it is no write completion out of order.
theorem on_message_nests (recorder : TraceRecorder) (message : TracedMessage) (nests : NeverNestsAnywhere recorder) :
    NeverNestsAnywhere (onMessage json recorder message) ↔ MeetsWriteOrder recorder message := by
  have others : NeverNestsAnywhere (onMessage json recorder message) ↔
      NeverNests ((onMessage json recorder message).connections message.connectionId).record.availabilityTrace := by
    apply Iff.intro
    · intro everywhere
      exact everywhere message.connectionId
    · intro own id
      by_cases same : id = message.connectionId
      · rw [same]
        exact own
      · rw [on_message_other json recorder message id same]
        exact nests id
  rw [others, MeetsWriteOrder]
  by_cases written : message.written = true
  · rw [on_message_written json recorder message written, never_nests_written _ _ (nests message.connectionId)]
    simp [written, WriteInOrder]
  · have kept := never_nests_grown _ _ (on_message_grown json recorder message written) (nests message.connectionId)
    exact ⟨fun _ isWritten => absurd isWritten written, fun _ => kept⟩

def recorded (messages : List TracedMessage) : TraceRecorder := messages.foldl (onMessage json) {}

theorem recorded_snoc (messages : List TracedMessage) (message : TracedMessage) :
    recorded json (messages ++ [message]) = onMessage json (recorded json messages) message := by
  simp [recorded]

theorem never_nests_recorded (messages : List TracedMessage) :
    (∀ seen, seen <+: messages → NeverNestsAnywhere (recorded json seen)) ↔
      ∀ seen message, seen ++ [message] <+: messages → MeetsWriteOrder (recorded json seen) message := by
  apply Iff.intro
  · intro always seen message reached
    have before := always seen ((List.prefix_append seen [message]).trans reached)
    have after := always (seen ++ [message]) reached
    rw [recorded_snoc] at after
    exact (on_message_nests json _ message before).mp after
  · intro ordered seen
    induction seen using List.reverseRecOn with
    | nil =>
        intro _ id before entry after split
        simp [recorded] at split
    | append_singleton seen message ih =>
        intro reached
        have before := ih ((List.prefix_append seen [message]).trans reached)
        rw [recorded_snoc]
        exact (on_message_nests json _ message before).mpr (ordered seen message reached)

-- The trace as the gate reads it.
def gateView (entry : AvailabilityEntry) : GateEntry :=
  if entry.streamStart then (if entry.sent then .sent else .sending, .arr (entry.roles.map .str))
  else (.clientState, match entry.available with | some value => .bool value | none => .null)

theorem gate_entry_item (entry : AvailabilityEntry) : gateEntry (availabilityItem entry) = some (gateView entry) := by
  cases start : entry.streamStart with
  | false =>
      cases available : entry.available <;>
        simp [availabilityItem, gateView, gateEntry, start, available, getKey, List.lookup_cons, Json.eqStr]
  | true =>
      cases sent : entry.sent <;>
        simp [availabilityItem, gateView, gateEntry, start, sent, getKey, List.lookup_cons, Json.eqStr]

theorem gate_entries_items (trace : List AvailabilityEntry) :
    gateEntries (.arr (trace.map availabilityItem)) = some (trace.map gateView) := by
  rw [gateEntries]
  induction trace with
  | nil => rfl
  | cons entry rest ih => simp [List.mapM_cons, gate_entry_item, ih]

theorem gate_view_sent (entry : AvailabilityEntry) (roles : Json) (view : gateView entry = (.sent, roles)) :
    entry.streamStart = true ∧ entry.sent = true := by
  cases start : entry.streamStart <;> cases sent : entry.sent <;> simp [gateView, start, sent] at view ⊢

theorem bracket_open_opened (trace : List AvailabilityEntry) (isOpen : BracketOpen trace) :
    ∃ pre between, Opened (trace.map gateView) pre between := by
  obtain ⟨opening, nearest, notSent⟩ := isOpen
  obtain ⟨start, before, after, split, noneBefore⟩ := List.find?_eq_some_iff_append.mp nearest
  have whole : trace = after.reverse ++ opening :: before.reverse := by
    have reversed := congrArg List.reverse split
    simpa using reversed
  have openingView : gateView opening = (.sending, .arr (opening.roles.map .str)) := by
    simp [gateView, show opening.streamStart = true from start, notSent]
  refine ⟨after.reverse.map gateView, before.reverse.map gateView, .arr (opening.roles.map .str), ?_, ?_⟩
  · rw [whole, List.map_append, List.map_cons, openingView]
  · intro entry member
    obtain ⟨state, inside, rfl⟩ := List.mem_map.mp member
    have notStart : state.streamStart = false := by simpa using noneBefore state (List.mem_reverse.mp inside)
    simp [gateView, notStart]

theorem gap_names_no_party (reason : String) (gap : hasPrefix harnessGap reason = true) :
    hasPrefix "Server sent" reason = false ∧ hasPrefix "Client sent" reason = false := by
  obtain ⟨rest, split⟩ := (has_prefix_iff _ _).mp gap
  rw [hasPrefix, hasPrefix, ← split]
  exact ⟨rfl, rfl⟩

theorem violation_not_unrecorded [UnicodeData] (latest : Option Json) (roles : Json) :
    gateViolationReason latest roles ≠ gateUnrecorded := by
  intro same
  obtain ⟨notServer, notClient⟩ := gap_names_no_party gateUnrecorded gate_gap_reasons.1
  by_cases server : latest = none ∨ latest = some (.bool false)
  · have starts := violation_reason_server latest roles server
    rw [same, notServer] at starts
    exact Bool.false_ne_true starts
  · have starts := violation_reason_client latest roles (fun none => server (.inl none)) fun unavailable =>
      server (.inr unavailable)
    rw [same, notClient] at starts
    exact Bool.false_ne_true starts

theorem no_start_not_unrecorded : gateNoStart ≠ gateUnrecorded := by
  intro same
  have sizes := congrArg String.utf8ByteSize same
  simp only [gateNoStart, gateUnrecorded, String.utf8ByteSize_append] at sizes
  revert sizes
  decide

theorem never_nests_readable [UnicodeData] (trace : List AvailabilityEntry) (nests : NeverNests trace) :
    gateVerdict (trace.map gateView) ≠ some gateUnrecorded := by
  cases ran : (trace.map gateView).foldlM gateStep gateStart with
  | ok final =>
      by_cases zero : final.streamStarts = 0
      · simp [gateVerdict, ran, zero, no_start_not_unrecorded]
      · simp [gateVerdict, ran, zero]
  | error reason =>
      obtain ⟨before, entry, after, last, split, inv, stopped⟩ :=
        run_stopped gateStep GateInv gate_step_inv _ [] gateStart reason gate_inv_start ran
      obtain ⟨roles, rfl, offence⟩ := gate_step_stop before last entry reason inv stopped
      rcases offence with ⟨_, unopened⟩ | ⟨pre, between, _, _, named⟩
      · obtain ⟨front, tail, sameTrace, frontView, tailView⟩ := List.map_eq_append_iff.mp split
        obtain ⟨sent, rest, sameTail, sentView, _⟩ := List.map_eq_cons_iff.mp tailView
        obtain ⟨start, isSent⟩ := gate_view_sent sent roles sentView
        obtain ⟨pre, between, opened⟩ :=
          bracket_open_opened front (nests front sent rest (by rw [sameTrace, sameTail]) start isSent)
        exact absurd (frontView ▸ opened) (unopened pre between)
      · simp [gateVerdict, ran, named, violation_not_unrecorded]

-- What the summary reports of the case connection, as the gate judges it.
def Readable [UnicodeData] (recorder : TraceRecorder) : Prop :=
  ∀ record, snapshot recorder = some record →
    streamStartGateViolation (addConnectionEvidence json (some record)) ≠ some gateUnrecorded

theorem summary_gate [UnicodeData] (record : ConnectionRecord) :
    streamStartGateViolation (addConnectionEvidence json (some record)) =
      gateVerdict (record.availabilityTrace.map gateView) := by
  have trace : getKey (addConnectionEvidence json (some record)) "availability_trace" =
      .arr (record.availabilityTrace.map availabilityItem) := by
    simp [addConnectionEvidence, getKey, List.lookup_cons]
  rw [streamStartGateViolation, trace, gate_entries_items]

theorem never_nests_summary [UnicodeData] (recorder : TraceRecorder) (nests : NeverNestsAnywhere recorder) :
    Readable json recorder := by
  intro record taken
  obtain ⟨id, _, rfl⟩ := Option.map_eq_some_iff.mp taken
  rw [summary_gate]
  exact never_nests_readable _ (nests id)

-- Brackets stay in order, and the judge can read them, exactly in the runs whose write
-- completions each cover no stream/start, or one whose `sending` is the last recorded.
theorem recorded_brackets_judged [UnicodeData] (messages : List TracedMessage) :
    (∀ seen, seen <+: messages → NeverNestsAnywhere (recorded json seen) ∧ Readable json (recorded json seen)) ↔
      ∀ seen message, seen ++ [message] <+: messages → MeetsWriteOrder (recorded json seen) message := by
  rw [← never_nests_recorded json messages]
  apply Iff.intro
  · intro both seen reached
    exact (both seen reached).1
  · intro nests seen reached
    exact ⟨nests seen reached, never_nests_summary json _ (nests seen reached)⟩

def asciiBytes (text : String) : Bytes := text.toList.map fun char => UInt8.ofNat char.toNat

def helloText : Bytes := asciiBytes "\x7b\"type\":\"client/hello\"\x7d"

def availableText : Bytes := asciiBytes "\x7b\"type\":\"client/state\",\"payload\":\x7b\"available\":true\x7d\x7d"

def startText : Bytes := asciiBytes "\x7b\"type\":\"stream/start\",\"payload\":\x7b\"player\":\x7b\x7d\x7d\x7d"

-- The JSON library on three texts; it reports an error on any other.
def sampleJson : ArduinoJson where
  deserializeJson := fun text =>
    if text = helloText then (false, .obj [("type", .str "client/hello")])
    else if text = availableText then
      (false, .obj [("type", .str "client/state"), ("payload", .obj [("available", .bool true)])])
    else if text = startText then
      (false, .obj [("type", .str "stream/start"), ("payload", .obj [("player", .obj [])])])
    else (true, .null)
  serializeJson := fun _ => asciiBytes "\x7b\x7d"

def sampleMessage (written : Bool) (direction : TraceDirection) (plaintext : Bytes) : TracedMessage :=
  ⟨1, written, direction, false, plaintext, 0, 0⟩

-- Two stream/start messages traced before the write completion that covers them both.
def twoStarts : List TracedMessage :=
  [sampleMessage false .inbound helloText, sampleMessage false .inbound availableText,
    sampleMessage false .outbound startText, sampleMessage false .outbound startText,
    sampleMessage true .outbound []]

theorem two_starts_nest :
    ((recorded sampleJson twoStarts).connections 1).record.availabilityTrace =
        [stateEntry (some true), sendingEntry ["player"], sendingEntry ["player"], sentEntry ["player"],
          sentEntry ["player"]] ∧
      ¬ NeverNests ((recorded sampleJson twoStarts).connections 1).record.availabilityTrace ∧
      ¬ @Readable sampleJson noUnicode (recorded sampleJson twoStarts) := by
  have trace : ((recorded sampleJson twoStarts).connections 1).record.availabilityTrace =
      [stateEntry (some true), sendingEntry ["player"], sendingEntry ["player"], sentEntry ["player"],
        sentEntry ["player"]] := by decide +kernel
  refine ⟨trace, ?_, ?_⟩
  · intro nests
    rw [trace] at nests
    obtain ⟨opening, nearest, isOpen⟩ := nests
      [stateEntry (some true), sendingEntry ["player"], sendingEntry ["player"], sentEntry ["player"]]
      (sentEntry ["player"]) [] rfl rfl rfl
    rw [← Option.some.inj nearest] at isOpen
    exact absurd isOpen (Ne.symm Bool.false_ne_true)
  · intro readable
    apply readable _ rfl
    rw [@summary_gate sampleJson noUnicode]
    change @gateVerdict noUnicode
      (((recorded sampleJson twoStarts).connections 1).record.availabilityTrace.map gateView) = _
    rw [trace]
    rfl

end Conformance.Adapters
