import SendspinConformance.Adapters.ExchangeHistory

set_option autoImplicit false

namespace Conformance.Adapters

open Python Protocol Base

def withMark (exchange : List ExchangeEntry) (beganAt : Nat) : List ExchangeEntry :=
  if beganAt = 0 || otherSentBeside exchange beganAt then exchange else insertAt beganAt .otherSent exchange

def afterReturn (call : SendCall) (exchange : List ExchangeEntry) : List ExchangeEntry :=
  if typeIs call.message "server/time" then exchange ++ [.serverTime call.message] else withMark exchange call.beganAt

structure SameSend (exchanges : Nat → List ExchangeEntry) (send : Send) (call : SendCall) : Prop where
  socket : call.socket = send.socket
  serverTime : typeIs call.message "server/time" = send.serverTime
  message : send.serverTime = true → call.message = send.message
  status : call.status = send.status
  bound : call.beganAt ≤ (exchanges call.socket).length
  placed : clientTimes ((exchanges call.socket).take call.beganAt) <+: send.receivedBefore
  recorded : call.beganAt ≠ 0 ↔ send.recordedBefore = true

-- What the recorder's state says about the traffic so far, on every socket.
structure Tracks (history : History) (recorder : ControlMessageRecorder) : Prop where
  each : ∀ socket, EachOnce history socket (exchangeOf recorder socket)
  headed : ∀ socket rest, exchangeOf recorder socket ≠ .otherSent :: rest
  marks : ∀ socket, MarksReceived history socket (exchangeOf recorder socket)
  length : history.sends.length = recorder.sends.length
  sends : ∀ (place : Nat) send call, history.sends[place]? = some send → recorder.sends[place]? = some call →
    SameSend (exchangeOf recorder) send call

theorem type_is_iff (message : Fields) (name : String) : typeIs message name = true ↔ getKey message "type" = .str name :=
  Json.eq_str_iff _ _

theorem exchange_of_set (recorder : ControlMessageRecorder) (socket other : Nat) (exchange : List ExchangeEntry) :
    exchangeOf (setExchange recorder socket exchange) other =
      if other = socket then exchange else exchangeOf recorder other := by
  by_cases same : other = socket
  · subst same
    simp [exchangeOf, setExchange]
  · simp [exchangeOf, setExchange, same]

theorem exchange_of_opening (recorder : ControlMessageRecorder) (socket other : Nat) (message : Fields) :
    exchangeOf (recordOpening recorder socket message) other = exchangeOf recorder other := by
  rw [recordOpening]
  split
  · rfl
  · split <;> rfl

theorem exchange_of_other_sent (recorder : ControlMessageRecorder) (socket beganAt other : Nat) :
    exchangeOf (recordOtherSent recorder socket beganAt) other =
      if other = socket then withMark (exchangeOf recorder socket) beganAt else exchangeOf recorder other := by
  by_cases skipped : (beganAt = 0 || otherSentBeside (exchangeOf recorder socket) beganAt) = true
  · rw [recordOtherSent, if_pos skipped, withMark, if_pos skipped]
    by_cases same : other = socket
    · rw [if_pos same, same]
    · rw [if_neg same]
  · rw [recordOtherSent, if_neg skipped, withMark, if_neg skipped, exchange_of_set]

theorem exchange_of_returned (recorder : ControlMessageRecorder) (call : SendCall) (other : Nat) :
    exchangeOf (sendReturned recorder call) other =
      if other = call.socket then afterReturn call (exchangeOf recorder call.socket) else exchangeOf recorder other := by
  by_cases start : typeIs call.message "stream/start" = true
  · have notServer : typeIs call.message "server/time" = false := by
      rw [Bool.eq_false_iff]
      intro server
      have same := ((type_is_iff _ _).mp start).symm.trans ((type_is_iff _ _).mp server)
      simp at same
    rw [sendReturned, if_pos start, exchange_of_other_sent, afterReturn, notServer]
    rfl
  · by_cases server : typeIs call.message "server/time" = true
    · rw [sendReturned, if_neg start, afterReturn, if_pos server]
      simp only [if_pos server, exchange_of_set, exchange_of_opening]
    · rw [sendReturned, if_neg start, afterReturn, if_neg server]
      simp only [if_neg server, exchange_of_other_sent, exchange_of_opening]

theorem exchange_empty (history : History) (recorder : ControlMessageRecorder) (tracks : Tracks history recorder)
    (socket : Nat) :
    exchangeOf recorder socket ≠ [] ↔ history.received socket ≠ [] ∨ history.answered socket ≠ [] := by
  obtain ⟨clients, servers⟩ := tracks.each socket
  rw [← clients, ← servers]
  cases same : exchangeOf recorder socket with
  | nil => simp [clientTimes, serverTimes]
  | cons entry rest =>
      cases entry with
      | clientTime message => simp [clientTimes]
      | serverTime message => simp [serverTimes]
      | otherSent => exact absurd same (tracks.headed socket rest)

theorem tracks_start : Tracks {} {} where
  each := by
    intro socket
    exact ⟨rfl, rfl⟩
  headed := by
    intro socket rest same
    simp [exchangeOf] at same
  marks := by
    intro socket before after split
    simp [exchangeOf] at split
  length := rfl
  sends := by simp

variable (loads : String → Option Json)

-- The recorder parses a body whenever it is a server/time named plainly.
theorem sent_server_time (data : String) (message : Fields) (sent : sentMessage loads data = some message)
    (named : isServerTime loads data = true → contains (quoted "server/time") data = true) :
    typeIs message "server/time" = isServerTime loads data ∧
      (isServerTime loads data = true → message = (bodyOf loads data).getD []) := by
  by_cases parsed : (recordedSentTypes.any fun name => contains (quoted name) data) = true
  · rw [sentMessage, if_pos parsed] at sent
    have body : bodyOf loads data = some message := sent
    simp [isServerTime, body]
  · have notServer : isServerTime loads data = false := by
      rw [Bool.eq_false_iff]
      intro server
      have found : (recordedSentTypes.any fun name => contains (quoted name) data) = true :=
        List.any_eq_true.mpr ⟨"server/time", by simp [recordedSentTypes], named server⟩
      exact parsed found
    rw [sentMessage, if_neg parsed] at sent
    have empty : message = [] := (Option.some.inj sent).symm
    rw [notServer, empty]
    exact ⟨rfl, by simp⟩

theorem send_begins_parts (recorder : ControlMessageRecorder) (socket : Nat) (data : String) (message : Fields)
    (sent : sentMessage loads data = some message) :
    (∀ other, exchangeOf (sendBegins loads recorder socket data) other = exchangeOf recorder other) ∧
      (sendBegins loads recorder socket data).sends =
        recorder.sends ++ [⟨socket, message, (exchangeOf recorder socket).length, .inFlight⟩] := by
  rw [sendBegins, sent]
  by_cases start : typeIs message "stream/start" = true
  · simp only [if_pos start]
    exact ⟨fun other => rfl, rfl⟩
  · simp only [if_neg start]
    exact ⟨fun other => rfl, by trivial⟩

theorem getElem_snoc {α : Type} (items : List α) (item : α) (place : Nat) (found : α)
    (got : (items ++ [item])[place]? = some found) :
    items[place]? = some found ∨ (place = items.length ∧ found = item) := by
  by_cases inside : place < items.length
  · rw [List.getElem?_append_left inside] at got
    exact .inl got
  · have bound : place < (items ++ [item]).length := (List.getElem?_eq_some_iff.mp got).1
    rw [List.length_append, List.length_singleton] at bound
    have last : place = items.length := by omega
    rw [last, List.getElem?_concat_length] at got
    exact .inr ⟨last, (Option.some.inj got).symm⟩

theorem marks_received_more (history later : History) (socket : Nat) (exchange : List ExchangeEntry)
    (kept : ∀ send, OtherReturned history send → OtherReturned later send)
    (marks : MarksReceived history socket exchange) : MarksReceived later socket exchange := by
  intro before after split
  obtain ⟨send, returned, same, received⟩ := marks before after split
  exact ⟨send, kept send returned, same, received⟩

theorem tracks_send_begins (history : History) (recorder : ControlMessageRecorder) (socket : Nat) (data : String)
    (named : NamedPlainly loads (.sendBegins socket data)) (tracks : Tracks history recorder) :
    Tracks (onTraffic loads history (.sendBegins socket data)) (onEvent loads recorder (.sendBegins socket data)) := by
  cases sent : sentMessage loads data with
  | none =>
      have sameHistory : onTraffic loads history (.sendBegins socket data) = history := by simp [onTraffic, sent]
      have sameRecorder : onEvent loads recorder (.sendBegins socket data) = recorder := by
        simp [onEvent, sendBegins, sent]
      rw [sameHistory, sameRecorder]
      exact tracks
  | some message =>
      obtain ⟨sameExchange, moreSends⟩ := send_begins_parts loads recorder socket data message sent
      obtain ⟨sameType, sameMessage⟩ := sent_server_time loads data message sent named
      have begun : onTraffic loads history (.sendBegins socket data) =
          { history with sends := history.sends ++ [historySend loads history socket data] } := by
        simp [onTraffic, sent]
      have sameFunction : exchangeOf (sendBegins loads recorder socket data) = exchangeOf recorder :=
        funext sameExchange
      rw [begun]
      change Tracks _ (sendBegins loads recorder socket data)
      exact {
        each := by
          intro other
          rw [sameExchange]
          exact tracks.each other
        headed := by
          intro other
          rw [sameExchange]
          exact tracks.headed other
        marks := by
          intro other
          rw [sameExchange]
          refine marks_received_more history _ other _ ?_ (tracks.marks other)
          intro send returned
          exact ⟨List.mem_append_left _ returned.1, returned.2⟩
        length := by simp [moreSends, tracks.length]
        sends := by
          intro place send call inHistory inRecorder
          rw [sameFunction]
          rw [moreSends] at inRecorder
          rcases getElem_snoc _ _ _ _ inHistory with old | ⟨last, rfl⟩
          · rcases getElem_snoc _ _ _ _ inRecorder with oldCall | ⟨lastCall, _⟩
            · exact tracks.sends place send call old oldCall
            · have bound := (List.getElem?_eq_some_iff.mp old).1
              rw [lastCall, tracks.length] at bound
              exact absurd bound (Nat.lt_irrefl _)
          · rcases getElem_snoc _ _ _ _ inRecorder with oldCall | ⟨_, rfl⟩
            · have bound := (List.getElem?_eq_some_iff.mp oldCall).1
              rw [last, tracks.length] at bound
              exact absurd bound (Nat.lt_irrefl _)
            · exact {
                socket := rfl
                serverTime := sameType
                message := sameMessage
                status := rfl
                bound := Nat.le_refl _
                placed := by
                  rw [List.take_length, (tracks.each socket).1]
                  exact List.prefix_refl _
                recorded := by
                  have recorded := exchange_empty history recorder tracks socket
                  simp only [historySend, Bool.or_eq_true, Bool.not_eq_true', List.isEmpty_eq_false_iff]
                  rw [← recorded, ne_eq, List.length_eq_zero_iff] } }

theorem body_of_object (data : String) (message : Fields) :
    bodyOf loads data = some message ↔ loads data = some (.obj message) := by
  simp [bodyOf, Option.bind_eq_some_iff, Json.as_obj_some]

-- Text received leaves the exchange, or adds the client/time it is.
theorem observe_text_parts (recorder : ControlMessageRecorder) (socket : Nat) (data : String) :
    (observeText loads recorder socket data).sends = recorder.sends ∧
      ∀ other, exchangeOf (observeText loads recorder socket data) other =
        match bodyOf loads data with
        | some message =>
            if typeIs message "client/time" ∧ other = socket then exchangeOf recorder other ++ [.clientTime message]
            else exchangeOf recorder other
        | none => exchangeOf recorder other := by
  have quiet : ∀ other, exchangeOf (setExchange recorder socket (exchangeOf recorder socket)) other =
      exchangeOf recorder other := by
    intro other
    rw [exchange_of_set]
    split
    · next same => rw [same]
    · rfl
  cases body : bodyOf loads data with
  | none =>
      have same : observeText loads recorder socket data =
          setExchange recorder socket (exchangeOf recorder socket) := by
        rw [observeText]
        cases parsed : loads data with
        | none => rfl
        | some value =>
            cases value with
            | obj message => simp [bodyOf, parsed, Json.asObj] at body
            | _ => rfl
      rw [same]
      exact ⟨rfl, quiet⟩
  | some message =>
      have parsed := (body_of_object loads data message).mp body
      by_cases state : typeIs message "client/state" = true
      · have notTime : typeIs message "client/time" = false := by
          rw [Bool.eq_false_iff]
          intro time
          have same := ((type_is_iff _ _).mp state).symm.trans ((type_is_iff _ _).mp time)
          simp at same
        simp only [observeText, parsed, if_pos state, notTime]
        exact ⟨rfl, quiet⟩
      · by_cases time : typeIs message "client/time" = true
        · simp only [observeText, parsed, if_neg state, if_pos time]
          refine ⟨rfl, ?_⟩
          intro other
          rw [exchange_of_set, quiet]
          by_cases same : other = socket
          · rw [if_pos same, if_pos ⟨time, same⟩, same]
          · rw [if_neg same, if_neg fun both => same both.2, quiet]
        · simp only [observeText, parsed, if_neg state, if_neg time]
          refine ⟨rfl, ?_⟩
          intro other
          rw [if_neg fun both => time both.1, quiet]

-- What an event does to the exchange of one socket.
inductive Changed : List ExchangeEntry → List ExchangeEntry → Prop where
  | kept (exchange : List ExchangeEntry) : Changed exchange exchange
  | added (exchange : List ExchangeEntry) (entry : ExchangeEntry) (message : entry ≠ .otherSent) :
      Changed exchange (exchange ++ [entry])
  | marked (exchange : List ExchangeEntry) (place : Nat) (positive : place ≠ 0) (bound : place ≤ exchange.length) :
      Changed exchange (insertAt place .otherSent exchange)

theorem same_send_changed (exchanges later : Nat → List ExchangeEntry) (send : Send) (call : SendCall)
    (same : SameSend exchanges send call) (changed : Changed (exchanges call.socket) (later call.socket)) :
    SameSend later send call where
  socket := same.socket
  serverTime := same.serverTime
  message := same.message
  status := same.status
  bound := by
    have bound := same.bound
    generalize exchanges call.socket = before at changed bound
    generalize later call.socket = after at changed
    cases changed with
    | kept => exact bound
    | added entry => rw [List.length_append]; omega
    | marked place => rw [length_insert_at]; omega
  placed := by
    have bound := same.bound
    have placed := same.placed
    generalize exchanges call.socket = before at changed bound placed
    generalize later call.socket = after at changed
    cases changed with
    | kept => exact placed
    | added entry => rwa [List.take_append_of_le_length bound]
    | marked place => exact (client_times_take_insert place call.beganAt before).trans placed
  recorded := same.recorded

theorem headed_changed (exchange later : List ExchangeEntry) (changed : Changed exchange later)
    (headed : ∀ rest, exchange ≠ .otherSent :: rest) (rest : List ExchangeEntry) : later ≠ .otherSent :: rest := by
  cases changed with
  | kept => exact headed rest
  | added entry message =>
      cases exchange with
      | nil =>
          intro same
          exact message (List.cons.inj same).1
      | cons first others =>
          intro same
          exact headed others (by rw [(List.cons.inj same).1])
  | marked place positive bound =>
      cases exchange with
      | nil =>
          have empty : place = 0 := by simpa using bound
          exact absurd empty positive
      | cons first others =>
          obtain ⟨below, rfl⟩ := Nat.exists_eq_succ_of_ne_zero positive
          intro same
          exact headed others (by rw [(List.cons.inj same).1])

theorem marked_at_changed (exchange later : List ExchangeEntry) (changed : Changed exchange later)
    (received : List Fields) (marked : MarkedAt exchange received) : MarkedAt later received := by
  cases changed with
  | kept => exact marked
  | added entry => exact marked_at_append exchange [entry] received marked
  | marked place => exact marked_at_insert place exchange received marked

theorem marks_received_added (history : History) (socket : Nat) (exchange : List ExchangeEntry) (entry : ExchangeEntry)
    (message : entry ≠ .otherSent) (marks : MarksReceived history socket exchange) :
    MarksReceived history socket (exchange ++ [entry]) := by
  intro before after split
  rcases List.eq_nil_or_concat after with none | ⟨front, last, same⟩
  · subst none
    obtain ⟨_, sameEntry⟩ := List.append_inj' split rfl
    exact absurd (List.cons.inj sameEntry).1 message
  · rw [List.concat_eq_append] at same
    subst same
    have regrouped : exchange ++ [entry] = (before ++ .otherSent :: front) ++ [last] := by simp [split]
    exact marks before front (List.append_inj' regrouped rfl).1

theorem changed_with_mark (exchange : List ExchangeEntry) (beganAt : Nat) (bound : beganAt ≤ exchange.length) :
    Changed exchange (withMark exchange beganAt) := by
  by_cases skipped : (beganAt = 0 || otherSentBeside exchange beganAt) = true
  · rw [withMark, if_pos skipped]
    exact .kept exchange
  · rw [withMark, if_neg skipped]
    have positive : beganAt ≠ 0 := by
      intro zero
      simp [zero] at skipped
    exact .marked exchange beganAt positive bound

theorem changed_after_return (call : SendCall) (exchange : List ExchangeEntry) (bound : call.beganAt ≤ exchange.length) :
    Changed exchange (afterReturn call exchange) := by
  by_cases server : typeIs call.message "server/time" = true
  · rw [afterReturn, if_pos server]
    exact .added exchange _ (by simp)
  · rw [afterReturn, if_neg server]
    exact changed_with_mark exchange call.beganAt bound

theorem with_mark_times (exchange : List ExchangeEntry) (beganAt : Nat) :
    clientTimes (withMark exchange beganAt) = clientTimes exchange ∧
      serverTimes (withMark exchange beganAt) = serverTimes exchange := by
  rw [withMark]
  split
  · exact ⟨rfl, rfl⟩
  · exact ⟨client_times_insert beganAt exchange, server_times_insert beganAt exchange⟩

theorem ended_sends (sends : List Send) (place : Nat) (status : SendStatus) (ended other : Send)
    (found : sends[place]? = some ended) (inFlight : ended.status = .inFlight) (member : other ∈ sends)
    (notFlying : other.status ≠ .inFlight) : other ∈ endSend sends place status := by
  obtain ⟨index, got⟩ := List.mem_iff_getElem?.mp member
  have different : place ≠ index := by
    intro same
    rw [same, got] at found
    rw [Option.some.inj found] at notFlying
    exact notFlying inFlight
  exact List.mem_iff_getElem?.mpr ⟨index, by simp [endSend, got, different]⟩

theorem other_returned_ended (history : History) (answered : Nat → List Fields) (place : Nat) (status : SendStatus)
    (ended send : Send) (found : history.sends[place]? = some ended) (inFlight : ended.status = .inFlight)
    (returned : OtherReturned history send) :
    OtherReturned { history with answered := answered, sends := endSend history.sends place status } send := by
  obtain ⟨member, notServer, status⟩ := returned
  refine ⟨ended_sends history.sends place _ ended send found inFlight member ?_, notServer, status⟩
  rw [status]
  decide

-- Ending a send keeps the two lists of sends alike.
theorem same_sends_ended (exchanges : Nat → List ExchangeEntry) (sends : List Send) (calls : List SendCall)
    (ended : Nat) (status : SendStatus)
    (same : ∀ (place : Nat) send call, sends[place]? = some send → calls[place]? = some call →
      SameSend exchanges send call)
    (place : Nat) (send : Send) (call : SendCall) (inSends : (endSend sends ended status)[place]? = some send)
    (inCalls : (setStatus calls ended status)[place]? = some call) : SameSend exchanges send call := by
  rw [endSend, List.getElem?_modify] at inSends
  rw [setStatus, List.getElem?_modify] at inCalls
  obtain ⟨oldSend, gotSend, sendIs⟩ := Option.map_eq_some_iff.mp inSends
  obtain ⟨oldCall, gotCall, callIs⟩ := Option.map_eq_some_iff.mp inCalls
  have known := same place oldSend oldCall gotSend gotCall
  by_cases here : ended = place
  · rw [if_pos here] at sendIs callIs
    rw [← sendIs, ← callIs]
    exact ⟨known.socket, known.serverTime, known.message, rfl, known.bound, known.placed, known.recorded⟩
  · rw [if_neg here] at sendIs callIs
    rw [← show oldSend = send from sendIs, ← show oldCall = call from callIs]
    exact known

theorem same_length_ended (history : History) (recorder : ControlMessageRecorder) (place : Nat) (status : SendStatus)
    (same : history.sends.length = recorder.sends.length) :
    (endSend history.sends place status).length = (setStatus recorder.sends place status).length := by
  simp [endSend, setStatus, same]

-- The send a return or a failure ends, as both sides hold it.
theorem send_found (history : History) (recorder : ControlMessageRecorder) (tracks : Tracks history recorder)
    (place : Nat) :
    (history.sends[place]? = none ∧ recorder.sends[place]? = none) ∨
      ∃ send call, history.sends[place]? = some send ∧ recorder.sends[place]? = some call ∧
        SameSend (exchangeOf recorder) send call := by
  by_cases inside : place < history.sends.length
  · have inCalls : place < recorder.sends.length := by rw [← tracks.length]; exact inside
    have send := List.getElem?_eq_getElem inside
    have call := List.getElem?_eq_getElem inCalls
    exact .inr ⟨_, _, send, call, tracks.sends place _ _ send call⟩
  · have outside : ¬ place < recorder.sends.length := by rw [← tracks.length]; exact inside
    exact .inl ⟨List.getElem?_eq_none (Nat.not_lt.mp inside), List.getElem?_eq_none (Nat.not_lt.mp outside)⟩

theorem tracks_send_raises (history : History) (recorder : ControlMessageRecorder) (place : Nat)
    (tracks : Tracks history recorder) :
    Tracks (onTraffic loads history (.sendRaises place)) (onEvent loads recorder (.sendRaises place)) := by
  rcases send_found history recorder tracks place with ⟨noSend, noCall⟩ | ⟨send, call, gotSend, gotCall, same⟩
  · simp only [onTraffic, onEvent, noSend, noCall]
    exact tracks
  · by_cases inFlight : send.status = .inFlight
    · have callInFlight : call.status = .inFlight := same.status.trans inFlight
      simp only [onTraffic, onEvent, gotSend, gotCall, if_pos inFlight, if_pos callInFlight]
      exact {
        each := tracks.each
        headed := tracks.headed
        marks := by
          intro socket
          refine marks_received_more history _ socket _ ?_ (tracks.marks socket)
          intro other returned
          exact other_returned_ended history history.answered place .raised send other gotSend inFlight returned
        length := same_length_ended history recorder place .raised tracks.length
        sends := same_sends_ended (exchangeOf recorder) history.sends recorder.sends place .raised tracks.sends }
    · have callEnded : call.status ≠ .inFlight := fun flying => inFlight (same.status.symm.trans flying)
      simp only [onTraffic, onEvent, gotSend, gotCall, if_neg inFlight, if_neg callEnded]
      exact tracks

theorem each_returned (history : History) (recorder : ControlMessageRecorder) (send : Send) (call : SendCall)
    (tracks : Tracks history recorder) (same : SameSend (exchangeOf recorder) send call) (sends : List Send)
    (socket : Nat) :
    EachOnce { history with
        answered := if send.serverTime then pushAt history.answered send.socket send.message else history.answered
        sends := sends }
      socket (exchangeOf (sendReturned recorder call) socket) := by
  obtain ⟨clients, servers⟩ := tracks.each socket
  rw [exchange_of_returned]
  by_cases here : socket = call.socket
  · rw [if_pos here, ← here, afterReturn, same.serverTime]
    cases isServer : send.serverTime with
    | true =>
        simp only [if_true, EachOnce, client_times_append, server_times_append, clients, servers]
        simp [clientTimes, serverTimes, pushAt, here, same.socket, same.message isServer]
    | false =>
        obtain ⟨sameClients, sameServers⟩ := with_mark_times (exchangeOf recorder socket) call.beganAt
        simp only [Bool.false_eq_true, if_false, EachOnce]
        exact ⟨sameClients.trans clients, sameServers.trans servers⟩
  · rw [if_neg here]
    refine ⟨clients, ?_⟩
    have other : socket ≠ send.socket := by rw [← same.socket]; exact here
    cases isServer : send.serverTime with
    | true => simpa [pushAt, other] using servers
    | false => simpa using servers

theorem changed_returned (recorder : ControlMessageRecorder) (call : SendCall)
    (bound : call.beganAt ≤ (exchangeOf recorder call.socket).length) (socket : Nat) :
    Changed (exchangeOf recorder socket) (exchangeOf (sendReturned recorder call) socket) := by
  rw [exchange_of_returned]
  by_cases here : socket = call.socket
  · rw [if_pos here, here]
    exact changed_after_return call _ bound
  · rw [if_neg here]
    exact .kept _

-- A mark a returning send puts in stands for that send.
theorem marks_returned (history later : History) (recorder : ControlMessageRecorder) (send returned : Send)
    (call : SendCall) (same : SameSend (exchangeOf recorder) send call)
    (kept : ∀ other, OtherReturned history other → OtherReturned later other)
    (isReturned : send.serverTime = false → OtherReturned later returned) (sameSocket : returned.socket = send.socket)
    (sameReceived : returned.receivedBefore = send.receivedBefore) (socket : Nat)
    (marks : MarksReceived history socket (exchangeOf recorder socket)) :
    MarksReceived later socket (exchangeOf (sendReturned recorder call) socket) := by
  have marksLater := marks_received_more history later socket _ kept marks
  rw [exchange_of_returned]
  by_cases here : socket = call.socket
  · rw [if_pos here, ← here, afterReturn, same.serverTime]
    cases isServer : send.serverTime with
    | true => exact marks_received_added later socket _ _ (by simp) marksLater
    | false =>
        rw [if_neg Bool.false_ne_true, withMark]
        split
        · exact marksLater
        · intro before after split
          rcases insert_mark_cases call.beganAt _ before after split with place | ⟨front, back, old, clients⟩
          · refine ⟨returned, isReturned isServer, by rw [sameSocket, ← same.socket, here], ?_⟩
            rw [place, sameReceived, here]
            exact same.placed
          · obtain ⟨other, otherReturned, otherSocket, received⟩ := marksLater front back old
            exact ⟨other, otherReturned, otherSocket, by rw [← clients]; exact received⟩
  · rw [if_neg here]
    exact marksLater

theorem tracks_send_returns (history : History) (recorder : ControlMessageRecorder) (place : Nat)
    (tracks : Tracks history recorder) :
    Tracks (onTraffic loads history (.sendReturns place)) (onEvent loads recorder (.sendReturns place)) := by
  rcases send_found history recorder tracks place with ⟨noSend, noCall⟩ | ⟨send, call, gotSend, gotCall, same⟩
  · simp only [onTraffic, onEvent, noSend, noCall]
    exact tracks
  · by_cases inFlight : send.status = .inFlight
    · have callInFlight : call.status = .inFlight := same.status.trans inFlight
      simp only [onTraffic, onEvent, gotSend, gotCall, if_pos inFlight, if_pos callInFlight]
      have changed := changed_returned recorder call same.bound
      exact {
        each := each_returned history recorder send call tracks same _
        headed := fun socket => headed_changed _ _ (changed socket) (tracks.headed socket)
        marks := by
          intro socket
          refine marks_returned history _ recorder send { send with status := .returned } call same ?_ ?_ rfl rfl socket
            (tracks.marks socket)
          · intro other returned
            exact other_returned_ended history _ place .returned send other gotSend inFlight returned
          · intro notServer
            refine ⟨List.mem_iff_getElem?.mpr ⟨place, ?_⟩, notServer, rfl⟩
            simp [endSend, gotSend]
        length := same_length_ended history recorder place .returned tracks.length
        sends := by
          apply same_sends_ended _ history.sends recorder.sends place .returned
          intro index other otherCall gotOther gotOtherCall
          exact same_send_changed _ _ other otherCall (tracks.sends index other otherCall gotOther gotOtherCall)
            (changed otherCall.socket) }
    · have callEnded : call.status ≠ .inFlight := fun flying => inFlight (same.status.symm.trans flying)
      simp only [onTraffic, onEvent, gotSend, gotCall, if_neg inFlight, if_neg callEnded]
      exact tracks

theorem tracks_receives_text (history : History) (recorder : ControlMessageRecorder) (socket : Nat) (data : String)
    (tracks : Tracks history recorder) :
    Tracks (onTraffic loads history (.receivesText socket data)) (onEvent loads recorder (.receivesText socket data)) := by
  obtain ⟨sameSends, exchanges⟩ := observe_text_parts loads recorder socket data
  have sends : (onTraffic loads history (.receivesText socket data)).sends = history.sends := by
    simp only [onTraffic]
    split
    · split <;> rfl
    · rfl
  have changed : ∀ other, Changed (exchangeOf recorder other) (exchangeOf (observeText loads recorder socket data) other) := by
    intro other
    rw [exchanges]
    split
    · split
      · exact .added _ _ (by simp)
      · exact .kept _
    · exact .kept _
  change Tracks _ (observeText loads recorder socket data)
  exact {
    each := by
      intro other
      obtain ⟨clients, servers⟩ := tracks.each other
      rw [exchanges]
      cases body : bodyOf loads data with
      | none => simpa only [onTraffic, body] using tracks.each other
      | some message =>
          by_cases time : typeIs message "client/time" = true
          · by_cases same : other = socket
            · simp only [onTraffic, body, if_pos time, EachOnce]
              rw [if_pos ⟨time, same⟩, client_times_append, server_times_append, clients, servers]
              simp [clientTimes, serverTimes, pushAt, same]
            · simp only [onTraffic, body, if_pos time, EachOnce]
              rw [if_neg fun both => same both.2]
              exact ⟨by simpa [pushAt, same] using clients, servers⟩
          · simp only [onTraffic, body, if_neg time]
            rw [if_neg fun both => time both.1]
            exact ⟨clients, servers⟩
    headed := fun other => headed_changed _ _ (changed other) (tracks.headed other)
    marks := by
      intro other
      have kept : MarksReceived (onTraffic loads history (.receivesText socket data)) other (exchangeOf recorder other) := by
        refine marks_received_more history _ other _ ?_ (tracks.marks other)
        intro send returned
        exact ⟨by rw [sends]; exact returned.1, returned.2⟩
      rw [exchanges]
      split
      · split
        · exact marks_received_added _ other _ _ (by simp) kept
        · exact kept
      · exact kept
    length := by rw [sends, sameSends]; exact tracks.length
    sends := by
      intro place send call inHistory inRecorder
      rw [sends] at inHistory
      rw [sameSends] at inRecorder
      exact same_send_changed _ _ send call (tracks.sends place send call inHistory inRecorder) (changed call.socket) }

theorem tracks_event (history : History) (recorder : ControlMessageRecorder) (event : TransportEvent)
    (named : NamedPlainly loads event) (tracks : Tracks history recorder) :
    Tracks (onTraffic loads history event) (onEvent loads recorder event) := by
  cases event with
  | sendBegins socket data => exact tracks_send_begins loads history recorder socket data named tracks
  | sendReturns place => exact tracks_send_returns loads history recorder place tracks
  | sendRaises place => exact tracks_send_raises loads history recorder place tracks
  | receivesText socket data => exact tracks_receives_text loads history recorder socket data tracks
  | receivesBinary socket => exact tracks

end Conformance.Adapters
