import SendspinConformance.Adapters.ExchangeTracks

set_option autoImplicit false

namespace Conformance.Adapters

open Python Protocol Base

variable (loads : String → Option Json)

-- A returning send finds its saved place where it began: the client/times received by
-- then are the ones before it.
def PlaceKept (history : History) (recorder : ControlMessageRecorder) : TransportEvent → Prop
  | .sendReturns place => ∀ send call, history.sends[place]? = some send → recorder.sends[place]? = some call →
      send.status = .inFlight → send.serverTime = false → call.beganAt ≠ 0 →
      clientTimes ((exchangeOf recorder call.socket).take call.beganAt) = send.receivedBefore
  | _ => True

def AllMarked (history : History) (recorder : ControlMessageRecorder) : Prop :=
  ∀ socket, SendsMarked history socket (exchangeOf recorder socket)

theorem changed_event (history : History) (recorder : ControlMessageRecorder) (event : TransportEvent)
    (tracks : Tracks history recorder) (socket : Nat) :
    Changed (exchangeOf recorder socket) (exchangeOf (onEvent loads recorder event) socket) := by
  cases event with
  | sendBegins other data =>
      cases sent : sentMessage loads data with
      | none =>
          simp only [onEvent, sendBegins, sent]
          exact .kept _
      | some message =>
          change Changed _ (exchangeOf (sendBegins loads recorder other data) socket)
          rw [(send_begins_parts loads recorder other data message sent).1]
          exact .kept _
  | sendReturns place =>
      rcases send_found history recorder tracks place with ⟨_, noCall⟩ | ⟨send, call, _, gotCall, same⟩
      · simp only [onEvent, noCall]
        exact .kept _
      · simp only [onEvent, gotCall]
        split
        · exact changed_returned recorder call same.bound socket
        · exact .kept _
  | sendRaises place =>
      simp only [onEvent]
      split
      · split <;> exact .kept _
      · exact .kept _
  | receivesText other data =>
      change Changed _ (exchangeOf (observeText loads recorder other data) socket)
      rw [(observe_text_parts loads recorder other data).2]
      split
      · split
        · exact .added _ _ (by simp)
        · exact .kept _
      · exact .kept _
  | receivesBinary other => exact .kept _

-- A send that has returned had done so before the event, or the event is its return.
theorem returned_before (history : History) (event : TransportEvent) (send : Send)
    (returned : OtherReturned (onTraffic loads history event) send) :
    OtherReturned history send ∨ ∃ place ended, event = .sendReturns place ∧ history.sends[place]? = some ended ∧
      ended.status = .inFlight ∧ send = { ended with status := .returned } := by
  obtain ⟨member, notServer, status⟩ := returned
  cases event with
  | sendBegins socket data =>
      simp only [onTraffic] at member
      split at member
      · rcases List.mem_append.mp member with old | fresh
        · exact .inl ⟨old, notServer, status⟩
        · rw [List.mem_singleton.mp fresh] at status
          simp [historySend] at status
      · exact .inl ⟨member, notServer, status⟩
  | sendReturns place =>
      cases found : history.sends[place]? with
      | none =>
          simp only [onTraffic, found] at member
          exact .inl ⟨member, notServer, status⟩
      | some ended =>
          by_cases inFlight : ended.status = .inFlight
          · simp only [onTraffic, found, if_pos inFlight] at member
            obtain ⟨index, got⟩ := List.mem_iff_getElem?.mp member
            rw [endSend, List.getElem?_modify] at got
            obtain ⟨old, gotOld, isSend⟩ := Option.map_eq_some_iff.mp got
            by_cases here : place = index
            · rw [← here, found] at gotOld
              rw [if_pos here, ← Option.some.inj gotOld] at isSend
              exact .inr ⟨place, ended, rfl, found, inFlight, isSend.symm⟩
            · rw [if_neg here] at isSend
              rw [show old = send from isSend] at gotOld
              exact .inl ⟨List.mem_iff_getElem?.mpr ⟨index, gotOld⟩, notServer, status⟩
          · simp only [onTraffic, found, if_neg inFlight] at member
            exact .inl ⟨member, notServer, status⟩
  | sendRaises place =>
      cases found : history.sends[place]? with
      | none =>
          simp only [onTraffic, found] at member
          exact .inl ⟨member, notServer, status⟩
      | some ended =>
          by_cases inFlight : ended.status = .inFlight
          · simp only [onTraffic, found, if_pos inFlight] at member
            obtain ⟨index, got⟩ := List.mem_iff_getElem?.mp member
            rw [endSend, List.getElem?_modify] at got
            obtain ⟨old, gotOld, isSend⟩ := Option.map_eq_some_iff.mp got
            by_cases here : place = index
            · rw [if_pos here] at isSend
              rw [← isSend] at status
              simp at status
            · rw [if_neg here] at isSend
              rw [show old = send from isSend] at gotOld
              exact .inl ⟨List.mem_iff_getElem?.mpr ⟨index, gotOld⟩, notServer, status⟩
          · simp only [onTraffic, found, if_neg inFlight] at member
            exact .inl ⟨member, notServer, status⟩
  | receivesText socket data =>
      simp only [onTraffic] at member
      split at member
      · split at member <;> exact .inl ⟨member, notServer, status⟩
      · exact .inl ⟨member, notServer, status⟩
  | receivesBinary socket => exact .inl ⟨member, notServer, status⟩

-- The exchange of the socket right after a send other than a server/time returns.
theorem exchange_after_return (recorder : ControlMessageRecorder) (place : Nat) (send : Send)
    (call : SendCall) (gotCall : recorder.sends[place]? = some call) (same : SameSend (exchangeOf recorder) send call)
    (inFlight : send.status = .inFlight) (notServer : send.serverTime = false) :
    exchangeOf (onEvent loads recorder (.sendReturns place)) send.socket =
      withMark (exchangeOf recorder call.socket) call.beganAt := by
  have callInFlight : call.status = .inFlight := same.status.trans inFlight
  simp only [onEvent, gotCall, if_pos callInFlight]
  change exchangeOf (sendReturned recorder call) send.socket = _
  rw [exchange_of_returned, if_pos same.socket.symm, afterReturn, same.serverTime, notServer]
  rfl

theorem all_marked_event (history : History) (recorder : ControlMessageRecorder) (event : TransportEvent)
    (tracks : Tracks history recorder) (kept : PlaceKept history recorder event) (marked : AllMarked history recorder) :
    AllMarked (onTraffic loads history event) (onEvent loads recorder event) := by
  intro socket send returned sameSocket recorded
  rcases returned_before loads history event send returned with old | ⟨place, ended, rfl, found, inFlight, rfl⟩
  · exact marked_at_changed _ _ (changed_event loads history recorder event tracks socket) _
      (marked socket send old sameSocket recorded)
  · rcases send_found history recorder tracks place with ⟨noSend, _⟩ | ⟨send, call, gotSend, gotCall, same⟩
    · rw [noSend] at found
      simp at found
    · have sameSend : ended = send := Option.some.inj (found.symm.trans gotSend)
      subst sameSend
      have notServer : ended.serverTime = false := returned.2.1
      have positive : call.beganAt ≠ 0 := same.recorded.mpr recorded
      have placed := kept ended call gotSend gotCall inFlight notServer positive
      rw [← sameSocket]
      change MarkedAt (exchangeOf _ ended.socket) ended.receivedBefore
      rw [exchange_after_return loads recorder place ended call gotCall same inFlight notServer, ← placed, withMark]
      by_cases beside : otherSentBeside (exchangeOf recorder call.socket) call.beganAt = true
      · rw [if_pos (by simp [beside])]
        exact beside_marked _ _ positive beside
      · rw [if_neg (by simp [beside, positive])]
        exact inserted_mark _ _

-- Where a returning send finds another place under its saved index, and no mark already
-- stands where it began, none does afterwards.
theorem displaced_unmarked (history : History) (recorder : ControlMessageRecorder) (place : Nat) (send : Send)
    (call : SendCall) (tracks : Tracks history recorder) (gotSend : history.sends[place]? = some send)
    (gotCall : recorder.sends[place]? = some call) (inFlight : send.status = .inFlight)
    (notServer : send.serverTime = false) (recorded : send.recordedBefore = true)
    (displaced : clientTimes ((exchangeOf recorder call.socket).take call.beganAt) ≠ send.receivedBefore)
    (unmarked : ¬ MarkedAt (exchangeOf recorder call.socket) send.receivedBefore) :
    ¬ AllMarked (onTraffic loads history (.sendReturns place)) (onEvent loads recorder (.sendReturns place)) := by
  intro allMarked
  have same := tracks.sends place send call gotSend gotCall
  have returned : OtherReturned (onTraffic loads history (.sendReturns place)) { send with status := .returned } := by
    simp only [onTraffic, gotSend, if_pos inFlight]
    refine ⟨List.mem_iff_getElem?.mpr ⟨place, ?_⟩, notServer, rfl⟩
    simp [endSend, gotSend]
  have marked : MarkedAt (exchangeOf (onEvent loads recorder (.sendReturns place)) send.socket) send.receivedBefore :=
    allMarked send.socket { send with status := .returned } returned rfl recorded
  rw [exchange_after_return loads recorder place send call gotCall same inFlight notServer, withMark] at marked
  split at marked
  · exact unmarked marked
  · obtain ⟨before, after, split, clients⟩ := marked
    rcases insert_mark_cases call.beganAt _ before after split with here | ⟨front, back, old, sameClients⟩
    · rw [here] at clients
      exact displaced clients
    · exact unmarked ⟨front, back, old, sameClients.trans clients⟩

def AllNamed (events : List TransportEvent) : Prop := ∀ event ∈ events, NamedPlainly loads event

theorem traffic_snoc (events : List TransportEvent) (event : TransportEvent) :
    traffic loads (events ++ [event]) = onTraffic loads (traffic loads events) event := by
  simp [traffic]

theorem observed_snoc (events : List TransportEvent) (event : TransportEvent) :
    observed loads (events ++ [event]) = onEvent loads (observed loads events) event := by
  simp [observed]

theorem tracks_observed (events : List TransportEvent) (named : AllNamed loads events) :
    Tracks (traffic loads events) (observed loads events) := by
  induction events using List.reverseRecOn with
  | nil => exact tracks_start
  | append_singleton events event ih =>
      have before := ih fun other member => named other (List.mem_append_left _ member)
      rw [traffic_snoc, observed_snoc]
      exact tracks_event loads _ _ event (named event (by simp)) before

theorem named_so_far (events seen : List TransportEvent) (named : AllNamed loads events) (reached : seen <+: events) :
    AllNamed loads seen := fun event member => named event (reached.subset member)

theorem all_marked_observed (events : List TransportEvent) (named : AllNamed loads events)
    (kept : ∀ seen event, seen ++ [event] <+: events → PlaceKept (traffic loads seen) (observed loads seen) event) :
    AllMarked (traffic loads events) (observed loads events) := by
  induction events using List.reverseRecOn with
  | nil =>
      intro socket send returned
      simp [OtherReturned, traffic] at returned
  | append_singleton events event ih =>
      have earlier := List.prefix_append events [event]
      have namedBefore := named_so_far loads _ events named earlier
      have before := ih namedBefore fun seen other reached => kept seen other (reached.trans earlier)
      rw [traffic_snoc, observed_snoc]
      exact all_marked_event loads _ _ event (tracks_observed loads events namedBefore)
        (kept events event (List.prefix_refl _)) before

-- Every message is listed once and every mark is earned, in every run. A send is marked
-- where it began in every run whose sends find their saved places kept; one that finds
-- its place displaced is marked there only if another send's mark already was.
theorem exchange_recorded (events : List TransportEvent) :
    (AllNamed loads events → ∀ seen, seen <+: events → ∀ socket,
      EachOnce (traffic loads seen) socket (exchangeOf (observed loads seen) socket) ∧
      MarksReceived (traffic loads seen) socket (exchangeOf (observed loads seen) socket)) ∧
    (AllNamed loads events →
      (∀ seen event, seen ++ [event] <+: events → PlaceKept (traffic loads seen) (observed loads seen) event) →
      ∀ seen, seen <+: events → AllMarked (traffic loads seen) (observed loads seen)) ∧
    (AllNamed loads events → ∀ seen place send call, seen ++ [.sendReturns place] <+: events →
      (traffic loads seen).sends[place]? = some send → (observed loads seen).sends[place]? = some call →
      send.status = .inFlight → send.serverTime = false → send.recordedBefore = true →
      clientTimes ((exchangeOf (observed loads seen) call.socket).take call.beganAt) ≠ send.receivedBefore →
      ¬ MarkedAt (exchangeOf (observed loads seen) call.socket) send.receivedBefore →
      ¬ AllMarked (traffic loads (seen ++ [.sendReturns place])) (observed loads (seen ++ [.sendReturns place]))) := by
  refine ⟨?_, ?_, ?_⟩
  · intro named seen reached socket
    have tracks := tracks_observed loads seen (named_so_far loads events seen named reached)
    exact ⟨tracks.each socket, tracks.marks socket⟩
  · intro named kept seen reached
    apply all_marked_observed loads seen (named_so_far loads events seen named reached)
    intro before event more
    exact kept before event (more.trans reached)
  · intro named seen place send call reached gotSend gotCall inFlight notServer recorded displaced unmarked
    have earlier : seen <+: events := (List.prefix_append seen _).trans reached
    have tracks := tracks_observed loads seen (named_so_far loads events seen named earlier)
    rw [traffic_snoc, observed_snoc]
    exact displaced_unmarked loads _ _ place send call tracks gotSend gotCall inFlight notServer recorded displaced
      unmarked

def timeText (digit : String) : String :=
  "\x7b\"type\":\"client/time\",\"payload\":\x7b\"client_transmitted\":" ++ digit ++ "\x7d\x7d"

def timeMessage (number : Int) : Fields :=
  [("type", .str "client/time"), ("payload", .obj [("client_transmitted", .int number)])]

def otherText : String := "\x7b\"type\":\"server/state\",\"payload\":\x7b\x7d\x7d"

def sampleLoads (data : String) : Option Json :=
  if data = timeText "1" then some (.obj (timeMessage 1))
  else if data = timeText "2" then some (.obj (timeMessage 2))
  else if data = otherText then some (.obj [("type", .str "server/state"), ("payload", .obj [])])
  else none

-- Two sends overlap, with a client/time received between their begins.
def overlappingSends : List TransportEvent :=
  [.receivesText 1 (timeText "1"), .sendBegins 1 otherText, .receivesText 1 (timeText "2"), .sendBegins 1 otherText,
    .sendReturns 0, .sendReturns 1]

theorem overlapping_sends_unmarked :
    AllNamed sampleLoads overlappingSends ∧
      exchangeOf (observed sampleLoads overlappingSends) 1 =
        [.clientTime (timeMessage 1), .otherSent, .clientTime (timeMessage 2)] ∧
      ¬ SendsMarked (traffic sampleLoads overlappingSends) 1 (exchangeOf (observed sampleLoads overlappingSends) 1) := by
  have exchange : exchangeOf (observed sampleLoads overlappingSends) 1 =
      [.clientTime (timeMessage 1), .otherSent, .clientTime (timeMessage 2)] := rfl
  have sends : (traffic sampleLoads overlappingSends).sends =
      [⟨1, false, [("type", .str "server/state"), ("payload", .obj [])], [timeMessage 1], true, .returned⟩,
        ⟨1, false, [("type", .str "server/state"), ("payload", .obj [])], [timeMessage 1, timeMessage 2], true,
          .returned⟩] := rfl
  have notServer : isServerTime sampleLoads otherText = false := rfl
  refine ⟨?_, exchange, ?_⟩
  · intro event member
    cases event with
    | sendBegins socket data =>
        have isOther : data = otherText := by
          simp only [overlappingSends, List.mem_cons, reduceCtorEq, TransportEvent.sendBegins.injEq, List.not_mem_nil,
            false_or, or_false, or_self] at member
          exact member.2
        intro server
        rw [isOther, notServer] at server
        exact absurd server Bool.false_ne_true
    | _ => trivial
  · intro marked
    have second : (⟨1, false, [("type", .str "server/state"), ("payload", .obj [])], [timeMessage 1, timeMessage 2],
        true, .returned⟩ : Send) ∈ (traffic sampleLoads overlappingSends).sends := by
      rw [sends]
      exact List.mem_cons_of_mem _ List.mem_cons_self
    obtain ⟨before, after, split, clients⟩ := marked _ ⟨second, rfl, rfl⟩ rfl rfl
    rw [exchange] at split
    match before with
    | [] => simp at split
    | [first] =>
        have fewer := congrArg List.length clients
        rw [← (List.cons.inj split).1] at fewer
        simp [clientTimes] at fewer
    | [_, _] => simp at split
    | _ :: _ :: _ :: _ => simp at split

end Conformance.Adapters
