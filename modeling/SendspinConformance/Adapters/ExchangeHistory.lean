import SendspinConformance.Adapters.ControlMessageRecorder

set_option autoImplicit false

namespace Conformance.Adapters

open Python Protocol Base

-- The traffic itself, kept apart from what the recorder writes down about it.
structure Send where
  socket : Nat
  serverTime : Bool
  message : Fields
  receivedBefore : List Fields
  recordedBefore : Bool
  status : SendStatus

structure History where
  received : Nat → List Fields := fun _ => []
  answered : Nat → List Fields := fun _ => []
  sends : List Send := []

variable (loads : String → Option Json)

def bodyOf (data : String) : Option Fields := (loads data).bind Json.asObj

def isServerTime (data : String) : Bool := (bodyOf loads data).any fun body => typeIs body "server/time"

def pushAt (lists : Nat → List Fields) (socket : Nat) (message : Fields) : Nat → List Fields :=
  Function.update lists socket (lists socket ++ [message])

def historySend (history : History) (socket : Nat) (data : String) : Send where
  socket := socket
  serverTime := isServerTime loads data
  message := (bodyOf loads data).getD []
  receivedBefore := history.received socket
  recordedBefore := !(history.received socket).isEmpty || !(history.answered socket).isEmpty
  status := .inFlight

def endSend (sends : List Send) (send : Nat) (status : SendStatus) : List Send :=
  sends.modify send fun ended => { ended with status := status }

def onTraffic (history : History) : TransportEvent → History
  | .sendBegins socket data =>
      if (sentMessage loads data).isSome then
        { history with sends := history.sends ++ [historySend loads history socket data] }
      else history
  | .sendReturns send =>
      match history.sends[send]? with
      | some ended =>
          if ended.status = .inFlight then
            { history with
              answered :=
                if ended.serverTime then pushAt history.answered ended.socket ended.message else history.answered
              sends := endSend history.sends send .returned }
          else history
      | none => history
  | .sendRaises send =>
      match history.sends[send]? with
      | some ended =>
          if ended.status = .inFlight then { history with sends := endSend history.sends send .raised } else history
      | none => history
  | .receivesText socket data =>
      match bodyOf loads data with
      | some message =>
          if typeIs message "client/time" then { history with received := pushAt history.received socket message }
          else history
      | none => history
  | .receivesBinary _ => history

def traffic (events : List TransportEvent) : History := events.foldl (onTraffic loads) {}

-- A body that is a server/time names its type as it is spelled, with no escape.
def NamedPlainly : TransportEvent → Prop
  | .sendBegins _ data => isServerTime loads data = true → contains (quoted "server/time") data = true
  | _ => True

def clientTimes (exchange : List ExchangeEntry) : List Fields :=
  exchange.filterMap fun entry =>
    match entry with
    | .clientTime message => some message
    | _ => none

def serverTimes (exchange : List ExchangeEntry) : List Fields :=
  exchange.filterMap fun entry =>
    match entry with
    | .serverTime message => some message
    | _ => none

def OtherReturned (history : History) (send : Send) : Prop :=
  send ∈ history.sends ∧ send.serverTime = false ∧ send.status = .returned

-- Each message once, in the order it was received or its send returned.
def EachOnce (history : History) (socket : Nat) (exchange : List ExchangeEntry) : Prop :=
  clientTimes exchange = history.received socket ∧ serverTimes exchange = history.answered socket

-- What stands before a mark had been received before some send the mark may stand for.
def MarksReceived (history : History) (socket : Nat) (exchange : List ExchangeEntry) : Prop :=
  ∀ before after, exchange = before ++ .otherSent :: after →
    ∃ send, OtherReturned history send ∧ send.socket = socket ∧ clientTimes before <+: send.receivedBefore

-- A mark right where a send began: after what was received by then, before the rest.
def MarkedAt (exchange : List ExchangeEntry) (received : List Fields) : Prop :=
  ∃ before after, exchange = before ++ .otherSent :: after ∧ clientTimes before = received

def SendsMarked (history : History) (socket : Nat) (exchange : List ExchangeEntry) : Prop :=
  ∀ send, OtherReturned history send → send.socket = socket → send.recordedBefore = true →
    MarkedAt exchange send.receivedBefore

theorem client_times_append (first second : List ExchangeEntry) :
    clientTimes (first ++ second) = clientTimes first ++ clientTimes second := by
  simp [clientTimes]

theorem server_times_append (first second : List ExchangeEntry) :
    serverTimes (first ++ second) = serverTimes first ++ serverTimes second := by
  simp [serverTimes]

theorem client_times_mark (rest : List ExchangeEntry) : clientTimes (.otherSent :: rest) = clientTimes rest := rfl

theorem server_times_mark (rest : List ExchangeEntry) : serverTimes (.otherSent :: rest) = serverTimes rest := rfl

theorem client_times_mono (first second : List ExchangeEntry) (pfx : first <+: second) :
    clientTimes first <+: clientTimes second := by
  obtain ⟨rest, rfl⟩ := pfx
  rw [client_times_append]
  exact List.prefix_append _ _

theorem client_times_insert (place : Nat) (exchange : List ExchangeEntry) :
    clientTimes (insertAt place .otherSent exchange) = clientTimes exchange := by
  obtain ⟨front, back, rfl, inserted, _⟩ := insert_at_split place ExchangeEntry.otherSent exchange
  rw [inserted, client_times_append, client_times_mark, client_times_append]

theorem server_times_insert (place : Nat) (exchange : List ExchangeEntry) :
    serverTimes (insertAt place .otherSent exchange) = serverTimes exchange := by
  obtain ⟨front, back, rfl, inserted, _⟩ := insert_at_split place ExchangeEntry.otherSent exchange
  rw [inserted, server_times_append, server_times_mark, server_times_append]

-- A mark put in below a saved place can only push entries past it.
theorem client_times_take_insert (place saved : Nat) (exchange : List ExchangeEntry) :
    clientTimes ((insertAt place .otherSent exchange).take saved) <+: clientTimes (exchange.take saved) := by
  obtain ⟨front, back, rfl, inserted, _⟩ := insert_at_split place ExchangeEntry.otherSent exchange
  rw [inserted, List.take_append, List.take_append]
  cases past : saved - front.length with
  | zero =>
      rw [List.take_zero, List.take_zero]
  | succ left =>
      rw [List.take_succ_cons, client_times_append, client_times_mark, ← client_times_append]
      apply client_times_mono
      exact (List.prefix_append_right_inj _).mpr (List.take_prefix_take_left (Nat.le_succ left))

-- A mark of the longer exchange is the new one or stands where one stood before.
theorem insert_mark_cases (place : Nat) (exchange before after : List ExchangeEntry)
    (split : insertAt place .otherSent exchange = before ++ .otherSent :: after) :
    before = exchange.take place ∨
      ∃ front back, exchange = front ++ .otherSent :: back ∧ clientTimes front = clientTimes before := by
  obtain ⟨first, second, rfl, inserted, same⟩ := insert_at_split place ExchangeEntry.otherSent exchange
  rw [inserted] at split
  rcases List.append_eq_append_iff.mp split with ⟨middle, sameBefore, sameRest⟩ | ⟨middle, sameFirst, sameRest⟩
  · cases middle with
    | nil => exact .inl (by rw [sameBefore, List.append_nil, ← same])
    | cons entry rest =>
        obtain ⟨rfl, restSplit⟩ := List.cons.inj sameRest
        refine .inr ⟨first ++ rest, after, by rw [restSplit, List.append_assoc]; rfl, ?_⟩
        rw [sameBefore, client_times_append, client_times_append, client_times_mark]
  · cases middle with
    | nil => exact .inl (by rw [← same, sameFirst, List.append_nil])
    | cons entry rest =>
        obtain ⟨rfl, restSplit⟩ := List.cons.inj sameRest
        exact .inr ⟨before, rest ++ second, by rw [sameFirst]; simp, rfl⟩

theorem marked_at_append (exchange rest : List ExchangeEntry) (received : List Fields)
    (marked : MarkedAt exchange received) : MarkedAt (exchange ++ rest) received := by
  obtain ⟨before, after, same, clients⟩ := marked
  exact ⟨before, after ++ rest, by rw [same]; simp, clients⟩

theorem marked_at_insert (place : Nat) (exchange : List ExchangeEntry) (received : List Fields)
    (marked : MarkedAt exchange received) : MarkedAt (insertAt place .otherSent exchange) received := by
  obtain ⟨first, second, rfl, inserted, _⟩ := insert_at_split place ExchangeEntry.otherSent exchange
  obtain ⟨before, after, split, clients⟩ := marked
  rw [inserted]
  rcases List.append_eq_append_iff.mp split with ⟨middle, sameBefore, sameSecond⟩ | ⟨middle, sameFirst, sameRest⟩
  · refine ⟨first ++ .otherSent :: middle, after, by rw [sameSecond]; simp, ?_⟩
    rw [client_times_append, client_times_mark, ← client_times_append, ← sameBefore, clients]
  · cases middle with
    | nil =>
        refine ⟨first, second, rfl, ?_⟩
        rw [sameFirst, List.append_nil, clients]
    | cons entry rest =>
        obtain ⟨rfl, _⟩ := List.cons.inj sameRest
        exact ⟨before, rest ++ .otherSent :: second, by rw [sameFirst]; simp, clients⟩

theorem inserted_mark (place : Nat) (exchange : List ExchangeEntry) :
    MarkedAt (insertAt place .otherSent exchange) (clientTimes (exchange.take place)) :=
  ⟨exchange.take place, exchange.drop place, rfl, rfl⟩

-- A mark beside a place stands for that place.
theorem beside_marked (exchange : List ExchangeEntry) (place : Nat) (positive : place ≠ 0)
    (beside : otherSentBeside exchange place = true) : MarkedAt exchange (clientTimes (exchange.take place)) := by
  obtain ⟨entry, member, isMark⟩ := List.any_eq_true.mp beside
  have mark : entry = .otherSent := by cases entry <;> simp [ExchangeEntry.isOtherSent] at isMark ⊢
  subst mark
  obtain ⟨before, rfl⟩ : ∃ before, place = before + 1 := Nat.exists_eq_succ_of_ne_zero positive
  rw [Nat.add_sub_cancel] at member
  have whole : exchange = exchange.take before ++ exchange.drop before := (List.take_append_drop before exchange).symm
  cases tail : exchange.drop before with
  | nil => simp [tail] at member
  | cons first rest =>
      have taken : exchange.take (before + 1) = exchange.take before ++ [first] := by
        rw [List.take_add_one, ← List.head?_drop, tail]
        rfl
      cases rest with
      | nil =>
          have isFirst : ExchangeEntry.otherSent = first := by simpa [tail] using member
          refine ⟨exchange.take before, [], by rw [isFirst, ← tail]; exact whole, ?_⟩
          rw [taken, ← isFirst, client_times_append]
          simp [clientTimes]
      | cons second others =>
          have either : ExchangeEntry.otherSent = first ∨ ExchangeEntry.otherSent = second := by
            simpa [tail] using member
          rcases either with isFirst | isSecond
          · refine ⟨exchange.take before, second :: others, by rw [isFirst, ← tail]; exact whole, ?_⟩
            rw [taken, ← isFirst, client_times_append]
            simp [clientTimes]
          · refine ⟨exchange.take (before + 1), others, ?_, rfl⟩
            rw [taken, isSecond, List.append_assoc, List.singleton_append, ← tail]
            exact whole

end Conformance.Adapters
