import SendspinConformance.Base.Matching
import SendspinConformance.Base.Runs
import SendspinConformance.Protocol.TimeExchange

set_option autoImplicit false

namespace Conformance.Protocol

open Python Base

def clientTime (payload : Json) : Option Int := do
  let fields ← payload.asObj
  (getKey fields "client_transmitted").asInt

def serverTime (payload : Json) : Option Int := do
  let fields ← payload.asObj
  let echoed ← (getKey fields "client_transmitted").asInt
  let serverReceived ← (getKey fields "server_received").asInt
  let serverTransmitted ← (getKey fields "server_transmitted").asInt
  if serverReceived ≤ serverTransmitted then some echoed else none

-- What an entry of the exchange is, when it is one the rule accepts.
def timeEntry : Json → Option (Exchange Int)
  | .obj entry =>
      if (getKey entry "type").eqStr "other-sent" then some .mark
      else if (getKey entry "type").eqStr "client/time" then (clientTime (getKey entry "payload")).map .request
      else if (getKey entry "type").eqStr "server/time" then (serverTime (getKey entry "payload")).map .reply
      else none
  | _ => none

-- The turn on an entry so read. A reply nothing waits for is its one way to stop.
def readTurn (state : TimeState) : Exchange Int → Except Unit TimeState
  | .mark => .ok (otherSentTurn state)
  | .request sent =>
      .ok { state with
        received := state.received + 1
        unanswered := state.unanswered ++ [(state.received + 1, sent)] }
  | .reply echoed =>
      match state.unanswered.find? fun item => item.2 == echoed with
      | none => .error ()
      | some item =>
          .ok { state with
            answered := state.answered + 1
            unanswered := state.unanswered.erase item
            latestAnswered := max state.latestAnswered item.1 }

theorem int_value_of_int (number : Int) : intValue (.int number) = number := rfl

theorem server_time_defect_none (payload : Fields) (name : String) :
    serverTimeDefect payload name = none ↔ ∃ number, getKey payload name = .int number := by
  rw [serverTimeDefect, ← Json.is_int_iff]
  by_cases present : hasKey payload name = true
  · by_cases integer : (getKey payload name).isInt = true <;> simp [present, integer]
  · have absent : getKey payload name = .null := get_key_absent payload name (by simpa using present)
    simp [present, absent, Json.isInt]

theorem server_time_defects_none (payload : Json) :
    serverTimeDefects payload = [] ↔ ∃ fields echoed serverReceived serverTransmitted, payload = .obj fields ∧
      getKey fields "client_transmitted" = .int echoed ∧ getKey fields "server_received" = .int serverReceived ∧
      getKey fields "server_transmitted" = .int serverTransmitted := by
  cases payload with
  | obj fields => simp [serverTimeDefects, timeFields, List.filterMap_eq_nil_iff, server_time_defect_none]
  | _ => simp [serverTimeDefects]

theorem client_time_some (payload : Json) (sent : Int) :
    clientTime payload = some sent ↔
      ∃ fields, payload = .obj fields ∧ getKey fields "client_transmitted" = .int sent := by
  simp [clientTime, Option.bind_eq_some_iff, Json.as_obj_some, Json.as_int_some]

theorem server_time_some (payload : Json) (echoed : Int) :
    serverTime payload = some echoed ↔ ∃ fields serverReceived serverTransmitted, payload = .obj fields ∧
      getKey fields "client_transmitted" = .int echoed ∧ getKey fields "server_received" = .int serverReceived ∧
      getKey fields "server_transmitted" = .int serverTransmitted ∧ serverReceived ≤ serverTransmitted := by
  simp only [serverTime, Option.bind_eq_bind, Option.bind_eq_some_iff, Json.as_obj_some, Json.as_int_some,
    Option.ite_none_right_eq_some, Option.some.injEq]
  constructor
  · rintro ⟨fields, same, other, first, serverReceived, second, serverTransmitted, third, ordered, rfl⟩
    exact ⟨fields, serverReceived, serverTransmitted, same, first, second, third, ordered⟩
  · rintro ⟨fields, serverReceived, serverTransmitted, same, first, second, third, ordered⟩
    exact ⟨fields, same, echoed, first, serverReceived, second, serverTransmitted, third, ordered, rfl⟩

theorem client_time_turn_reads (state : TimeState) (payload : Json) (next : TimeState) :
    clientTimeTurn state payload = .ok next ↔
      ∃ sent, clientTime payload = some sent ∧ readTurn state (.request sent) = .ok next := by
  cases payload with
  | obj fields =>
      cases value : getKey fields "client_transmitted" <;>
        simp [client_time_some, clientTimeTurn, fieldsOf, value, Json.isInt, readTurn, int_value_of_int]
  | _ => simp [client_time_some, clientTimeTurn, fieldsOf, getKey, Json.isInt]

theorem server_time_turn_clean (state : TimeState) (fields : Fields) (echoed serverReceived serverTransmitted : Int)
    (first : getKey fields "client_transmitted" = .int echoed)
    (second : getKey fields "server_received" = .int serverReceived)
    (third : getKey fields "server_transmitted" = .int serverTransmitted) (next : TimeState) :
    serverTimeTurn state (.obj fields) = .ok next ↔
      serverReceived ≤ serverTransmitted ∧ readTurn state (.reply echoed) = .ok next := by
  have clean : serverTimeDefects (.obj fields) = [] :=
    (server_time_defects_none _).mpr ⟨fields, echoed, serverReceived, serverTransmitted, rfl, first, second, third⟩
  have sameFields : fieldsOf (.obj fields) = fields := rfl
  cases found : state.unanswered.find? fun item => item.2 == echoed with
  | none => simp [serverTimeTurn, readTurn, clean, sameFields, first, int_value_of_int, found]
  | some item =>
      by_cases ordered : serverReceived ≤ serverTransmitted
      · simp [serverTimeTurn, readTurn, clean, sameFields, first, second, third, int_value_of_int, found, ordered,
          Int.not_lt.mpr ordered]
      · simp [serverTimeTurn, clean, sameFields, first, second, third, int_value_of_int, found, ordered,
          Int.not_le.mp ordered]

theorem server_time_turn_reads (state : TimeState) (payload : Json) (next : TimeState) :
    serverTimeTurn state payload = .ok next ↔
      ∃ echoed, serverTime payload = some echoed ∧ readTurn state (.reply echoed) = .ok next := by
  constructor
  · intro turned
    have clean : serverTimeDefects payload = [] := by
      by_contra defective
      simp [serverTimeTurn, defective] at turned
    obtain ⟨fields, echoed, serverReceived, serverTransmitted, rfl, first, second, third⟩ :=
      (server_time_defects_none payload).mp clean
    obtain ⟨ordered, read⟩ := (server_time_turn_clean state fields echoed _ _ first second third next).mp turned
    exact ⟨echoed, (server_time_some _ echoed).mpr ⟨fields, _, _, rfl, first, second, third, ordered⟩, read⟩
  · rintro ⟨echoed, seen, read⟩
    obtain ⟨fields, serverReceived, serverTransmitted, rfl, first, second, third, ordered⟩ :=
      (server_time_some payload echoed).mp seen
    exact (server_time_turn_clean state fields echoed _ _ first second third next).mpr ⟨ordered, read⟩

theorem time_turn_reads (state : TimeState) (entry : Json) (next : TimeState) :
    timeTurn state entry = .ok next ↔ ∃ read, timeEntry entry = some read ∧ readTurn state read = .ok next := by
  cases entry with
  | obj fields =>
      by_cases other : (getKey fields "type").eqStr "other-sent" = true
      · simp [timeTurn, timeEntry, fieldsOf, other, readTurn]
      · by_cases client : (getKey fields "type").eqStr "client/time" = true
        · simp [timeTurn, timeEntry, fieldsOf, other, client, client_time_turn_reads]
        · by_cases server : (getKey fields "type").eqStr "server/time" = true
          · simp [timeTurn, timeEntry, fieldsOf, other, client, server, server_time_turn_reads]
          · simp [timeTurn, timeEntry, fieldsOf, other, client, server]
  | _ => simp [timeTurn, timeEntry, fieldsOf, getKey, Json.eqStr]

end Conformance.Protocol
