import SendspinConformance.Harness.SummariesPass

set_option autoImplicit false

namespace Conformance.Comparison

open Python Harness

section

variable [UnicodeData]

omit [UnicodeData] in
theorem distinct_none (values : List Json) : distinctValues values = [] ↔ values = [] := by
  rw [distinctValues]
  cases values with
  | nil => simp
  | cons first rest =>
      have kept : ∀ (rest seen : List Json), seen ≠ [] →
          rest.foldl (fun seen value => if seen.any (sameItem · value) then seen else seen ++ [value]) seen ≠ [] := by
        intro rest
        induction rest with
        | nil => exact fun _ some => some
        | cons value rest ih =>
            intro seen some
            apply ih
            by_cases known : seen.any (sameItem · value) = true
            · simpa [known] using some
            · simp [known]
      simpa using kept rest [first] (by simp)

-- Every value of the one is in the other.
def Within (values others : List Json) : Prop :=
  ∀ value ∈ values, ∃ other ∈ others, sameItem other value = true

omit [UnicodeData] in
theorem minus_none (values others : List Json) : setMinus values others = [] ↔ Within values others := by
  rw [setMinus, distinct_none, List.filter_eq_nil_iff, Within]
  simp

def Hashable (values : List Json) : Prop := hashable values = .ok ()

theorem field_failure_none (serverController receivedState : Fields) (field : String) :
    controllerFieldFailure serverController receivedState field = none ↔
      hasKey receivedState field = true ∧
        pyEqual (getKey serverController field) (getKey receivedState field) = true := by
  rw [controllerFieldFailure]
  cases hasKey receivedState field <;>
    cases pyEqual (getKey serverController field) (getKey receivedState field) <;> simp

variable [SetOrder]

omit [UnicodeData] in
theorem sorted_none (values : List Json) : sortedValues values = .ok [] ↔ values = [] := by
  rw [sortedValues]
  constructor
  · intro listed
    cases texts : values.mapM Json.asStr with
    | none =>
        rw [texts] at listed
        exact List.nil_perm.mp (SetOrder.kept values [] listed)
    | some read =>
        rw [texts] at listed
        have none_read : read = [] := by
          have ordered := List.map_eq_nil_iff.mp (Except.ok.inj listed)
          exact List.nil_perm.mp (ordered ▸ List.perm_insertionSort (· ≤ ·) read)
        subst none_read
        cases values with
        | nil => rfl
        | cons value rest => simp [Option.bind_eq_some_iff] at texts
  · rintro rfl
    rfl

structure CommandsAgree (serverController receivedState : Fields) (advertised observed : List Json) : Prop where
  offered : getKey serverController "supported_commands" = .arr advertised
  seen : getKey receivedState "supported_commands" = .arr observed
  advertisedHash : Hashable advertised
  observedHash : Hashable observed
  observedAll : Within advertised observed
  advertisedAll : Within observed advertised

omit [UnicodeData] [SetOrder] in
theorem key_present (fields : Fields) (key : String) (items : List Json) (found : getKey fields key = .arr items) :
    hasKey fields key = true := by
  by_contra absent
  rw [get_key_absent fields key (by simpa using absent)] at found
  cases found

omit [SetOrder] in
theorem details_none (first second : String) (unobserved unadvertised : List Json) :
    (setDetail first unobserved ++ setDetail second unadvertised).isEmpty = true ↔
      unobserved = [] ∧ unadvertised = [] := by
  cases unobserved <;> cases unadvertised <;> simp [setDetail]

theorem commands_failure_none (serverController receivedState : Fields) :
    supportedCommandsFailure serverController receivedState = .ok none ↔
      ∃ advertised observed, CommandsAgree serverController receivedState advertised observed := by
  rw [supportedCommandsFailure]
  constructor
  · intro passed
    cases offered : getKey serverController "supported_commands" with
    | arr advertised =>
        simp only [offered] at passed
        cases present : hasKey receivedState "supported_commands" with
        | false => simp [present] at passed
        | true =>
            cases seen : getKey receivedState "supported_commands" with
            | arr observed =>
                simp only [present, Bool.not_true, Bool.false_eq_true, if_false, seen, py_bind_ok] at passed
                obtain ⟨_, advertisedHash, _, observedHash, unobserved, listed, unadvertised, others, passed⟩ := passed
                by_cases agree : (setDetail "advertised but not observed: " unobserved ++
                    setDetail "observed but not advertised: " unadvertised).isEmpty = true
                · obtain ⟨rfl, rfl⟩ := (details_none _ _ _ _).mp agree
                  exact ⟨advertised, observed, offered, seen, advertisedHash, observedHash,
                    (minus_none _ _).mp ((sorted_none _).mp listed), (minus_none _ _).mp ((sorted_none _).mp others)⟩
                · simp [agree] at passed
            | _ => simp [present, seen] at passed
    | _ => simp [offered] at passed
  · rintro ⟨advertised, observed, agree⟩
    have unobserved := (sorted_none _).mpr ((minus_none _ _).mpr agree.observedAll)
    have unadvertised := (sorted_none _).mpr ((minus_none _ _).mpr agree.advertisedAll)
    simp only [agree.offered, key_present _ _ _ agree.seen, Bool.not_true, Bool.false_eq_true, if_false, agree.seen,
      py_bind_ok]
    exact ⟨(), agree.advertisedHash, (), agree.observedHash, [], unobserved, [], unadvertised, by simp [setDetail]⟩

-- Both sides saw the command the server expected, and the client knows the state the server holds.
structure ControllerMatches (serverSummary clientSummary : Fields) : Prop where
  command : ∃ expected received sent, Says serverSummary "controller" "expected_command" expected ∧
    Says serverSummary "controller" "received_command" received ∧
    Says clientSummary "controller" "sent_command" sent ∧ received ≠ .null ∧ sent ≠ .null ∧
    pyEqual expected received = true ∧ pyEqual received sent = true
  state : ∃ serverController receivedState, sectionOf serverSummary "controller" = .obj serverController ∧
    Says clientSummary "controller" "received_state" (.obj receivedState) ∧
    (∀ field ∈ controllerFields, hasKey receivedState field = true ∧
      pyEqual (getKey serverController field) (getKey receivedState field) = true) ∧
    ∃ advertised observed, CommandsAgree serverController receivedState advertised observed ∧
      observed.any (sameItem · (commandNameOf (getKey serverController "expected_command"))) = true

omit [UnicodeData] [SetOrder] in
theorem is_null_iff (value : Json) : value.isNull = true ↔ value = .null := by
  cases value <;> simp [Json.isNull]

theorem controller_passes (serverController receivedState : Fields) (expected : Json) :
    Succeeds (controllerVerdict serverController receivedState expected) ↔
      (∀ field ∈ controllerFields, hasKey receivedState field = true ∧
        pyEqual (getKey serverController field) (getKey receivedState field) = true) ∧
      ∃ advertised observed, CommandsAgree serverController receivedState advertised observed ∧
        observed.any (sameItem · (commandNameOf expected)) = true := by
  have fields : controllerFields.findSome? (controllerFieldFailure serverController receivedState) = none ↔
      ∀ field ∈ controllerFields, hasKey receivedState field = true ∧
        pyEqual (getKey serverController field) (getKey receivedState field) = true := by
    simp only [List.findSome?_eq_none_iff, field_failure_none]
  rw [controllerVerdict, ← fields]
  cases controllerFields.findSome? (controllerFieldFailure serverController receivedState) with
  | some failure => simp [succeeds_failed]
  | none =>
      simp only [true_and, succeeds_bind]
      constructor
      · rintro ⟨failure, agreed, passed⟩
        cases failure with
        | some failure => exact absurd passed (succeeds_failed _)
        | none =>
            obtain ⟨advertised, observed, agree⟩ := (commands_failure_none _ _).mp agreed
            simp only [agree.seen, succeeds_if] at passed
            exact ⟨advertised, observed, agree, passed⟩
      · rintro ⟨advertised, observed, agree, listed⟩
        refine ⟨none, (commands_failure_none _ _).mpr ⟨advertised, observed, agree⟩, ?_⟩
        simp only [agree.seen, succeeds_if]
        exact listed

theorem compare_controller_passes (serverSummary clientSummary : Fields) :
    Succeeds (compareControllerSummaries serverSummary clientSummary) ↔
      StatusesOk serverSummary clientSummary ∧ ControllerMatches serverSummary clientSummary := by
  rw [compareControllerSummaries, succeeds_statuses]
  refine and_congr_right fun _ => ?_
  simp only [succeeds_bind, says_iff, succeeds_unless, is_null_iff]
  constructor
  · rintro ⟨expected, isExpected, received, isReceived, sent, isSent, some_received, some_sent, same, state, isState, passed⟩
    have ⟨serverController, onServer, atExpected⟩ := isExpected
    simp only [onServer] at passed
    cases state with
    | obj receivedState =>
        rw [controller_passes, ← atExpected] at passed
        simp only [Bool.not_eq_true', Bool.not_eq_false, Bool.and_eq_true] at same
        exact ⟨⟨expected, received, sent, isExpected, isReceived, isSent, some_received, some_sent, same.1, same.2⟩,
          ⟨serverController, receivedState, onServer, isState, passed⟩⟩
    | _ => exact absurd passed (succeeds_failed _)
  · rintro ⟨⟨expected, received, sent, isExpected, isReceived, isSent, some_received, some_sent, first, second⟩,
      serverController, receivedState, onServer, isState, agree⟩
    refine ⟨expected, isExpected, received, isReceived, sent, isSent, some_received, some_sent, by simp [first, second],
      .obj receivedState, isState, ?_⟩
    have atExpected := (says_section _ _ _ _ onServer _).mp isExpected
    simp only [onServer]
    rw [controller_passes, ← atExpected]
    exact agree

end

section

variable [UnicodeData]

theorem format_label_of (format : Fields) : ∃ label, formatLabel (.obj format) = .ok label := by
  rw [formatLabel]
  cases (Json.obj format).truthy <;> exact ⟨_, rfl⟩

theorem format_label_plain (format : Json) (plain : format.isObj = false) :
    (∃ label, formatLabel format = .ok label) ↔ format.truthy = false := by
  cases holds : format.truthy with
  | false => simp [formatLabel, holds]
  | true =>
      cases format with
      | obj => cases plain
      | _ => simp [formatLabel, holds, getField, bind, Except.bind]

-- The client started out with another format than the final one, or recorded none.
def MovedTo (final : Fields) : Json → Prop
  | .obj initial => formatsEqual initial final = false
  | initial => initial.truthy = false

-- The server moved the stream to the format the client asked for, and the client saw it move.
structure Renegotiated (serverSummary renegotiation requested : Fields) : Prop where
  started : ∃ count, countIn (getKey renegotiation "stream_start_count") = .ok count ∧ 2 ≤ count
  observed : ∃ final, getKey renegotiation "final_format" = .obj final ∧ formatMatches final requested = true ∧
    MovedTo final (getKey renegotiation "initial_format")
  applied : ∃ sent, getKey serverSummary "stream" = .obj sent ∧ formatMatches sent requested = true

-- The server received the preference of the scenario, which is the one the client reports, and acted on it.
def FormatPreferred (scenarioId : String) (serverSummary clientSummary : Fields) : Prop :=
  ∃ preference received target renegotiation requested,
    getKey serverSummary "format_preference" = .obj preference ∧ getKey preference "received" = .obj received ∧
    formatPreferenceTarget scenarioId = .ok target ∧ formatMatches received target = true ∧
    getKey clientSummary "renegotiation" = .obj renegotiation ∧ getKey renegotiation "requested" = .obj requested ∧
    formatMatches received requested = true ∧ Renegotiated serverSummary renegotiation requested

omit [UnicodeData] in
theorem unchanged_fails (serverApplied : Bool) (requested counted : String) :
    ¬Succeeds (.ok (renegotiationVerdict.unchangedVerdict serverApplied requested counted)) := by
  cases serverApplied <;> exact succeeds_failed _

theorem final_passes (initial : Json) (final : Fields) :
    Succeeds (movedVerdict initial final) ↔ MovedTo final initial := by
  obtain ⟨label, labelled⟩ := format_label_of final
  cases initial with
  | obj initial =>
      obtain ⟨initialLabel, initialLabelled⟩ := format_label_of initial
      simp only [movedVerdict, MovedTo, labelled, initialLabelled]
      cases formatsEqual initial final with
      | true => simpa [bind, Except.bind] using succeeds_failed _
      | false => simpa [bind, Except.bind] using succeeds_passed _
  | _ =>
      simp only [MovedTo]
      rw [← format_label_plain _ rfl]
      simp only [movedVerdict, labelled, succeeds_bind]
      constructor
      · rintro ⟨label, given, _⟩
        exact ⟨label, given⟩
      · rintro ⟨label, given⟩
        exact ⟨label, given, _, rfl, succeeds_passed _⟩

-- What follows once the stream is seen to have started twice
theorem renegotiation_final (serverSummary renegotiation requested final : Fields) (count : Int)
    (counted : countIn (getKey renegotiation "stream_start_count") = .ok count) (twice : 2 ≤ count)
    (isFinal : getKey renegotiation "final_format" = .obj final) :
    Succeeds (renegotiationVerdict serverSummary renegotiation requested) ↔
      formatMatches final requested = true ∧
      (∃ sent, getKey serverSummary "stream" = .obj sent ∧ formatMatches sent requested = true) ∧
      MovedTo final (getKey renegotiation "initial_format") := by
  obtain ⟨requestedLabel, labelled⟩ := format_label_of requested
  obtain ⟨finalLabel, finalLabelled⟩ := format_label_of final
  rw [← final_passes]
  simp only [renegotiationVerdict, labelled, counted, finalLabelled, isFinal, bind, Except.bind,
    if_neg (show ¬count < 2 by omega)]
  cases formatMatches final requested with
  | false => simp [succeeds_failed]
  | true =>
      cases isSent : getKey serverSummary "stream" with
      | obj sent =>
          obtain ⟨sentLabel, sentLabelled⟩ := format_label_of sent
          cases applied : formatMatches sent requested <;> simp [applied, succeeds_failed, Json.isObj, sentLabelled]
      | _ => simp [succeeds_failed, Json.isObj, formatLabel, Json.truthy]

theorem renegotiation_passes (serverSummary renegotiation requested : Fields) :
    Succeeds (renegotiationVerdict serverSummary renegotiation requested) ↔
      Renegotiated serverSummary renegotiation requested := by
  constructor
  · intro passed
    obtain ⟨count, counted, twice, final, isFinal⟩ : ∃ count,
        countIn (getKey renegotiation "stream_start_count") = .ok count ∧ 2 ≤ count ∧
          ∃ final, getKey renegotiation "final_format" = .obj final := by
      obtain ⟨requestedLabel, labelled⟩ := format_label_of requested
      simp only [renegotiationVerdict, labelled, succeeds_bind] at passed
      obtain ⟨count, counted, _, _, passed⟩ := passed
      cases isFinal : getKey renegotiation "final_format" with
      | obj final =>
          refine ⟨count, counted, ?_, final, rfl⟩
          by_contra once
          simp only [isFinal, if_pos (show count < 2 by omega)] at passed
          exact unchanged_fails _ _ _ passed
      | _ =>
          rw [isFinal] at passed
          exact absurd passed (unchanged_fails _ _ _)
    obtain ⟨matched, applied, moved⟩ := (renegotiation_final _ _ _ final count counted twice isFinal).mp passed
    exact ⟨⟨count, counted, twice⟩, ⟨final, isFinal, matched, moved⟩, applied⟩
  · rintro ⟨⟨count, counted, twice⟩, ⟨final, isFinal, matched, moved⟩, applied⟩
    exact (renegotiation_final _ _ _ final count counted twice isFinal).mpr ⟨matched, applied, moved⟩

theorem requested_passes (serverSummary clientSummary received : Fields) :
    Succeeds (requestedVerdict serverSummary clientSummary received) ↔ ∃ renegotiation requested,
      getKey clientSummary "renegotiation" = .obj renegotiation ∧ getKey renegotiation "requested" = .obj requested ∧
      formatMatches received requested = true ∧ Renegotiated serverSummary renegotiation requested := by
  rw [requestedVerdict]
  cases isRenegotiation : getKey clientSummary "renegotiation" with
  | obj renegotiation =>
      simp only [Json.obj.injEq, exists_and_left, exists_eq_left']
      cases isRequested : getKey renegotiation "requested" with
      | obj requested =>
          obtain ⟨receivedLabel, labelled⟩ := format_label_of received
          obtain ⟨requestedLabel, requestedLabelled⟩ := format_label_of requested
          cases matched : formatMatches received requested with
          | false => simp [matched, labelled, requestedLabelled, bind, Except.bind, succeeds_failed]
          | true => simp [matched, renegotiation_passes]
      | _ => simp [succeeds_failed]
  | _ => simp [succeeds_failed]

theorem compare_preference_passes (scenarioId : String) (serverSummary clientSummary : Fields) :
    Succeeds (compareFormatPreferenceSummaries scenarioId serverSummary clientSummary) ↔
      StatusesOk serverSummary clientSummary ∧ FormatPreferred scenarioId serverSummary clientSummary := by
  rw [compareFormatPreferenceSummaries, succeeds_statuses]
  refine and_congr_right fun _ => ?_
  cases isPreference : getKey serverSummary "format_preference" with
  | obj preference =>
      cases isReceived : getKey preference "received" with
      | obj received =>
          obtain ⟨label, labelled⟩ := format_label_of received
          simp only [FormatPreferred, isPreference, isReceived, Json.obj.injEq, exists_and_left, exists_eq_left',
            succeeds_bind]
          refine exists_congr fun target => and_congr_right fun _ => ?_
          cases formatMatches received target with
          | false => simp [labelled, bind, Except.bind, succeeds_failed]
          | true => simp [requested_passes]
      | _ => simp [FormatPreferred, isPreference, isReceived, succeeds_failed]
  | _ => simp [FormatPreferred, isPreference, succeeds_failed]

end

end Conformance.Comparison
