import SendspinConformance.Protocol.GateBrackets

set_option autoImplicit false

namespace Conformance.Protocol

open Python Base

-- A trace one of whose brackets reaches further than before: its `sending` moved
-- earlier, or its `sent` later, past client/state entries.
inductive Widened : List Json → List Json → Prop where
  | sendingEarlier (before states after : List Json) (sending roles : Json)
      (phase : gateEntry sending = some (.sending, roles))
      (areStates : ∀ state ∈ states, ∃ available, gateEntry state = some (.clientState, available)) :
      Widened (before ++ (states ++ sending :: after)) (before ++ sending :: (states ++ after))
  | sentLater (before states after : List Json) (sent roles : Json)
      (phase : gateEntry sent = some (.sent, roles))
      (areStates : ∀ state ∈ states, ∃ available, gateEntry state = some (.clientState, available)) :
      Widened (before ++ sent :: (states ++ after)) (before ++ (states ++ sent :: after))

def anyAvailable (entries : List GateEntry) : Bool := entries.any fun entry => entry.2.isTrue

def afterStates (entries : List GateEntry) (state : GateState) : GateState :=
  { state with
    latest := (latestState entries).orElse fun _ => state.latest
    availableInFlight := state.availableInFlight.map (· || anyAvailable entries) }

theorem latest_state_true (entries : List GateEntry) (states : StatesOnly entries)
    (latest : latestIsTrue (latestState entries) = true) : anyAvailable entries = true := by
  induction entries with
  | nil => simp [latestState, latestIsTrue] at latest
  | cons entry rest ih =>
      obtain ⟨kind, value⟩ := entry
      have isState : kind = .clientState := states (kind, value) List.mem_cons_self
      subst isState
      have restStates : StatesOnly rest := fun entry member => states entry (List.mem_cons_of_mem _ member)
      cases tail : latestState rest with
      | none =>
          have value : value.isTrue = true := by simpa [latestState, tail, latestIsTrue] using latest
          simp [anyAvailable, value]
      | some last =>
          have restTrue : latestIsTrue (latestState rest) = true := by simpa [latestState, tail] using latest
          simpa [anyAvailable] using Or.inr (List.any_eq_true.mp (ih restStates restTrue))

theorem read_states (states : List Json) (entries : List GateEntry) (read : states.mapM gateEntry = some entries)
    (areStates : ∀ state ∈ states, ∃ available, gateEntry state = some (.clientState, available)) :
    StatesOnly entries := by
  induction states generalizing entries with
  | nil =>
      have empty : entries = [] := by simpa [eq_comm] using read
      simp [empty, StatesOnly]
  | cons state rest ih =>
      obtain ⟨first, others, readFirst, readRest, rfl⟩ := (map_all_cons gateEntry state rest entries).mp read
      obtain ⟨available, isState⟩ := areStates state List.mem_cons_self
      have same : first = (.clientState, available) := Option.some.inj (readFirst.symm.trans isState)
      intro entry member
      rcases List.mem_cons.mp member with rfl | later
      · rw [same]
      · exact ih others readRest (fun state inside => areStates state (List.mem_cons_of_mem _ inside)) entry later

variable [UnicodeData]

theorem states_run (entries : List GateEntry) (states : StatesOnly entries) (state : GateState) :
    entries.foldlM gateStep state = .ok (afterStates entries state) := by
  induction entries generalizing state with
  | nil =>
      obtain ⟨latest, held, flight, starts⟩ := state
      cases flight <;> simp [afterStates, latestState, anyAvailable, pure, Except.pure]
  | cons entry rest ih =>
      obtain ⟨kind, value⟩ := entry
      have isState : kind = .clientState := states (kind, value) List.mem_cons_self
      subst isState
      rw [List.foldlM_cons]
      change rest.foldlM gateStep _ = _
      rw [ih fun entry member => states entry (List.mem_cons_of_mem _ member)]
      cases latestState rest <;> cases flight : state.availableInFlight <;>
        simp [afterStates, latestState, anyAvailable, *, Bool.or_assoc]

-- The second state is at least as lenient about the bracket in flight.
def MoreLenient (left right : GateState) : Prop :=
  left.latest = right.latest ∧ left.streamStarts = right.streamStarts ∧
    (left.availableInFlight = none ∧ right.availableInFlight = none ∨
      ∃ strict lenient, left.availableInFlight = some strict ∧ right.availableInFlight = some lenient ∧
        (strict = true → lenient = true))

theorem more_lenient_step (left right : GateState) (entry : GateEntry) (next : GateState)
    (related : MoreLenient left right) (stepped : gateStep left entry = .ok next) :
    ∃ moved, gateStep right entry = .ok moved ∧ MoreLenient next moved := by
  obtain ⟨latest, starts, flight⟩ := related
  obtain ⟨kind, value⟩ := entry
  cases kind with
  | clientState =>
      refine ⟨_, rfl, ?_⟩
      rw [← Except.ok.inj stepped]
      refine ⟨rfl, starts, ?_⟩
      rcases flight with ⟨leftNone, rightNone⟩ | ⟨strict, lenient, leftSome, rightSome, implied⟩
      · exact .inl ⟨by simp [leftNone], by simp [rightNone]⟩
      · refine .inr ⟨strict || value.isTrue, lenient || value.isTrue, by simp [leftSome], by simp [rightSome], ?_⟩
        cases strict <;> simp_all
  | sending =>
      refine ⟨_, rfl, ?_⟩
      rw [← Except.ok.inj stepped]
      exact ⟨latest, starts, .inr ⟨_, _, rfl, rfl, by rw [latest]; exact id⟩⟩
  | sent =>
      rcases flight with ⟨leftNone, _⟩ | ⟨strict, lenient, leftSome, rightSome, implied⟩
      · simp [gateStep, leftNone] at stepped
      · cases strict with
        | false => simp [gateStep, leftSome] at stepped
        | true =>
            rw [implied rfl] at rightSome
            have same : next = { left with availableInFlight := none, streamStarts := left.streamStarts + 1 } := by
              simpa [gateStep, leftSome, eq_comm] using stepped
            refine ⟨{ right with availableInFlight := none, streamStarts := right.streamStarts + 1 }, ?_, ?_⟩
            · simp [gateStep, rightSome]
            · rw [same]
              exact ⟨latest, by rw [starts], .inl ⟨rfl, rfl⟩⟩

theorem more_lenient_verdict (entries : List GateEntry) (left right : GateState) (related : MoreLenient left right)
    (final : GateState) (ran : entries.foldlM gateStep left = .ok final) (starts : final.streamStarts ≠ 0) :
    ∃ last, entries.foldlM gateStep right = .ok last ∧ last.streamStarts ≠ 0 := by
  obtain ⟨last, lastRun, lastRel⟩ :=
    run_simulation gateStep gateStep MoreLenient more_lenient_step entries left final right related ran
  exact ⟨last, lastRun, by rw [← lastRel.2.1]; exact starts⟩

theorem gate_verdict_none (entries : List GateEntry) :
    gateVerdict entries = none ↔ ∃ final, entries.foldlM gateStep gateStart = .ok final ∧ final.streamStarts ≠ 0 := by
  cases ran : entries.foldlM gateStep gateStart with
  | ok final => by_cases zero : final.streamStarts = 0 <;> simp [gateVerdict, ran, zero]
  | error reason => simp [gateVerdict, ran]

theorem sending_earlier (before states after : List GateEntry) (roles : Json) (areStates : StatesOnly states)
    (passes : gateVerdict (before ++ (states ++ (.sending, roles) :: after)) = none) :
    gateVerdict (before ++ (.sending, roles) :: (states ++ after)) = none := by
  rw [gate_verdict_none] at passes ⊢
  obtain ⟨final, ran, starts⟩ := passes
  rw [run_append] at ran ⊢
  cases first : before.foldlM gateStep gateStart with
  | error reason => simp [first, Except.bind] at ran
  | ok state =>
      simp only [first, Except.bind, run_append, states_run states areStates, List.foldlM_cons] at ran ⊢
      refine more_lenient_verdict after _ _ ?_ final ran starts
      refine ⟨rfl, rfl, .inr ⟨_, _, rfl, rfl, ?_⟩⟩
      intro strict
      cases latest : latestState states with
      | none => simp [afterStates, latest] at strict; simp [strict]
      | some value =>
          have seen : latestIsTrue (latestState states) = true := by simpa [afterStates, latest] using strict
          simp [latest_state_true states areStates seen]

theorem sent_later (before states after : List GateEntry) (roles : Json) (areStates : StatesOnly states)
    (passes : gateVerdict (before ++ (.sent, roles) :: (states ++ after)) = none) :
    gateVerdict (before ++ (states ++ (.sent, roles) :: after)) = none := by
  rw [gate_verdict_none] at passes ⊢
  obtain ⟨final, ran, starts⟩ := passes
  rw [run_append] at ran ⊢
  cases first : before.foldlM gateStep gateStart with
  | error reason => simp [first, Except.bind] at ran
  | ok state =>
      cases flight : state.availableInFlight with
      | none => simp [first, Except.bind, List.foldlM_cons, gateStep, flight, bind] at ran
      | some available =>
          cases available with
          | false => simp [first, Except.bind, List.foldlM_cons, gateStep, flight, bind] at ran
          | true =>
              refine ⟨final, ?_, starts⟩
              rw [← ran]
              simp [first, Except.bind, List.foldlM_cons, gateStep, flight, bind, states_run states areStates,
                afterStates]

theorem widened_passes (trace wider : List Json) (widened : Widened trace wider) (entries : List GateEntry)
    (read : trace.mapM gateEntry = some entries) (passes : gateVerdict entries = none) :
    ∃ widerEntries, wider.mapM gateEntry = some widerEntries ∧ gateVerdict widerEntries = none := by
  cases widened with
  | sendingEarlier before states after sending roles phase areStates =>
      obtain ⟨left, tail, readLeft, readTail, rfl⟩ := (map_all_append gateEntry _ _ _).mp read
      obtain ⟨middle, rest, readStates, readRest, rfl⟩ := (map_all_append gateEntry _ _ _).mp readTail
      obtain ⟨start, last, readStart, readLast, rfl⟩ := (map_all_cons gateEntry _ _ _).mp readRest
      have same : start = (.sending, roles) := Option.some.inj (readStart.symm.trans phase)
      subst same
      refine ⟨left ++ (.sending, roles) :: (middle ++ last), ?_,
        sending_earlier left middle last roles (read_states states middle readStates areStates) passes⟩
      simp [List.mapM_append, List.mapM_cons, readLeft, readStates, readStart, readLast]
  | sentLater before states after sent roles phase areStates =>
      obtain ⟨left, tail, readLeft, readTail, rfl⟩ := (map_all_append gateEntry _ _ _).mp read
      obtain ⟨start, rest, readStart, readRest, rfl⟩ := (map_all_cons gateEntry _ _ _).mp readTail
      obtain ⟨middle, last, readStates, readLast, rfl⟩ := (map_all_append gateEntry _ _ _).mp readRest
      have same : start = (.sent, roles) := Option.some.inj (readStart.symm.trans phase)
      subst same
      refine ⟨left ++ (middle ++ (.sent, roles) :: last), ?_,
        sent_later left middle last roles (read_states states middle readStates areStates) passes⟩
      simp [List.mapM_append, List.mapM_cons, readLeft, readStates, readStart, readLast]

theorem stream_start_gate_none (serverSummary : Fields) :
    streamStartGateViolation serverSummary = none ↔
      ∃ trace entries, getKey serverSummary "availability_trace" = .arr trace ∧
        trace.mapM gateEntry = some entries ∧ GatePasses entries := by
  rw [streamStartGateViolation]
  cases summary : getKey serverSummary "availability_trace" with
  | arr trace =>
      cases read : trace.mapM gateEntry with
      | none => simp [gateEntries, read]
      | some entries => simp [gateEntries, read, gate_verdict_none_iff]
  | _ => simp [gateEntries]

theorem stream_start_gate_offence (serverSummary : Fields) (reason : String)
    (violated : streamStartGateViolation serverSummary = some reason) (noGap : hasPrefix harnessGap reason = false) :
    ∃ trace before roles after pre between, getKey serverSummary "availability_trace" = .arr trace ∧
      trace.mapM gateEntry = some (before ++ (.sent, roles) :: after) ∧ AllSentPass before ∧
      Opened before pre between ∧ ¬ Witnessed pre between ∧ reason = gateViolationReason (latestState pre) roles := by
  rw [streamStartGateViolation] at violated
  cases read : gateEntries (getKey serverSummary "availability_trace") with
  | none =>
      have same : gateUnrecorded = reason := by simpa [read] using violated
      rw [← same, gate_gap_reasons.1] at noGap
      contradiction
  | some entries =>
      obtain ⟨before, roles, after, pre, between, rfl, passed, opened, unseen, named⟩ :=
        first_offence entries reason (by simpa [read] using violated) noGap
      cases summary : getKey serverSummary "availability_trace" with
      | arr trace =>
          rw [summary] at read
          exact ⟨trace, before, roles, after, pre, between, rfl, read, passed, opened, unseen, named⟩
      | _ => simp [summary, gateEntries] at read

-- The gate's verdict, the party its reason names first, and what widening a bracket does.
theorem stream_start_gate_judged :
    (∀ serverSummary : Fields, streamStartGateViolation serverSummary = none ↔
      ∃ trace entries, getKey serverSummary "availability_trace" = .arr trace ∧
        trace.mapM gateEntry = some entries ∧ GatePasses entries) ∧
    (∀ (serverSummary : Fields) (reason : String), streamStartGateViolation serverSummary = some reason →
      hasPrefix harnessGap reason = false →
      ∃ trace before roles after pre between, getKey serverSummary "availability_trace" = .arr trace ∧
        trace.mapM gateEntry = some (before ++ (.sent, roles) :: after) ∧ AllSentPass before ∧
        Opened before pre between ∧ ¬ Witnessed pre between ∧ reason = gateViolationReason (latestState pre) roles ∧
        (hasPrefix "Server sent" reason = true ↔ latestState pre = none ∨ latestState pre = some (.bool false)) ∧
        (hasPrefix "Client sent" reason = true ↔
          ¬ (latestState pre = none ∨ latestState pre = some (.bool false)))) ∧
    (∀ (serverSummary widerSummary : Fields) (trace wider : List Json),
      getKey serverSummary "availability_trace" = .arr trace →
      getKey widerSummary "availability_trace" = .arr wider → Widened trace wider →
      streamStartGateViolation serverSummary = none → streamStartGateViolation widerSummary = none) := by
  refine ⟨stream_start_gate_none, ?_, ?_⟩
  · intro serverSummary reason violated noGap
    obtain ⟨trace, before, roles, after, pre, between, summary, read, passed, opened, unseen, named⟩ :=
      stream_start_gate_offence serverSummary reason violated noGap
    refine ⟨trace, before, roles, after, pre, between, summary, read, passed, opened, unseen, named, ?_⟩
    rw [named]
    by_cases server : latestState pre = none ∨ latestState pre = some (.bool false)
    · have startsServer := violation_reason_server (latestState pre) roles server
      refine ⟨by simp [startsServer, server], ?_⟩
      simp only [server, not_true_eq_false, iff_false]
      intro startsClient
      rw [client_not_server _ startsClient] at startsServer
      contradiction
    · have startsClient := violation_reason_client (latestState pre) roles
        (fun none => server (.inl none)) (fun notFalse => server (.inr notFalse))
      exact ⟨by simp [client_not_server _ startsClient, server], by simp [startsClient, server]⟩
  · intro serverSummary widerSummary trace wider summary widerSame widened passes
    obtain ⟨sameTrace, entries, same, read, gatePasses⟩ := (stream_start_gate_none serverSummary).mp passes
    rw [summary] at same
    have traceEq : trace = sameTrace := Json.arr.inj same
    subst traceEq
    obtain ⟨widerEntries, readWider, widerPasses⟩ := widened_passes trace wider widened entries read
      ((gate_verdict_none_iff entries).mpr gatePasses)
    exact (stream_start_gate_none widerSummary).mpr
      ⟨wider, widerEntries, widerSame, readWider, (gate_verdict_none_iff widerEntries).mp widerPasses⟩

end Conformance.Protocol
