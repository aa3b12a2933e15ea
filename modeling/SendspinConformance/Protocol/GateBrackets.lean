import SendspinConformance.Base.Runs
import SendspinConformance.Protocol.Gate

set_option autoImplicit false

namespace Conformance.Protocol

open Python Base

-- What the gate asks of a trace, read as a whole: the `sent` entries, the `sending`
-- each of them closes, and the states around that bracket.
def latestState : List GateEntry → Option Json
  | [] => none
  | (.clientState, value) :: rest => some ((latestState rest).getD value)
  | (_, _) :: rest => latestState rest

def StatesOnly (entries : List GateEntry) : Prop := ∀ entry ∈ entries, entry.1 = .clientState

-- The nearest stream/start entry of `before` is a `sending`, with only states after it.
def Opened (before pre between : List GateEntry) : Prop :=
  ∃ roles, before = pre ++ (.sending, roles) :: between ∧ StatesOnly between

def Witnessed (pre between : List GateEntry) : Prop :=
  latestState pre = some (.bool true) ∨ (.clientState, .bool true) ∈ between

def SentPasses (before : List GateEntry) : Prop := ∃ pre between, Opened before pre between ∧ Witnessed pre between

def AllSentPass (entries : List GateEntry) : Prop :=
  ∀ before roles after, entries = before ++ (.sent, roles) :: after → SentPasses before

def GatePasses (entries : List GateEntry) : Prop :=
  (∃ roles, (.sent, roles) ∈ entries) ∧ AllSentPass entries

theorem latest_state_append (first second : List GateEntry) :
    latestState (first ++ second) = (latestState second).orElse fun _ => latestState first := by
  induction first with
  | nil => cases found : latestState second <;> simp [latestState, found]
  | cons entry rest ih =>
      obtain ⟨kind, value⟩ := entry
      cases kind with
      | clientState =>
          simp only [List.cons_append, latestState, ih]
          cases latestState second <;> simp
      | sending => simpa only [List.cons_append, latestState] using ih
      | sent => simpa only [List.cons_append, latestState] using ih

theorem latest_state_snoc_state (done : List GateEntry) (value : Json) :
    latestState (done ++ [(.clientState, value)]) = some value := by
  simp [latest_state_append, latestState]

theorem latest_state_snoc_start (done : List GateEntry) (kind : GateKind) (value : Json)
    (start : kind ≠ .clientState) : latestState (done ++ [(kind, value)]) = latestState done := by
  cases kind with
  | clientState => exact absurd rfl start
  | sending => simp [latest_state_append, latestState]
  | sent => simp [latest_state_append, latestState]

theorem latest_is_true_iff (latest : Option Json) : latestIsTrue latest = true ↔ latest = some (.bool true) := by
  cases latest with
  | none => simp [latestIsTrue]
  | some value => simp [latestIsTrue, Json.is_true_iff]

theorem opened_snoc_state (done pre between : List GateEntry) (value : Json) (opened : Opened done pre between) :
    Opened (done ++ [(.clientState, value)]) pre (between ++ [(.clientState, value)]) := by
  obtain ⟨roles, split, states⟩ := opened
  refine ⟨roles, by simp [split], ?_⟩
  intro entry member
  rcases List.mem_append.mp member with earlier | last
  · exact states entry earlier
  · rw [List.mem_singleton.mp last]

theorem opened_snoc_sending (done : List GateEntry) (roles : Json) :
    Opened (done ++ [(.sending, roles)]) done [] := ⟨roles, rfl, by simp [StatesOnly]⟩

-- The decomposition is found from the end, so a bracket has one opening.
theorem opened_last (done pre between : List GateEntry) (entry : GateEntry)
    (opened : Opened (done ++ [entry]) pre between) :
    (entry.1 = .sending ∧ pre = done ∧ between = []) ∨
      (entry.1 = .clientState ∧ ∃ earlier, between = earlier ++ [entry] ∧ Opened done pre earlier) := by
  obtain ⟨roles, split, states⟩ := opened
  rcases List.eq_nil_or_concat between with none | ⟨earlier, last, same⟩
  · subst none
    obtain ⟨front, back⟩ := List.append_inj' split rfl
    exact .inl ⟨by rw [List.cons.inj back |>.1], front.symm, rfl⟩
  · rw [List.concat_eq_append] at same
    subst same
    have regrouped : done ++ [entry] = (pre ++ (.sending, roles) :: earlier) ++ [last] := by simp [split]
    obtain ⟨front, back⟩ := List.append_inj' regrouped rfl
    have lastEntry : entry = last := (List.cons.inj back).1
    subst lastEntry
    exact .inr ⟨states entry (by simp), earlier, rfl, roles, front,
      fun other member => states other (List.mem_append_left _ member)⟩

theorem opened_unique (done pre between otherPre otherBetween : List GateEntry)
    (first : Opened done pre between) (second : Opened done otherPre otherBetween) :
    pre = otherPre ∧ between = otherBetween := by
  induction done using List.reverseRecOn generalizing between otherBetween with
  | nil =>
      obtain ⟨roles, split, _⟩ := first
      simp at split
  | append_singleton done entry ih =>
      rcases opened_last done pre between entry first with ⟨kind, rfl, rfl⟩ | ⟨kind, earlier, rfl, open₁⟩
      · rcases opened_last pre otherPre otherBetween entry second with ⟨_, rfl, rfl⟩ | ⟨other, _⟩
        · exact ⟨rfl, rfl⟩
        · simp [kind] at other
      · rcases opened_last done otherPre otherBetween entry second with ⟨other, _⟩ | ⟨_, tail, rfl, open₂⟩
        · simp [kind] at other
        · obtain ⟨samePre, sameTail⟩ := ih earlier tail open₁ open₂
          exact ⟨samePre, by rw [sameTail]⟩

-- What the loop's variables say about the entries read so far.
structure GateInv (done : List GateEntry) (state : GateState) : Prop where
  latest : state.latest = latestState done
  closed : state.availableInFlight = none → ∀ pre between, ¬ Opened done pre between
  inFlight : ∀ available, state.availableInFlight = some available → ∃ pre between, Opened done pre between ∧
    state.heldAtSending = latestState pre ∧ (available = true ↔ Witnessed pre between)
  starts : state.streamStarts = 0 ↔ ∀ roles, (.sent, roles) ∉ done
  passed : AllSentPass done

theorem gate_inv_start : GateInv [] gateStart where
  latest := rfl
  closed := by
    rintro - pre between ⟨roles, split, -⟩
    simp at split
  inFlight := by simp [gateStart]
  starts := by simp [gateStart]
  passed := by
    intro before roles after split
    simp at split

theorem all_sent_pass_snoc (done : List GateEntry) (entry : GateEntry) (passed : AllSentPass done)
    (last : entry.1 = .sent → SentPasses done) : AllSentPass (done ++ [entry]) := by
  intro before roles after split
  rcases List.eq_nil_or_concat after with none | ⟨front, final, same⟩
  · subst none
    obtain ⟨sameFront, sameEntry⟩ := List.append_inj' split rfl
    rw [← sameFront]
    exact last (by rw [(List.cons.inj sameEntry).1])
  · rw [List.concat_eq_append] at same
    subst same
    have regrouped : done ++ [entry] = (before ++ (.sent, roles) :: front) ++ [final] := by simp [split]
    exact passed before roles front (List.append_inj' regrouped rfl).1

theorem gate_step_state (done : List GateEntry) (state : GateState) (value : Json) (inv : GateInv done state) :
    GateInv (done ++ [(.clientState, value)])
      { state with
        latest := some value
        availableInFlight := state.availableInFlight.map (· || value.isTrue) } where
  latest := (latest_state_snoc_state done value).symm
  closed := by
    intro none pre between opened
    rcases opened_last done pre between _ opened with ⟨kind, _⟩ | ⟨_, earlier, _, before⟩
    · simp at kind
    · exact inv.closed (by simpa using none) pre earlier before
  inFlight := by
    intro available flight
    obtain ⟨earlier, held, same⟩ := Option.map_eq_some_iff.mp flight
    obtain ⟨pre, between, opened, latest, witnessed⟩ := inv.inFlight earlier held
    refine ⟨pre, between ++ [(.clientState, value)], opened_snoc_state done pre between value opened, latest, ?_⟩
    rw [← same, Bool.or_eq_true, witnessed, Json.is_true_iff]
    simp [Witnessed, or_assoc, eq_comm]
  starts := by simp [inv.starts]
  passed := all_sent_pass_snoc done _ inv.passed (by simp)

theorem gate_step_sending (done : List GateEntry) (state : GateState) (roles : Json) (inv : GateInv done state) :
    GateInv (done ++ [(.sending, roles)])
      { state with
        heldAtSending := state.latest
        availableInFlight := some (latestIsTrue state.latest) } where
  latest := by simpa [latest_state_snoc_start] using inv.latest
  closed := by simp
  inFlight := by
    intro available flight
    refine ⟨done, [], opened_snoc_sending done roles, inv.latest, ?_⟩
    rw [← Option.some.inj flight, latest_is_true_iff, inv.latest]
    simp [Witnessed]
  starts := by simp [inv.starts]
  passed := all_sent_pass_snoc done _ inv.passed (by simp)

theorem gate_step_sent (done : List GateEntry) (state : GateState) (roles : Json) (inv : GateInv done state)
    (passes : SentPasses done) :
    GateInv (done ++ [(.sent, roles)])
      { state with availableInFlight := none, streamStarts := state.streamStarts + 1 } where
  latest := by simpa [latest_state_snoc_start] using inv.latest
  closed := by
    intro _ pre between opened
    rcases opened_last done pre between _ opened with ⟨kind, _⟩ | ⟨kind, _⟩ <;> simp at kind
  inFlight := by simp
  starts := by
    constructor
    · intro zero
      simp at zero
    · intro absent
      exact absurd (List.mem_append_right done (List.mem_singleton.mpr rfl)) (absent roles)
  passed := all_sent_pass_snoc done _ inv.passed fun _ => passes

theorem gate_step_inv [UnicodeData] (done : List GateEntry) (state : GateState) (entry : GateEntry) (next : GateState)
    (inv : GateInv done state) (stepped : gateStep state entry = .ok next) : GateInv (done ++ [entry]) next := by
  obtain ⟨kind, value⟩ := entry
  cases kind with
  | clientState =>
      rw [← Except.ok.inj stepped]
      exact gate_step_state done state value inv
  | sending =>
      rw [← Except.ok.inj stepped]
      exact gate_step_sending done state value inv
  | sent =>
      cases flight : state.availableInFlight with
      | none => simp [gateStep, flight] at stepped
      | some available =>
          cases available with
          | false => simp [gateStep, flight] at stepped
          | true =>
              have same : next = { state with availableInFlight := none, streamStarts := state.streamStarts + 1 } := by
                simpa [gateStep, flight, eq_comm] using stepped
              obtain ⟨pre, between, opened, _, witnessed⟩ := inv.inFlight true flight
              rw [same]
              exact gate_step_sent done state value inv ⟨pre, between, opened, witnessed.mp rfl⟩

-- An early return is at a `sent`: unopened, or opened with no available: true around it.
theorem gate_step_stop [UnicodeData] (done : List GateEntry) (state : GateState) (entry : GateEntry) (reason : String)
    (inv : GateInv done state) (stopped : gateStep state entry = .error reason) :
    ∃ roles, entry = (.sent, roles) ∧
      ((reason = gateUnrecorded ∧ ∀ pre between, ¬ Opened done pre between) ∨
        ∃ pre between, Opened done pre between ∧ ¬ Witnessed pre between ∧
          reason = gateViolationReason (latestState pre) roles) := by
  obtain ⟨kind, roles⟩ := entry
  cases kind with
  | clientState => simp [gateStep] at stopped
  | sending => simp [gateStep] at stopped
  | sent =>
      refine ⟨roles, rfl, ?_⟩
      cases flight : state.availableInFlight with
      | none => exact .inl ⟨by simpa [gateStep, flight, eq_comm] using stopped, inv.closed flight⟩
      | some available =>
          cases available with
          | true => simp [gateStep, flight] at stopped
          | false =>
              obtain ⟨pre, between, opened, held, witnessed⟩ := inv.inFlight false flight
              refine .inr ⟨pre, between, opened, fun seen => by simpa using witnessed.mpr seen, ?_⟩
              rw [← held]
              simpa [gateStep, flight, eq_comm] using stopped

theorem sent_passes_opened (before pre between : List GateEntry) (opened : Opened before pre between)
    (passes : SentPasses before) : Witnessed pre between := by
  obtain ⟨otherPre, otherBetween, other, witnessed⟩ := passes
  obtain ⟨samePre, sameBetween⟩ := opened_unique before pre between otherPre otherBetween opened other
  rw [samePre, sameBetween]
  exact witnessed

theorem gate_verdict_none_iff [UnicodeData] (entries : List GateEntry) :
    gateVerdict entries = none ↔ GatePasses entries := by
  cases ran : entries.foldlM gateStep gateStart with
  | ok final =>
      have inv : GateInv ([] ++ entries) final :=
        run_invariant gateStep GateInv gate_step_inv entries [] gateStart final gate_inv_start ran
      rw [List.nil_append] at inv
      by_cases zero : final.streamStarts = 0
      · have absent := inv.starts.mp zero
        simp only [gateVerdict, ran, zero, if_pos, reduceCtorEq, false_iff]
        rintro ⟨⟨roles, member⟩, -⟩
        exact absent roles member
      · have present : ∃ roles, (GateKind.sent, roles) ∈ entries := by
          by_contra missing
          exact zero (inv.starts.mpr (not_exists.mp missing))
        simp only [gateVerdict, ran, if_neg zero, true_iff]
        exact ⟨present, inv.passed⟩
  | error reason =>
      obtain ⟨before, entry, after, last, split, inv, stopped⟩ :=
        run_stopped gateStep GateInv gate_step_inv entries [] gateStart reason gate_inv_start ran
      rw [List.nil_append] at inv
      obtain ⟨roles, rfl, offence⟩ := gate_step_stop before last entry reason inv stopped
      simp only [gateVerdict, ran, reduceCtorEq, false_iff]
      rintro ⟨-, passes⟩
      have sentPasses := passes before roles after split
      rcases offence with ⟨_, unopened⟩ | ⟨pre, between, opened, unseen, _⟩
      · obtain ⟨pre, between, opened, _⟩ := sentPasses
        exact unopened pre between opened
      · exact unseen (sent_passes_opened before pre between opened sentPasses)

theorem gate_gap_reasons : hasPrefix harnessGap gateUnrecorded = true ∧ hasPrefix harnessGap gateNoStart = true := by
  constructor
  · simp only [gateUnrecorded, String.append_assoc]
    exact has_prefix_append _ _
  · simp only [gateNoStart, String.append_assoc]
    exact has_prefix_append _ _

theorem first_offence [UnicodeData] (entries : List GateEntry) (reason : String)
    (violated : gateVerdict entries = some reason) (noGap : hasPrefix harnessGap reason = false) :
    ∃ before roles after pre between, entries = before ++ (.sent, roles) :: after ∧ AllSentPass before ∧
      Opened before pre between ∧ ¬ Witnessed pre between ∧ reason = gateViolationReason (latestState pre) roles := by
  cases ran : entries.foldlM gateStep gateStart with
  | ok final =>
      by_cases zero : final.streamStarts = 0
      · have same : gateNoStart = reason := by simpa [gateVerdict, ran, zero] using violated
        rw [← same, gate_gap_reasons.2] at noGap
        contradiction
      · simp [gateVerdict, ran, zero] at violated
  | error stopReason =>
      have same : stopReason = reason := by simpa [gateVerdict, ran] using violated
      subst same
      obtain ⟨before, entry, after, last, split, inv, stopped⟩ :=
        run_stopped gateStep GateInv gate_step_inv entries [] gateStart stopReason gate_inv_start ran
      rw [List.nil_append] at inv
      obtain ⟨roles, rfl, ⟨unrecorded, _⟩ | ⟨pre, between, opened, unseen, named⟩⟩ :=
        gate_step_stop before last entry stopReason inv stopped
      · rw [unrecorded, gate_gap_reasons.1] at noGap
        contradiction
      · exact ⟨before, roles, after, pre, between, split, inv.passed, opened, unseen, named⟩

-- The two words a reason opens with say which party it names first.
theorem violation_reason_server [UnicodeData] (latest : Option Json) (roles : Json)
    (holds : latest = none ∨ latest = some (.bool false)) :
    hasPrefix "Server sent" (gateViolationReason latest roles) = true := by
  rcases holds with rfl | rfl
  · simp only [gateViolationReason, gateBeforeAnyState, String.append_assoc]
    exact has_prefix_append _ _
  · simp only [gateViolationReason, gateWhileUnavailable, String.append_assoc]
    exact has_prefix_append _ _

theorem violation_reason_client [UnicodeData] (latest : Option Json) (roles : Json)
    (none : latest ≠ none) (notFalse : latest ≠ some (.bool false)) :
    hasPrefix "Client sent" (gateViolationReason latest roles) = true := by
  have reason : gateViolationReason latest roles = gateWithoutBoolean roles := by
    match latest with
    | .none => exact absurd rfl none
    | some (.bool false) => exact absurd rfl notFalse
    | some (.bool true) | some .null | some (.int _) | some (.float _) | some (.str _) | some (.arr _)
    | some (.obj _) => rfl
  rw [reason, gateWithoutBoolean]
  simp only [String.append_assoc]
  exact has_prefix_append _ _

theorem client_not_server (reason : String) (client : hasPrefix "Client sent" reason = true) :
    hasPrefix "Server sent" reason = false := by
  rw [has_prefix_iff] at client
  obtain ⟨rest, split⟩ := client
  rw [hasPrefix, ← split]
  rfl

end Conformance.Protocol
