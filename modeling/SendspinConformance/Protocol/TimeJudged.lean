import SendspinConformance.Protocol.TimeMatching

set_option autoImplicit false

namespace Conformance.Protocol

open Python Base

-- The position the judge gives a client/time: how many it had received by then.
def ordinal (log : List (Exchange Int)) (place : Nat) : Nat := Nat.count (AnyRequestAt log) place + 1

structure Facts (log : List (Exchange Int)) (upTo : Nat) (state : TimeState) : Prop where
  received : state.received = Nat.count (AnyRequestAt log) upTo
  sorted : state.unanswered.Pairwise fun first second => first.1 < second.1
  unanswered : ∀ position value, (position, value) ∈ state.unanswered ↔
    ∃ place, place < upTo ∧ RequestAt log value place ∧ ¬ Served log upTo place ∧ position = ordinal log place
  latest : ∀ position, position < state.latestAnswered ↔
    ∃ place, Served log upTo place ∧ position < ordinal log place
  passedOver : ∀ value place, place < upTo → RequestAt log value place → ¬ Served log upTo place →
    (ordinal log place ∈ state.passedOver ↔ ∃ mark, place < mark ∧ mark < upTo ∧ MarkAt log mark)
  bounded : ∀ position ∈ state.passedOver, position ≤ state.received
  answerable : AnswerableTo log upTo

theorem ordinal_lt (log : List (Exchange Int)) (first second : Nat) (request : AnyRequestAt log first)
    (less : first < second) : ordinal log first < ordinal log second := by
  have counted := Nat.count_strict_mono request less
  simp only [ordinal]
  omega

theorem ordinal_le_count (log : List (Exchange Int)) (place upTo : Nat) (request : AnyRequestAt log place)
    (less : place < upTo) : ordinal log place ≤ Nat.count (AnyRequestAt log) upTo :=
  Nat.count_strict_mono request less

theorem ordinal_injective (log : List (Exchange Int)) (first second : Nat) (firstAny : AnyRequestAt log first)
    (secondAny : AnyRequestAt log second) (same : ordinal log first = ordinal log second) : first = second :=
  Nat.count_injective firstAny secondAny (Nat.succ.inj same)

theorem served_before (log : List (Exchange Int)) (upTo place : Nat) (answerable : AnswerableTo log upTo)
    (served : Served log upTo place) : place < upTo := by
  obtain ⟨key, _, below⟩ := served
  have enough := replies_le_requests log upTo answerable key
  exact Nat.lt_of_count_lt_count (lt_of_lt_of_le below enough)

theorem served_unanswered_step (log : List (Exchange Int)) (upTo place : Nat)
    (notReply : ∀ key, ¬ ReplyAt log key upTo) : Served log (upTo + 1) place ↔ Served log upTo place := by
  simp [Served, replies, Nat.count_succ, notReply]

theorem served_reply_step (log : List (Exchange Int)) (upTo place : Nat) (key : Int) (reply : ReplyAt log key upTo) :
    Served log (upTo + 1) place ↔
      Served log upTo place ∨ (RequestAt log key place ∧ requests log key place = replies log key upTo) := by
  have other : ∀ another, another ≠ key → ¬ ReplyAt log another upTo :=
    fun another different found => different (reply_key log another key upTo found reply)
  apply Iff.intro
  · intro served
    obtain ⟨another, request, below⟩ := served
    by_cases same : another = key
    · subst same
      rw [replies, Nat.count_succ, if_pos reply] at below
      by_cases earlier : requests log another place < replies log another upTo
      · exact .inl ⟨another, request, earlier⟩
      · exact .inr ⟨request, by rw [replies] at earlier ⊢; omega⟩
    · rw [replies, Nat.count_succ, if_neg (other another same)] at below
      exact .inl ⟨another, request, below⟩
  · intro served
    rcases served with ⟨another, request, below⟩ | ⟨request, rank⟩
    · exact ⟨another, request, lt_of_lt_of_le below (Nat.count_monotone _ (Nat.le_succ upTo))⟩
    · refine ⟨key, request, ?_⟩
      rw [rank, replies, replies, Nat.count_succ, if_pos reply]
      omega

theorem answerable_step (log : List (Exchange Int)) (upTo : Nat) (answerable : AnswerableTo log upTo)
    (last : ∀ key, ReplyAt log key upTo → replies log key upTo < requests log key upTo) :
    AnswerableTo log (upTo + 1) := by
  intro key place bound reply
  by_cases earlier : place < upTo
  · exact answerable key place earlier reply
  · have same : place = upTo := by omega
    subst same
    exact last key reply

theorem facts_start (log : List (Exchange Int)) : Facts log 0 timeStart where
  received := by simp [timeStart]
  sorted := List.Pairwise.nil
  unanswered := by simp [timeStart]
  latest := by simp [timeStart, Served, replies]
  passedOver := by simp
  bounded := by simp [timeStart]
  answerable := by simp [AnswerableTo]

theorem not_request_of_mark (log : List (Exchange Int)) (place : Nat) (mark : MarkAt log place) :
    ¬ AnyRequestAt log place := by
  rw [AnyRequestAt, mark]
  simp [Exchange.isRequest]

theorem not_request_of_reply (log : List (Exchange Int)) (key : Int) (place : Nat) (reply : ReplyAt log key place) :
    ¬ AnyRequestAt log place := by
  rw [AnyRequestAt, reply]
  simp [Exchange.isRequest]

theorem not_reply_of_mark (log : List (Exchange Int)) (key : Int) (place : Nat) (mark : MarkAt log place) :
    ¬ ReplyAt log key place := by
  intro reply
  have same : some Exchange.mark = some (Exchange.reply key) := mark.symm.trans reply
  simp at same

theorem facts_mark (log : List (Exchange Int)) (upTo : Nat) (state : TimeState) (mark : MarkAt log upTo)
    (facts : Facts log upTo state) : Facts log (upTo + 1) (otherSentTurn state) := by
  have notReply : ∀ key, ¬ ReplyAt log key upTo := fun key => not_reply_of_mark log key upTo mark
  have sameServed := fun place => served_unanswered_step log upTo place notReply
  have notRequest := not_request_of_mark log upTo mark
  have earlier : ∀ value place, RequestAt log value place → place < upTo + 1 → place < upTo := by
    intro value place request bound
    by_contra late
    have same : place = upTo := by omega
    exact notRequest (same ▸ request_any log value place request)
  exact {
    received := by simp [otherSentTurn, Nat.count_succ, notRequest, facts.received]
    sorted := facts.sorted
    unanswered := by
      intro position value
      refine (facts.unanswered position value).trans ⟨?_, ?_⟩
      · intro found
        obtain ⟨place, bound, request, left, same⟩ := found
        exact ⟨place, by omega, request, by rwa [sameServed], same⟩
      · intro found
        obtain ⟨place, bound, request, left, same⟩ := found
        exact ⟨place, earlier value place request bound, request, by rwa [← sameServed], same⟩
    latest := by
      intro position
      simpa only [sameServed, otherSentTurn] using facts.latest position
    passedOver := by
      intro value place bound request left
      have before := earlier value place request bound
      have waiting : (ordinal log place, value) ∈ state.unanswered :=
        (facts.unanswered _ _).mpr ⟨place, before, request, by rwa [← sameServed], rfl⟩
      have passed : ordinal log place ∈ (otherSentTurn state).passedOver :=
        List.mem_append_right _ (List.mem_map.mpr ⟨_, waiting, rfl⟩)
      exact ⟨fun _ => ⟨upTo, before, Nat.lt_succ_self _, mark⟩, fun _ => passed⟩
    bounded := by
      intro position member
      rcases List.mem_append.mp member with old | fresh
      · exact facts.bounded position old
      · obtain ⟨item, waiting, rfl⟩ := List.mem_map.mp fresh
        obtain ⟨place, bound, request, _, same⟩ := (facts.unanswered item.1 item.2).mp waiting
        have counted := ordinal_le_count log place upTo (request_any log _ place request) bound
        rw [same]
        exact counted.trans_eq facts.received.symm
    answerable := answerable_step log upTo facts.answerable fun key reply => absurd reply (notReply key) }

theorem facts_request (log : List (Exchange Int)) (upTo : Nat) (state : TimeState) (sent : Int)
    (request : RequestAt log sent upTo) (facts : Facts log upTo state) :
    Facts log (upTo + 1) { state with
      received := state.received + 1
      unanswered := state.unanswered ++ [(state.received + 1, sent)] } := by
  have notReply : ∀ key, ¬ ReplyAt log key upTo := fun key => request_not_reply log sent key upTo request
  have sameServed := fun place => served_unanswered_step log upTo place notReply
  have anyRequest := request_any log sent upTo request
  have fresh : ¬ Served log (upTo + 1) upTo := by
    rw [sameServed]
    intro served
    exact Nat.lt_irrefl upTo (served_before log upTo upTo facts.answerable served)
  have freshOrdinal : ordinal log upTo = state.received + 1 := by rw [ordinal, facts.received]
  exact {
    received := by simp [Nat.count_succ, anyRequest, facts.received]
    sorted := by
      rw [List.pairwise_append]
      refine ⟨facts.sorted, List.pairwise_singleton _ _, ?_⟩
      intro item waiting last lastIn
      rw [List.mem_singleton.mp lastIn]
      obtain ⟨place, bound, earlierRequest, _, same⟩ := (facts.unanswered item.1 item.2).mp waiting
      have counted := ordinal_le_count log place upTo (request_any log _ place earlierRequest) bound
      rw [← facts.received] at counted
      change item.1 < state.received + 1
      omega
    unanswered := by
      intro position value
      rw [List.mem_append, facts.unanswered, List.mem_singleton, Prod.mk.injEq]
      apply Iff.intro
      · intro found
        rcases found with ⟨place, bound, earlierRequest, left, same⟩ | ⟨position, value⟩
        · exact ⟨place, by omega, earlierRequest, by rwa [sameServed], same⟩
        · exact ⟨upTo, Nat.lt_succ_self _, value ▸ request, fresh, position.trans freshOrdinal.symm⟩
      · intro found
        obtain ⟨place, bound, placeRequest, left, same⟩ := found
        by_cases last : place = upTo
        · subst last
          exact .inr ⟨same.trans freshOrdinal, request_key log value sent place placeRequest request⟩
        · exact .inl ⟨place, by omega, placeRequest, by rwa [← sameServed], same⟩
    latest := by
      intro position
      simpa only [sameServed] using facts.latest position
    passedOver := by
      intro value place bound placeRequest left
      by_cases last : place = upTo
      · subst last
        apply iff_of_false
        · intro passed
          have small := facts.bounded _ passed
          omega
        · intro marked
          obtain ⟨mark, after, before, _⟩ := marked
          omega
      · rw [facts.passedOver value place (by omega) placeRequest (by rwa [← sameServed])]
        apply Iff.intro
        · intro marked
          obtain ⟨mark, after, before, isMark⟩ := marked
          exact ⟨mark, after, by omega, isMark⟩
        · intro marked
          obtain ⟨mark, after, before, isMark⟩ := marked
          have different : mark ≠ upTo := fun same => not_request_of_mark log upTo (same ▸ isMark) anyRequest
          exact ⟨mark, after, by omega, isMark⟩
    bounded := by
      intro position member
      exact (facts.bounded position member).trans (Nat.le_succ _)
    answerable := answerable_step log upTo facts.answerable fun key reply => absurd reply (notReply key) }

-- The first client/time of a value still waiting is the one whose turn it is.
theorem first_waiting (log : List (Exchange Int)) (upTo : Nat) (state : TimeState) (facts : Facts log upTo state)
    (echoed : Int) (item : Nat × Int)
    (found : state.unanswered.find? (fun waiting => waiting.2 == echoed) = some item) :
    ∃ place, place < upTo ∧ RequestAt log echoed place ∧ requests log echoed place = replies log echoed upTo ∧
      item = (ordinal log place, echoed) := by
  obtain ⟨position, value⟩ := item
  obtain ⟨isEcho, before, after, split, noneBefore⟩ := List.find?_eq_some_iff_append.mp found
  have sameValue : value = echoed := by simpa using isEcho
  subst sameValue
  have waiting : (position, value) ∈ state.unanswered := by simp [split]
  obtain ⟨place, bound, request, left, same⟩ := (facts.unanswered position value).mp waiting
  have atLeast : replies log value upTo ≤ requests log value place := by
    by_contra less
    exact left ⟨value, request, by omega⟩
  refine ⟨place, bound, request, ?_, by rw [same]⟩
  by_contra different
  obtain ⟨earlier, earlierRequest, rank⟩ :=
    nth_request log value (replies log value upTo) place (by omega)
  generalize Nat.nth (RequestAt log value) (replies log value upTo) = first at earlier earlierRequest rank
  have firstLeft : ¬ Served log upTo first := by
    intro served
    obtain ⟨key, firstRequest, below⟩ := served
    have sameKey : key = value := request_key log key value first firstRequest earlierRequest
    subst sameKey
    omega
  have firstWaiting : (ordinal log first, value) ∈ state.unanswered :=
    (facts.unanswered _ _).mpr ⟨first, by omega, earlierRequest, firstLeft, rfl⟩
  have less := ordinal_lt log first place (request_any log value first earlierRequest) earlier
  rw [split, List.mem_append, List.mem_cons] at firstWaiting
  have ordered := facts.sorted
  rw [split, List.pairwise_append, List.pairwise_cons] at ordered
  rcases firstWaiting with inBefore | here | inAfter
  · have mismatch := noneBefore _ inBefore
    simp at mismatch
  · have sameOrdinal : ordinal log first = position := congrArg Prod.fst here
    omega
  · have later : position < ordinal log first := ordered.2.1.1 _ inAfter
    omega

theorem facts_reply (log : List (Exchange Int)) (upTo : Nat) (state : TimeState) (echoed : Int)
    (reply : ReplyAt log echoed upTo) (facts : Facts log upTo state) (item : Nat × Int)
    (found : state.unanswered.find? (fun waiting => waiting.2 == echoed) = some item) :
    Facts log (upTo + 1) { state with
      answered := state.answered + 1
      unanswered := state.unanswered.erase item
      latestAnswered := max state.latestAnswered item.1 } := by
  obtain ⟨answered, answeredBound, answeredRequest, rank, rfl⟩ := first_waiting log upTo state facts echoed item found
  have notRequest := not_request_of_reply log echoed upTo reply
  have answeredAny := request_any log echoed answered answeredRequest
  have servedNow : ∀ place, Served log (upTo + 1) place ↔ Served log upTo place ∨ place = answered := by
    intro place
    rw [served_reply_step log upTo place echoed reply]
    apply or_congr_right
    apply Iff.intro
    · intro turn
      exact Nat.count_injective turn.1 answeredRequest (turn.2.trans rank.symm)
    · intro same
      rw [same]
      exact ⟨answeredRequest, rank⟩
  have earlier : ∀ value place, RequestAt log value place → place < upTo + 1 → place < upTo := by
    intro value place request bound
    by_contra late
    have same : place = upTo := by omega
    exact notRequest (same ▸ request_any log value place request)
  have noRepeat : state.unanswered.Nodup := facts.sorted.imp fun less same => by
    rw [same] at less
    exact Nat.lt_irrefl _ less
  exact {
    received := by simp [Nat.count_succ, notRequest, facts.received]
    sorted := facts.sorted.sublist List.erase_sublist
    unanswered := by
      intro position value
      rw [noRepeat.mem_erase_iff, facts.unanswered]
      apply Iff.intro
      · intro kept
        obtain ⟨other, place, bound, request, left, same⟩ := kept
        refine ⟨place, by omega, request, ?_, same⟩
        rw [servedNow]
        intro nowServed
        rcases nowServed with old | here
        · exact left old
        · have sameValue : value = echoed := request_key log value echoed place request (here ▸ answeredRequest)
          exact other (by rw [same, here, sameValue])
      · intro waiting
        obtain ⟨place, bound, request, left, same⟩ := waiting
        rw [servedNow] at left
        have before := earlier value place request bound
        refine ⟨?_, place, before, request, fun old => left (.inl old), same⟩
        intro item
        have sameOrdinal : ordinal log place = ordinal log answered := same.symm.trans (congrArg Prod.fst item)
        exact left (.inr (ordinal_injective log place answered (request_any log value place request) answeredAny
          sameOrdinal))
    latest := by
      intro position
      rw [lt_max_iff, facts.latest]
      simp only [servedNow, or_and_right, exists_or, exists_eq_left]
    passedOver := by
      intro value place bound request left
      rw [servedNow] at left
      have before := earlier value place request bound
      rw [facts.passedOver value place before request fun old => left (.inl old)]
      apply Iff.intro
      · intro marked
        obtain ⟨mark, after, inside, isMark⟩ := marked
        exact ⟨mark, after, by omega, isMark⟩
      · intro marked
        obtain ⟨mark, after, inside, isMark⟩ := marked
        have different : mark ≠ upTo := fun same => not_reply_of_mark log echoed upTo (same ▸ isMark) reply
        exact ⟨mark, after, by omega, isMark⟩
    bounded := facts.bounded
    answerable := by
      apply answerable_step log upTo facts.answerable
      intro key keyReply
      have sameKey : key = echoed := reply_key log key echoed upTo keyReply reply
      subst sameKey
      rw [← rank]
      exact Nat.count_strict_mono answeredRequest answeredBound }

-- A reply finds nothing waiting only where its key has run out of requests.
theorem no_waiting (log : List (Exchange Int)) (upTo : Nat) (state : TimeState) (facts : Facts log upTo state)
    (echoed : Int) (missing : state.unanswered.find? (fun waiting => waiting.2 == echoed) = none) :
    ¬ replies log echoed upTo < requests log echoed upTo := by
  intro spare
  obtain ⟨bound, request, rank⟩ := nth_request log echoed _ upTo spare
  generalize Nat.nth (RequestAt log echoed) (replies log echoed upTo) = place at bound request rank
  have left : ¬ Served log upTo place := by
    intro served
    obtain ⟨key, placeRequest, below⟩ := served
    have sameKey : key = echoed := request_key log key echoed place placeRequest request
    subst sameKey
    omega
  have waiting : (ordinal log place, echoed) ∈ state.unanswered :=
    (facts.unanswered _ _).mpr ⟨place, bound, request, left, rfl⟩
  have skipped := List.find?_eq_none.mp missing _ waiting
  simp at skipped

def FactsIn (log done : List (Exchange Int)) (state : TimeState) : Prop :=
  done <+: log → Facts log done.length state

theorem next_entry (log done : List (Exchange Int)) (entry : Exchange Int) (inside : done ++ [entry] <+: log) :
    done <+: log ∧ log[done.length]? = some entry := by
  obtain ⟨rest, rfl⟩ := inside
  exact ⟨⟨[entry] ++ rest, by simp⟩, by simp⟩

theorem facts_turn (log done : List (Exchange Int)) (state : TimeState) (entry : Exchange Int) (next : TimeState)
    (facts : FactsIn log done state) (turned : readTurn state entry = .ok next) :
    FactsIn log (done ++ [entry]) next := by
  intro inside
  obtain ⟨before, found⟩ := next_entry log done entry inside
  have known := facts before
  rw [List.length_append, List.length_singleton]
  cases entry with
  | mark =>
      rw [← Except.ok.inj turned]
      exact facts_mark log done.length state found known
  | request sent =>
      rw [← Except.ok.inj turned]
      exact facts_request log done.length state sent found known
  | reply echoed =>
      cases waits : state.unanswered.find? fun item => item.2 == echoed with
      | none => simp [readTurn, waits] at turned
      | some item =>
          have same : next = { state with
              answered := state.answered + 1
              unanswered := state.unanswered.erase item
              latestAnswered := max state.latestAnswered item.1 } := by
            simpa [readTurn, waits, eq_comm] using turned
          rw [same]
          exact facts_reply log done.length state echoed found known item waits

theorem read_run (log : List (Exchange Int)) :
    (∃ final, log.foldlM readTurn timeStart = .ok final) ↔ AnswerableTo log log.length := by
  have start : FactsIn log [] timeStart := fun _ => facts_start log
  apply Iff.intro
  · intro ran
    obtain ⟨final, ran⟩ := ran
    exact (run_invariant readTurn (FactsIn log) (facts_turn log) log [] timeStart final start ran
      (List.prefix_refl log)).answerable
  · intro answerable
    cases ran : log.foldlM readTurn timeStart with
    | ok final => exact ⟨final, rfl⟩
    | error stopped =>
        obtain ⟨before, entry, after, state, split, facts, failed⟩ :=
          run_stopped readTurn (FactsIn log) (facts_turn log) log [] timeStart stopped start ran
        have known := facts ⟨entry :: after, split.symm⟩
        have found : log[before.length]? = some entry := by simp [split]
        cases entry with
        | mark => simp [readTurn] at failed
        | request sent => simp [readTurn] at failed
        | reply echoed =>
            cases waits : state.unanswered.find? fun item => item.2 == echoed with
            | some item => simp [readTurn, waits] at failed
            | none =>
                have spare := answerable echoed before.length (reply_in_range log echoed _ found) found
                exact absurd spare (no_waiting log before.length state known echoed waits)

theorem last_received (log : List (Exchange Int)) (state : TimeState) (facts : Facts log log.length state)
    (place : Nat) (request : AnyRequestAt log place) :
    ordinal log place < state.received ↔ ∃ other later, RequestAt log other later ∧ place < later := by
  rw [facts.received]
  apply Iff.intro
  · intro less
    have counted : Nat.count (AnyRequestAt log) (place + 1) < Nat.count (AnyRequestAt log) log.length := by
      rw [Nat.count_succ, if_pos request]
      exact less
    obtain ⟨later, range, isRequest⟩ := Nat.exists_of_count_lt_count counted
    obtain ⟨other, found⟩ := any_request log later isRequest
    exact ⟨other, later, found, range.1⟩
  · intro later
    obtain ⟨other, later, found, less⟩ := later
    have bound : later < log.length := (List.getElem?_eq_some_iff.mp found).1
    have placeLess := ordinal_lt log place later request less
    exact lt_of_lt_of_le placeLess (ordinal_le_count log later log.length (request_any log other later found) bound)

theorem went_on_none (state : TimeState) (position : Nat) :
    wentOn state position = none ↔
      ¬ position < state.latestAnswered ∧ ¬ (position ∈ state.passedOver ∧ position < state.received) := by
  by_cases answeredLater : position < state.latestAnswered
  · simp [wentOn, answeredLater]
  · by_cases passed : position ∈ state.passedOver
    · by_cases last : position < state.received <;> simp [wentOn, answeredLater, passed, last]
    · simp [wentOn, answeredLater, passed]

theorem time_verdict_none (log : List (Exchange Int)) (state : TimeState) (facts : Facts log log.length state) :
    timeVerdict state = none ↔ Unblamed log (Served log log.length) := by
  have verdict : timeVerdict state = none ↔ ∀ item ∈ state.unanswered, wentOn state item.1 = none := by
    simp [timeVerdict, List.findSome?_eq_none_iff]
  have waiting : ∀ key place, RequestAt log key place → ¬ Served log log.length place →
      (ordinal log place, key) ∈ state.unanswered := by
    intro key place request left
    exact (facts.unanswered _ _).mpr ⟨place, (List.getElem?_eq_some_iff.mp request).1, request, left, rfl⟩
  rw [verdict]
  apply Iff.intro
  · intro clean
    refine ⟨?_, ?_⟩
    · intro key place request left later served less
      have quiet := (went_on_none state _).mp (clean _ (waiting key place request left))
      have placeLess := ordinal_lt log place later (request_any log key place request) less
      exact quiet.1 ((facts.latest _).mpr ⟨later, served, placeLess⟩)
    · intro key place request left mark after isMark other later laterRequest less
      have quiet := (went_on_none state _).mp (clean _ (waiting key place request left))
      have bound : place < log.length := (List.getElem?_eq_some_iff.mp request).1
      have markBound : mark < log.length := (List.getElem?_eq_some_iff.mp isMark).1
      have passed := (facts.passedOver key place bound request left).mpr ⟨mark, after, markBound, isMark⟩
      exact quiet.2 ⟨passed, (last_received log state facts place (request_any log key place request)).mpr
        ⟨other, later, laterRequest, less⟩⟩
  · intro unblamed item member
    obtain ⟨place, bound, request, left, same⟩ := (facts.unanswered item.1 item.2).mp member
    have anyRequest := request_any log item.2 place request
    rw [went_on_none, same]
    apply And.intro
    · intro answeredLater
      obtain ⟨later, served, less⟩ := (facts.latest _).mp answeredLater
      have placeLess : place < later := by
        by_contra notLess
        obtain ⟨key, laterRequest, below⟩ := served
        by_cases here : later = place
        · exact left (here ▸ ⟨key, laterRequest, below⟩)
        · have reversed := ordinal_lt log later place (request_any log key later laterRequest) (by omega)
          omega
      exact unblamed.inOrder item.2 place request left later served placeLess
    · intro passed
      obtain ⟨mark, after, _, isMark⟩ := (facts.passedOver item.2 place bound request left).mp passed.1
      obtain ⟨other, later, laterRequest, less⟩ := (last_received log state facts place anyRequest).mp passed.2
      exact unblamed.notPassed item.2 place request left mark after isMark other later laterRequest less

theorem time_run_judged (log : List (Exchange Int)) :
    (∃ final, log.foldlM readTurn timeStart = .ok final ∧ timeVerdict final = none) ↔
      ∃ pair, Pairing log pair ∧ Unblamed log (Paired log pair) := by
  have start : FactsIn log [] timeStart := fun _ => facts_start log
  have known : ∀ final, log.foldlM readTurn timeStart = .ok final → Facts log log.length final := by
    intro final ran
    exact run_invariant readTurn (FactsIn log) (facts_turn log) log [] timeStart final start ran (List.prefix_refl log)
  rw [unblamed_pairing_iff]
  apply Iff.intro
  · intro clean
    obtain ⟨final, ran, quiet⟩ := clean
    have facts := known final ran
    exact ⟨facts.answerable, (time_verdict_none log final facts).mp quiet⟩
  · intro served
    obtain ⟨final, ran⟩ := (read_run log).mpr served.1
    exact ⟨final, ran, (time_verdict_none log final (known final ran)).mpr served.2⟩

-- No violation exactly where every entry can be read and the run over the readings ends clean.
theorem exchange_clean (serverSummary : Fields) :
    timeExchangeViolation serverSummary = none ↔
      ∃ exchange log, getKey serverSummary "time_exchange" = .arr exchange ∧ exchange.mapM timeEntry = some log ∧
        ∃ final, log.foldlM readTurn timeStart = .ok final ∧ timeVerdict final = none := by
  cases summary : getKey serverSummary "time_exchange" with
  | arr exchange =>
      have passes : timeExchangeViolation serverSummary = none ↔
          ∃ final, exchange.foldlM timeTurn timeStart = .ok final ∧ timeVerdict final = none := by
        rw [timeExchangeViolation, summary]
        cases ran : exchange.foldlM timeTurn timeStart <;> simp [ran]
      rw [passes]
      apply Iff.intro
      · intro clean
        obtain ⟨final, ran, quiet⟩ := clean
        obtain ⟨log, read, turned⟩ :=
          (run_view timeTurn timeEntry readTurn time_turn_reads exchange timeStart final).mp ran
        exact ⟨exchange, log, rfl, read, final, turned, quiet⟩
      · intro ran
        obtain ⟨other, log, same, read, final, turned, quiet⟩ := ran
        rw [← Json.arr.inj same] at read
        exact ⟨final, (run_view timeTurn timeEntry readTurn time_turn_reads _ timeStart final).mpr
          ⟨log, read, turned⟩, quiet⟩
  | _ => simp [timeExchangeViolation, summary]

-- The exchange passes exactly when its entries can be read and some pairing of the
-- replies with earlier client/times leaves no client/time to blame the server for.
theorem time_exchange_judged (serverSummary : Fields) :
    timeExchangeViolation serverSummary = none ↔
      ∃ exchange log, getKey serverSummary "time_exchange" = .arr exchange ∧ exchange.mapM timeEntry = some log ∧
        ∃ pair, Pairing log pair ∧ Unblamed log (Paired log pair) := by
  rw [exchange_clean]
  refine exists_congr fun exchange => exists_congr fun log => ?_
  exact and_congr_right fun _ => and_congr_right fun _ => time_run_judged log

end Conformance.Protocol
