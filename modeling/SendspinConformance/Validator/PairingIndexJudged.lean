import SendspinConformance.Validator.CodePairingChecks

set_option autoImplicit false

namespace Conformance.Validator.CodePairing

open Python Protocol Suite

def starts (record : ConnectionRecord) : List RecordedFrame :=
  record.frames.filter fun frame => frame.inbound && frame.typeIn pairingStarts

-- The two directions are FIFO: the k-th answer recorded is to the k-th activation sent.
def replies (record : ConnectionRecord) : List (RecordedFrame × RecordedFrame) :=
  (starts record).zip (record.frames.filter activatesPairing)

-- A client that answers each activation once, after it, with that activation's own count.
structure Honest (record : ConnectionRecord) : Prop where
  answered : (starts record).length = (record.frames.filter activatesPairing).length
  later : ∀ reply ∈ replies record, reply.2.id < reply.1.id
  own : ∀ reply ∈ replies record,
    getKey reply.1.fields "pairing_index" = .int (pairingActivationsSinceHandshake record reply.2)

def within (span : RecordedFrame × Option Nat) (frame : RecordedFrame) : Bool :=
  span.1.id < frame.id && endsBefore frame span.2

-- Where answers are recorded between an activation and the next one, one of them answers an
-- activation of the same number, and none an activation of a higher number.
def Timely (record : ConnectionRecord) (since : Nat) : Prop :=
  ∀ span ∈ spans (pairingActivations record since), (∃ reply ∈ replies record, within span reply.1 = true) →
    (∃ reply ∈ replies record, within span reply.1 = true ∧
      pairingActivationsSinceHandshake record reply.2 = pairingActivationsSinceHandshake record span.1) ∧
    ∀ reply ∈ replies record, within span reply.1 = true →
      pairingActivationsSinceHandshake record reply.2 ≤ pairingActivationsSinceHandshake record span.1

def numberAbove (bound : Nat) : Json → Prop
  | .int value => bound < value
  | .float ⟨.finite value, _⟩ => (bound : Rat) < value
  | .float ⟨.posInf, _⟩ => True
  | _ => False

-- The answer's index is above the activations sent since the last handshake before it.
def Above (record : ConnectionRecord) (answer : RecordedFrame) : Prop :=
  answer ∈ starts record ∧
    numberAbove (pairingActivationsSinceHandshake record answer) (getKey answer.fields "pairing_index")

def handshakes (frame : RecordedFrame) : Bool := !frame.inbound && frame.typed "noise/handshake"

-- The answer follows an activation of the step with no handshake between them.
def Reached (record : ConnectionRecord) (since : Nat) (answer : RecordedFrame) : Prop :=
  ∃ activation ∈ pairingActivations record since, activation.id < answer.id ∧
    ∀ frame ∈ record.frames, activation.id < frame.id → frame.id < answer.id → handshakes frame = false

-- The activation was answered, but not with its own index, or with one that is no lower number.
def Misanswered (record : ConnectionRecord) (span : RecordedFrame × Option Nat) : Prop :=
  let expected := pairingActivationsSinceHandshake record span.1
  (∃ answer ∈ answersTo record span, carriesIndex answer expected = false ∧ below answer expected = false) ∨
    (answersTo record span ≠ [] ∧ ∀ answer ∈ answersTo record span, carriesIndex answer expected = false)

def Unanswered (record : ConnectionRecord) (since : Nat) : Prop :=
  pairingActivations record since ≠ [] ∧ record.rejected = false ∧
    ∀ span ∈ spans (pairingActivations record since), answersTo record span = []

theorem wrong_answer_iff (answers : List RecordedFrame) (expected : Nat) :
    (wrongAnswer answers expected).isSome = true ↔
      (∃ answer ∈ answers, carriesIndex answer expected = false ∧ below answer expected = false) ∨
        (answers ≠ [] ∧ ∀ answer ∈ answers, carriesIndex answer expected = false) := by
  rw [wrongAnswer]
  cases found : answers.find? fun answer => !carriesIndex answer expected && !below answer expected with
  | some wrong =>
      have odd := List.find?_some found
      simp only [Bool.and_eq_true, Bool.not_eq_true'] at odd
      exact iff_of_true rfl (Or.inl ⟨wrong, List.mem_of_find?_eq_some found, odd.1, odd.2⟩)
  | none =>
      have noneOdd : ¬∃ answer ∈ answers, carriesIndex answer expected = false ∧ below answer expected = false := by
        rintro ⟨answer, isAnswer, differs, notBelow⟩
        simpa [differs, notBelow] using List.find?_eq_none.mp found answer isAnswer
      rw [or_iff_right noneOdd]
      by_cases matched : (answers.any fun answer => carriesIndex answer expected) = true
      · rw [if_pos matched]
        obtain ⟨answer, isAnswer, carries⟩ := List.any_eq_true.mp matched
        refine iff_of_false (by simp) fun ⟨_, unmatched⟩ => ?_
        rw [unmatched answer isAnswer] at carries
        cases carries
      · rw [if_neg matched]
        have unmatched : ∀ answer ∈ answers, carriesIndex answer expected = false := by
          simpa using matched
        rw [and_iff_left unmatched]
        cases answers <;> simp

theorem misanswered_iff (record : ConnectionRecord) (span : RecordedFrame × Option Nat) :
    Misanswered record span ↔
      (wrongAnswer (answersTo record span) (pairingActivationsSinceHandshake record span.1)).isSome = true :=
  (wrong_answer_iff _ _).symm

theorem answers_within (record : ConnectionRecord) (span : RecordedFrame × Option Nat) (answer : RecordedFrame) :
    answer ∈ answersTo record span ↔ answer ∈ starts record ∧ within span answer = true := by
  simp only [answersTo, starts, within, List.mem_filter, Bool.and_eq_true]
  tauto

theorem answer_replies (record : ConnectionRecord) (honest : Honest record) (answer : RecordedFrame) :
    answer ∈ starts record ↔ ∃ reply ∈ replies record, reply.1 = answer := by
  have firsts : (replies record).map Prod.fst = starts record :=
    List.map_fst_zip (Nat.le_of_eq honest.answered)
  rw [← firsts, List.mem_map]

theorem activation_replied (record : ConnectionRecord) (honest : Honest record) (activation : RecordedFrame)
    (sent : activation ∈ record.frames.filter activatesPairing) : ∃ reply ∈ replies record, reply.2 = activation := by
  have seconds : (replies record).map Prod.snd = record.frames.filter activatesPairing :=
    List.map_snd_zip (Nat.le_of_eq honest.answered.symm)
  rw [← seconds] at sent
  exact List.mem_map.mp sent

theorem own_carried (record : ConnectionRecord) (honest : Honest record) (reply : RecordedFrame × RecordedFrame)
    (isReply : reply ∈ replies record) (expected : Nat) :
    carriesIndex reply.1 expected = decide (pairingActivationsSinceHandshake record reply.2 = expected) ∧
      below reply.1 expected = decide (pairingActivationsSinceHandshake record reply.2 < expected) := by
  rw [carriesIndex, indexIs, below, honest.own reply isReply]
  refine ⟨?_, ?_⟩
  · rw [Bool.eq_iff_iff]
    simp only [Json.eqInt, Json.isBool, Bool.not_false, Bool.and_true, beq_iff_eq, decide_eq_true_eq]
    exact Int.ofNat_inj
  · simp

theorem honest_misanswered_iff (record : ConnectionRecord) (honest : Honest record)
    (span : RecordedFrame × Option Nat) :
    Misanswered record span ↔ ¬((∃ reply ∈ replies record, within span reply.1 = true) →
      (∃ reply ∈ replies record, within span reply.1 = true ∧
        pairingActivationsSinceHandshake record reply.2 = pairingActivationsSinceHandshake record span.1) ∧
      ∀ reply ∈ replies record, within span reply.1 = true →
        pairingActivationsSinceHandshake record reply.2 ≤ pairingActivationsSinceHandshake record span.1) := by
  have inWindow : ∀ answer, answer ∈ answersTo record span ↔
      ∃ reply ∈ replies record, within span reply.1 = true ∧ reply.1 = answer := by
    intro answer
    rw [answers_within, answer_replies record honest]
    apply Iff.intro
    · rintro ⟨⟨reply, isReply, rfl⟩, inside⟩
      exact ⟨reply, isReply, inside, rfl⟩
    · rintro ⟨reply, isReply, inside, rfl⟩
      exact ⟨⟨reply, isReply, rfl⟩, inside⟩
  rw [Misanswered]
  apply Iff.intro
  · rintro (⟨answer, isAnswer, differs, notBelow⟩ | ⟨some_, unmatched⟩) timely
    · obtain ⟨reply, isReply, inside, rfl⟩ := (inWindow answer).mp isAnswer
      have least := (timely ⟨reply, isReply, inside⟩).2 reply isReply inside
      obtain ⟨carried, lower⟩ := own_carried record honest reply isReply (pairingActivationsSinceHandshake record span.1)
      rw [carried] at differs
      rw [lower] at notBelow
      simp only [decide_eq_false_iff_not] at differs notBelow
      omega
    · obtain ⟨answer, isAnswer⟩ := List.exists_mem_of_ne_nil _ some_
      obtain ⟨reply, isReply, inside, _⟩ := (inWindow answer).mp isAnswer
      obtain ⟨own, isOwn, ownInside, same⟩ := (timely ⟨reply, isReply, inside⟩).1
      have matched := unmatched own.1 ((inWindow own.1).mpr ⟨own, isOwn, ownInside, rfl⟩)
      rw [(own_carried record honest own isOwn _).1, decide_eq_false_iff_not] at matched
      exact matched same
  · intro late
    push Not at late
    obtain ⟨⟨reply, isReply, inside⟩, missing⟩ := late
    by_cases matched : ∃ own ∈ replies record, within span own.1 = true ∧
        pairingActivationsSinceHandshake record own.2 = pairingActivationsSinceHandshake record span.1
    · obtain ⟨higher, isHigher, higherInside, above⟩ := missing matched
      obtain ⟨carried, lower⟩ :=
        own_carried record honest higher isHigher (pairingActivationsSinceHandshake record span.1)
      refine Or.inl ⟨higher.1, (inWindow higher.1).mpr ⟨higher, isHigher, higherInside, rfl⟩, ?_, ?_⟩
      · rw [carried, decide_eq_false_iff_not]
        omega
      · rw [lower, decide_eq_false_iff_not]
        omega
    · refine Or.inr ⟨List.ne_nil_of_mem ((inWindow reply.1).mpr ⟨reply, isReply, inside, rfl⟩), ?_⟩
      intro answer isAnswer
      obtain ⟨own, isOwn, ownInside, rfl⟩ := (inWindow answer).mp isAnswer
      rw [(own_carried record honest own isOwn _).1, decide_eq_false_iff_not]
      exact fun same => matched ⟨own, isOwn, ownInside, same⟩

theorem spans_last (activations : List RecordedFrame) (sent : activations ≠ []) :
    ∃ last ∈ activations, (last, none) ∈ spans activations := by
  induction activations with
  | nil => exact absurd rfl sent
  | cons activation rest ih =>
      cases rest with
      | nil => exact ⟨activation, List.mem_cons_self, List.mem_cons_self⟩
      | cons next others =>
          obtain ⟨last, isLast, listed⟩ := ih (List.cons_ne_nil next others)
          exact ⟨last, List.mem_cons_of_mem activation isLast, List.mem_cons_of_mem _ listed⟩

-- The last activation of a step is answered, so some window holds an answer.
theorem honest_heard (record : ConnectionRecord) (since : Nat) (honest : Honest record) :
    ¬Unanswered record since := by
  rintro ⟨sent, _, silent⟩
  obtain ⟨last, isLast, listed⟩ := spans_last _ sent
  rw [pairingActivations, List.mem_filter, Bool.and_eq_true] at isLast
  obtain ⟨reply, isReply, isOwn⟩ := activation_replied record honest last (List.mem_filter.mpr ⟨isLast.1, isLast.2.2⟩)
  have after := honest.later reply isReply
  rw [isOwn] at after
  have answered : reply.1 ∈ answersTo record (last, none) := by
    rw [answers_within, answer_replies record honest]
    exact ⟨⟨reply, isReply, rfl⟩, by simp [within, endsBefore, after]⟩
  rw [silent _ listed] at answered
  exact List.not_mem_nil answered

section reached

variable {record : ConnectionRecord}

theorem span_around (activations : List RecordedFrame) (ordered : activations.Pairwise fun first second => first.id < second.id)
    (place : Nat) (earlier : ∃ activation ∈ activations, activation.id < place) :
    ∃ span ∈ spans activations, span.1 ∈ activations ∧ span.1.id < place ∧
      (∀ next, span.2 = some next → place ≤ next ∧ ∃ activation ∈ activations, activation.id = next) ∧
      ∀ other ∈ activations, other.id < place → other.id ≤ span.1.id := by
  induction activations with
  | nil => simp at earlier
  | cons activation rest ih =>
      obtain ⟨first, others⟩ := List.pairwise_cons.mp ordered
      by_cases later : ∃ other ∈ rest, other.id < place
      · obtain ⟨span, isSpan, isActivation, before, ends, greatest⟩ := ih others later
        refine ⟨span, ?_, List.mem_cons_of_mem activation isActivation, before, ?_, ?_⟩
        · cases rest with
          | nil => simp [spans] at isSpan
          | cons next more => exact List.mem_cons_of_mem _ isSpan
        · intro next isNext
          obtain ⟨beyond, other, isOther, same⟩ := ends next isNext
          exact ⟨beyond, other, List.mem_cons_of_mem activation isOther, same⟩
        · intro other isOther otherBefore
          cases List.mem_cons.mp isOther with
          | inl same =>
              rw [same]
              exact Nat.le_of_lt (first span.1 isActivation)
          | inr inRest => exact greatest other inRest otherBefore
      · have beyond : ∀ other ∈ rest, place ≤ other.id := fun other isOther =>
          Nat.le_of_not_lt fun before => later ⟨other, isOther, before⟩
        have before : activation.id < place := by
          obtain ⟨found, isFound, foundBefore⟩ := earlier
          cases List.mem_cons.mp isFound with
          | inl same => exact same ▸ foundBefore
          | inr inRest => exact absurd foundBefore (Nat.not_lt.mpr (beyond found inRest))
        have greatest : ∀ other ∈ activation :: rest, other.id < place → other.id ≤ activation.id := by
          intro other isOther otherBefore
          cases List.mem_cons.mp isOther with
          | inl same => rw [same]
          | inr inRest => exact absurd otherBefore (Nat.not_lt.mpr (beyond other inRest))
        cases rest with
        | nil =>
            exact ⟨(activation, none), List.mem_cons_self, List.mem_cons_self, before, by simp, greatest⟩
        | cons next more =>
            refine ⟨(activation, some next.id), List.mem_cons_self, List.mem_cons_self, before, ?_, greatest⟩
            intro number isNumber
            rw [← Option.some.inj isNumber]
            exact ⟨beyond next List.mem_cons_self, next, List.mem_cons_of_mem activation List.mem_cons_self, rfl⟩

-- Frames that neither activate pairing nor handshake leave the count as it was.
theorem count_unchanged (frames : List RecordedFrame) (ordered : frames.Pairwise fun first second => first.id < second.id)
    (early late count : Nat) (order : early ≤ late)
    (quiet : ∀ frame ∈ frames, early < frame.id → frame.id ≤ late →
      handshakes frame = false ∧ activatesPairing frame = false) :
    (frames.takeWhile fun frame => frame.id ≤ late).foldl pairingCount count =
      (frames.takeWhile fun frame => frame.id ≤ early).foldl pairingCount count := by
  induction frames generalizing count with
  | nil => rfl
  | cons frame rest ih =>
      obtain ⟨first, others⟩ := List.pairwise_cons.mp ordered
      have quietRest := fun other isOther => quiet other (List.mem_cons_of_mem frame isOther)
      by_cases passed : frame.id ≤ early
      · have passedLate : frame.id ≤ late := by omega
        simp only [List.takeWhile_cons, passed, passedLate, decide_true, if_true, List.foldl_cons]
        exact ih others (pairingCount count frame) quietRest
      · have stopped : (rest.takeWhile fun other => other.id ≤ early) = [] := by
          cases rest with
          | nil => rfl
          | cons next more =>
              have beyond := first next List.mem_cons_self
              rw [List.takeWhile_cons_of_neg]
              simp only [decide_eq_true_eq]
              omega
        have later := ih others count quietRest
        rw [stopped] at later
        by_cases passedLate : frame.id ≤ late
        · have unchanged : pairingCount count frame = count := by
            obtain ⟨noHandshake, noActivation⟩ := quiet frame List.mem_cons_self (by omega) passedLate
            rw [handshakes] at noHandshake
            simp [pairingCount, noHandshake, noActivation]
          simp only [List.takeWhile_cons, passed, passedLate, decide_true, decide_false, if_true, List.foldl_cons,
            unchanged]
          simpa using later
        · simp [passed, passedLate]

theorem number_above_differs (answer : RecordedFrame) (bound : Nat)
    (above : numberAbove bound (getKey answer.fields "pairing_index")) :
    carriesIndex answer bound = false ∧ below answer bound = false := by
  rw [carriesIndex, indexIs, below]
  cases index : getKey answer.fields "pairing_index" with
  | int value =>
      rw [index, numberAbove] at above
      simp only [Json.eqInt, Bool.and_eq_false_imp, beq_iff_eq, decide_eq_false_iff_not]
      omega
  | float value =>
      rw [index] at above
      obtain ⟨number, text⟩ := value
      cases number with
      | finite value =>
          have greater : (bound : Rat) < value := above
          have differs : value ≠ ((bound : Int) : Rat) := by
            rw [Rat.intCast_natCast]
            exact Rat.ne_of_gt greater
          have unequal : Json.eqInt bound (.float ⟨.finite value, text⟩) = false := beq_eq_false_iff_ne.mpr differs
          simp [unequal]
      | _ => simp [Json.eqInt]
  | _ =>
      rw [index] at above
      exact above.elim

theorem reached_misanswered (ordered : record.frames.Pairwise fun first second => first.id < second.id) (since : Nat)
    (answer : RecordedFrame) (above : Above record answer) (reached : Reached record since answer) :
    ∃ span ∈ spans (pairingActivations record since), Misanswered record span := by
  obtain ⟨activation, isActivation, before, quiet⟩ := reached
  obtain ⟨isStart, greater⟩ := above
  have isFrame : answer ∈ record.frames := (List.mem_filter.mp isStart).1
  have isInbound : answer.inbound = true := by
    have held := (List.mem_filter.mp isStart).2
    rw [Bool.and_eq_true] at held
    exact held.1
  obtain ⟨span, isSpan, spanSent, spanBefore, ends, greatest⟩ :=
    span_around (pairingActivations record since) (ordered.filter _) answer.id ⟨activation, isActivation, before⟩
  have isOutbound : ∀ frame ∈ pairingActivations record since, frame.inbound = false := by
    intro frame sent
    rw [pairingActivations, List.mem_filter] at sent
    have held := sent.2
    simp only [activatesPairing, isOut, Bool.and_eq_true, Bool.not_eq_true'] at held
    exact held.2.1.1.1
  have inside : within span answer = true := by
    rw [within, Bool.and_eq_true, decide_eq_true_eq]
    refine ⟨spanBefore, ?_⟩
    cases next : span.2 with
    | none => rfl
    | some number =>
        obtain ⟨beyond, other, isOther, same⟩ := ends number next
        have distinct : answer.id ≠ number := by
          intro equal
          have sameFrame : other = answer :=
            List.inj_on_of_nodup_map (List.pairwise_map.mpr (ordered.imp fun less => Nat.ne_of_lt less))
              (List.mem_filter.mp isOther).1 isFrame (same.trans equal.symm)
          rw [← sameFrame, isOutbound other isOther] at isInbound
          cases isInbound
        simp only [endsBefore, decide_eq_true_eq]
        omega
  have sameCount : pairingActivationsSinceHandshake record answer =
      pairingActivationsSinceHandshake record span.1 := by
    refine count_unchanged record.frames ordered span.1.id answer.id 0 (Nat.le_of_lt spanBefore) ?_
    intro frame framed after upTo
    by_cases isLast : frame.id = answer.id
    · have sameFrame : frame = answer :=
        List.inj_on_of_nodup_map (List.pairwise_map.mpr (ordered.imp fun less => Nat.ne_of_lt less))
          framed isFrame isLast
      rw [sameFrame]
      simp [handshakes, activatesPairing, isOut, isInbound]
    · have strictly : frame.id < answer.id := Nat.lt_of_le_of_ne upTo isLast
      have fromActivation := greatest activation isActivation before
      refine ⟨quiet frame framed (by omega) strictly, ?_⟩
      by_contra activates
      rw [Bool.not_eq_false] at activates
      have listed : frame ∈ pairingActivations record since := by
        rw [pairingActivations, List.mem_filter, Bool.and_eq_true, decide_eq_true_eq]
        have spanSince : since < span.1.id := by
          rw [pairingActivations, List.mem_filter, Bool.and_eq_true, decide_eq_true_eq] at spanSent
          exact spanSent.2.1
        exact ⟨framed, by omega, activates⟩
      have notLater := greatest frame listed strictly
      omega
  rw [sameCount] at greater
  obtain ⟨differs, notBelow⟩ := number_above_differs answer _ greater
  exact ⟨span, isSpan, Or.inl ⟨answer, (answers_within record span answer).mpr ⟨isStart, inside⟩, differs, notBelow⟩⟩

end reached

section judged

variable [UnicodeData]

def Blames (checkId : String) (record : ConnectionRecord) (since : Nat) : Prop :=
  ∃ findings, checkPairingIndex checkId record since = .ok findings ∧ ∃ finding ∈ findings, finding.verdict = .fail

theorem indexes_judged_fail (record : ConnectionRecord) (checkId : String) (windows : List (RecordedFrame × Option Nat))
    (judged : List RecordedFrame) :
    (indexesJudged record checkId windows judged).verdict = .fail ↔
      (∃ span ∈ windows, Misanswered record span) ∨
        (judged = [] ∧ record.rejected = false ∧ ∀ span ∈ windows, answersTo record span = []) := by
  induction windows generalizing judged with
  | nil =>
      rw [indexesJudged]
      cases judged with
      | nil => cases rejected : record.rejected <;> simp [unanswered, notReached, notApplicable, finding, cite, rejected]
      | cons first others => simp [finding, cite]
  | cons span rest ih =>
      rw [indexesJudged]
      cases answered : answersTo record span with
      | nil =>
          have fine : ¬Misanswered record span := by simp [Misanswered, answered]
          simp [ih, fine, answered]
      | cons first others =>
          have expressed := misanswered_iff record span
          rw [answered] at expressed
          cases wrong : wrongAnswer (first :: others) (pairingActivationsSinceHandshake record span.1) with
          | some answer =>
              have odd : Misanswered record span := expressed.mpr (by rw [wrong]; rfl)
              simp [wrong, odd, finding, cite]
          | none =>
              have fine : ¬Misanswered record span := fun odd => by
                have isSome := expressed.mp odd
                rw [wrong] at isSome
                cases isSome
              simp [wrong, ih, fine, answered]

theorem blames_iff (checkId : String) (record : ConnectionRecord) (since : Nat) :
    Blames checkId record since ↔
      (∃ span ∈ spans (pairingActivations record since), Misanswered record span) ∨ Unanswered record since := by
  rw [Blames, checkPairingIndex, Unanswered]
  cases sent : pairingActivations record since with
  | nil => simp [spans]
  | cons activation rest =>
      have judged := indexes_judged_fail record checkId (spans (activation :: rest)) []
      simp only [Except.ok.injEq, ne_eq, reduceCtorEq, not_false_eq_true, true_and] at judged ⊢
      rw [← judged]
      simp

-- An index from the future is blamed where an activation of the step reaches it.
theorem reached_blamed (checkId : String) (record : ConnectionRecord) (since : Nat)
    (ordered : record.frames.Pairwise fun first second => first.id < second.id) (answer : RecordedFrame)
    (above : Above record answer) (reached : Reached record since answer) : Blames checkId record since :=
  (blames_iff checkId record since).mpr (Or.inl (reached_misanswered ordered since answer above reached))

omit [UnicodeData] in
theorem unreached_iff (record : ConnectionRecord) (since : Nat) (answer : RecordedFrame) :
    ¬Reached record since answer ↔ ∀ activation ∈ pairingActivations record since, activation.id < answer.id →
      ∃ frame ∈ record.frames, activation.id < frame.id ∧ frame.id < answer.id ∧ handshakes frame = true := by
  rw [Reached]
  push Not
  simp only [ne_eq, Bool.not_eq_false]

omit [UnicodeData] in
theorem answered_right_iff (record : ConnectionRecord) (span : RecordedFrame × Option Nat) :
    ¬Misanswered record span ↔ (answersTo record span ≠ [] →
      ∃ answer ∈ answersTo record span, carriesIndex answer (pairingActivationsSinceHandshake record span.1) = true) ∧
      ∀ answer ∈ answersTo record span, carriesIndex answer (pairingActivationsSinceHandshake record span.1) = true ∨
        below answer (pairingActivationsSinceHandshake record span.1) = true := by
  rw [Misanswered]
  push Not
  simp only [ne_eq, Bool.not_eq_false, and_comm]
  refine and_congr_right fun _ => forall_congr' fun answer => imp_congr_right fun _ => ?_
  cases carriesIndex answer (pairingActivationsSinceHandshake record span.1) <;> simp

-- The indexes from the future that are missed: each is recorded before the step's first activation or behind a
-- handshake that no activation followed, and what was answered in the step was answered with its own index.
theorem missed_iff (checkId : String) (record : ConnectionRecord) (since : Nat)
    (ordered : record.frames.Pairwise fun first second => first.id < second.id) :
    (∃ answer, Above record answer) ∧ ¬Blames checkId record since ↔
      (∃ answer, Above record answer) ∧
      (∀ answer, Above record answer → ∀ activation ∈ pairingActivations record since, activation.id < answer.id →
        ∃ frame ∈ record.frames, activation.id < frame.id ∧ frame.id < answer.id ∧ handshakes frame = true) ∧
      (∀ span ∈ spans (pairingActivations record since), (answersTo record span ≠ [] →
        ∃ answer ∈ answersTo record span, carriesIndex answer (pairingActivationsSinceHandshake record span.1) = true) ∧
        ∀ answer ∈ answersTo record span, carriesIndex answer (pairingActivationsSinceHandshake record span.1) = true ∨
          below answer (pairingActivationsSinceHandshake record span.1) = true) ∧
      ¬Unanswered record since := by
  simp only [← unreached_iff, ← answered_right_iff]
  refine and_congr_right fun _ => ?_
  constructor
  · intro spared
    have silent := spared
    rw [blames_iff, not_or, not_exists] at silent
    refine ⟨fun answer above reached => spared (reached_blamed checkId record since ordered answer above reached), ?_,
      silent.2⟩
    exact fun span isSpan odd => silent.1 span ⟨isSpan, odd⟩
  · rintro ⟨_, right, heard⟩ blamed
    rcases (blames_iff checkId record since).mp blamed with ⟨span, isSpan, odd⟩ | unheard
    · exact right span isSpan odd
    · exact heard unheard

-- The check keeps both its promises, to blame no honest client and to blame every index from the
-- future, exactly where honest answers are timely and such an index is reached or blamed otherwise.
theorem pairing_index_iff (checkId : String) (record : ConnectionRecord) (since : Nat)
    (ordered : record.frames.Pairwise fun first second => first.id < second.id) :
    ((Honest record → ¬Blames checkId record since) ∧
      ((∃ answer, Above record answer) → Blames checkId record since)) ↔
    ((Honest record → Timely record since) ∧
      ((∃ answer, Above record answer) →
        (∃ answer, Above record answer ∧ Reached record since answer) ∨
          (∃ span ∈ spans (pairingActivations record since), Misanswered record span) ∨ Unanswered record since)) := by
  refine and_congr (forall_congr' fun honest => ?_) (forall_congr' fun _ => ?_)
  · rw [blames_iff, or_iff_left (honest_heard record since honest), Timely, not_exists]
    refine forall_congr' fun span => ?_
    rw [honest_misanswered_iff record honest span, not_and_not_right]
  · rw [blames_iff]
    apply Iff.intro
    · exact Or.inr
    · rintro (⟨answer, above, reached⟩ | blamed)
      · exact Or.inl (reached_misanswered ordered since answer above reached)
      · exact blamed

end judged

def recorded (id : Nat) (direction : FrameDirection) (messageType : String) (payload : Fields) : RecordedFrame :=
  { id, connection := 1, clientId := none, direction, phase := .transport, monotonicUs := 0, size := 0
    message := some [("type", .str messageType), ("payload", .obj payload)] }

def activated (id : Nat) : RecordedFrame :=
  recorded id .outbound "server/activate" [("activities", .arr [.str "pairing"])]

def startedUnder (id : Nat) (index : Int) : RecordedFrame :=
  recorded id .inbound "client/pair-init" [("pairing_index", .int index)]

-- The first answer crosses the second activation, and the second one the third.
def crossing : ConnectionRecord where
  number := 1
  frames := [activated 1, activated 2, startedUnder 3 1, activated 4, startedUnder 5 2, startedUnder 6 3]

theorem crossing_replies : replies crossing =
    [(startedUnder 3 1, activated 1), (startedUnder 5 2, activated 2), (startedUnder 6 3, activated 4)] := rfl

theorem crossing_blamed : Honest crossing ∧ @Blames noUnicode "PAIR-DYN-002" crossing 0 := by
  refine ⟨⟨rfl, ?_, ?_⟩, ⟨_, rfl, _, List.mem_singleton.mpr rfl, rfl⟩⟩
  · rw [crossing_replies]
    simp [startedUnder, activated, recorded]
  · rw [crossing_replies]
    simp only [List.forall_mem_cons]
    exact ⟨rfl, rfl, rfl, by simp⟩

theorem crossing_judged :
    ((Honest crossing → ¬@Blames noUnicode "PAIR-DYN-002" crossing 0) ∧
      ((∃ answer, Above crossing answer) → @Blames noUnicode "PAIR-DYN-002" crossing 0)) ↔
    ((Honest crossing → Timely crossing 0) ∧
      ((∃ answer, Above crossing answer) →
        (∃ answer, Above crossing answer ∧ Reached crossing 0 answer) ∨
          (∃ span ∈ spans (pairingActivations crossing 0), Misanswered crossing span) ∨ Unanswered crossing 0)) :=
  @pairing_index_iff noUnicode "PAIR-DYN-002" crossing 0 (by simp [crossing, activated, startedUnder, recorded])

end Conformance.Validator.CodePairing
