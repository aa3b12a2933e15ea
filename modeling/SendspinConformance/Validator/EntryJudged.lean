import SendspinConformance.Validator.EnteredCodes

set_option autoImplicit false

namespace Conformance.Validator.CodePairing.DynamicEntry

open Python Base

-- A call on the entry; the world in which the provider is called is any, and so is the one in which it ends.
inductive Called where
  | provide (before after : World) (heard : List Happening) (ended : Py String)
  | restart

section

variable [UnicodeData] (link : Link) (number : Nat) (digits : Bool)

-- The calls on a step's entry, in any order.
inductive Run : List Called → DynamicEntry → Prop
  | start : Run [] {}
  | provide {calls entry next before after heard ended} : Run calls entry → before.script = heard ++ after.script →
      (provide link number digits).from (entry, before) = some (ended, (next, after)) →
      Run (calls ++ [.provide before after heard ended]) next
  | restart {calls entry} : Run calls entry → Run (calls ++ [.restart]) entry.restart

end

section

variable (number : Nat) (digits : Bool)

def Called.returned : Called → Option String
  | .provide _ _ _ (.ok code) => some code
  | _ => none

def Called.typed : Called → List String
  | .provide _ _ heard _ => typedCodes digits heard
  | .restart => []

def Called.drawn : Called → List String
  | .provide _ _ heard _ => drawnTokens heard
  | .restart => []

-- The code last typed as shown in the attempt: where a call asks for two, the first.
def shownAfter (shown : Option String) : Called → Option String
  | .restart => none
  | call => (call.typed digits).head?.or shown

def shown (calls : List Called) : Option String := calls.foldl (shownAfter digits) none

-- A call returns a code other than the one the user typed as shown.
def ReturnsWrong (prior : List Called) (call : Called) : Prop :=
  ∃ code, call.returned = some code ∧
    (shown digits (prior ++ [call])).map stripSeparators ≠ some (stripSeparators code)

structure EntryRight (calls : List Called) (entry : DynamicEntry) : Prop where
  -- only the first call, and so at most one
  once : ∀ prior call later, calls = prior ++ call :: later → ReturnsWrong digits prior call → prior = []
  entered : entry.wrongEntered = true ↔
    ∃ prior call later, calls = prior ++ call :: later ∧ ReturnsWrong digits prior call
  mark : ∀ prior before after heard ended later, calls = prior ++ .provide before after heard ended :: later →
    ReturnsWrong digits prior (.provide before after heard ended) → entry.wrongMark = Link.lastFrame after number
  restarted : ∀ prior middle call later code, calls = prior ++ .restart :: (middle ++ call :: later) →
    call.returned = some code → code ∈ (middle ++ [call]).flatMap (Called.typed digits)
  judged : entry.shownAgain = [] ∨ ∃ first again later shown code, calls = first :: again :: later ∧
    ReturnsWrong digits [] first ∧ (first.typed digits).head? = some shown ∧ again.returned = some code ∧
    entry.shownAgain = [judgeShownAgain (stripSeparators code == stripSeparators shown)]

-- The wrong code of round 1 is one: the token drawn is not the one pasted, and the code typed as wrong
-- is another than the one shown, or the client asks for no second one in the attempt.
structure WrongGiven (calls : List Called) : Prop where
  token : digits = false → ∀ first later shown token, calls = first :: later → first.typed false = [shown] →
    first.drawn = [token] → stripSeparators token ≠ stripSeparators shown
  typed : digits = true → ∀ first second later, calls = first :: second :: later →
    first.typed true = [] ∨ second.typed true = [] ∨
      ∃ shown wrong, first.typed true = [shown, wrong] ∧ stripSeparators wrong ≠ stripSeparators shown

-- The first call entered the code it got for a wrong one.
def EnteredWrong : Called → Prop
  | .provide _ _ heard (.ok code) =>
      (digits = true ∧ ∃ shown, typedCodes true heard = [shown, code] ∧ stripSeparators code ≠ stripSeparators shown) ∨
        (digits = false ∧ ∃ shown, typedCodes false heard = [shown] ∧ drawnTokens heard = [code])
  | _ => False

-- What the second call judges.
def judgedAgain : Option String → Option String → List Finding
  | some shown, some code => [judgeShownAgain (stripSeparators code == stripSeparators shown)]
  | _, _ => []

def judgements : List Called → List Finding
  | first :: again :: _ => if digits then judgedAgain (first.typed true).head? (again.typed true).head? else []
  | _ => []

-- What a call returned, by what was typed in it and before.
structure Answered (prior : List Called) (call : Called) : Prop where
  returned : ∀ code, call.returned = some code → prior = [] ∨ shown digits (prior ++ [call]) = some code
  first : prior = [] → ∀ code, call.returned = some code → EnteredWrong digits call ∨ shown digits [call] = some code
  typed : prior ≠ [] → ∀ code, (call.typed digits).head? = some code → call.returned = some code
  -- what the first call enters, where it is a wrong code
  wrong : prior = [] → digits = true → ∀ shown wrong, call.typed true = [shown, wrong] →
    stripSeparators wrong ≠ stripSeparators shown → call.returned = some wrong
  token : prior = [] → digits = false → ∀ token, call.drawn = [token] → call.returned = some token

-- What holds of the entry after any calls.
structure Tracked (calls : List Called) (entry : DynamicEntry) : Prop where
  fresh : entry.round = 0 ↔ calls = []
  second : entry.round = 1 → ∃ call, calls = [call]
  lone : ∀ call, calls = [call] → entry.round = 1 ∨ call.typed digits = []
  remembered : digits = false ∨ entry.round ≤ 1 → entry.right = shown digits calls
  entered : entry.wrongEntered = true ↔ ∃ call later, calls = call :: later ∧ EnteredWrong digits call
  mark : ∀ before after heard ended later, calls = .provide before after heard ended :: later →
    EnteredWrong digits (.provide before after heard ended) → entry.wrongMark = Link.lastFrame after number
  judged : entry.shownAgain = judgements digits calls
  each : ∀ prior call later, calls = prior ++ call :: later → Answered digits prior call

theorem snoc_split {α : Type} {calls prior later : List α} {last call : α}
    (split : calls ++ [last] = prior ++ call :: later) :
    (prior = calls ∧ call = last ∧ later = []) ∨ ∃ rest, later = rest ++ [last] ∧ calls = prior ++ call :: rest := by
  rcases List.eq_nil_or_concat later with rfl | ⟨rest, final, rfl⟩
  · obtain ⟨same, ends⟩ := List.append_inj' split rfl
    cases ends
    exact .inl ⟨same.symm, rfl, rfl⟩
  · rw [List.concat_eq_append, ← List.cons_append, ← List.append_assoc] at split
    obtain ⟨same, ends⟩ := List.append_inj' split rfl
    cases ends
    exact .inr ⟨rest, List.concat_eq_append, same⟩

theorem shown_snoc (calls : List Called) (call : Called) :
    shown digits (calls ++ [call]) = shownAfter digits (shown digits calls) call := by
  rw [shown, List.foldl_append]
  rfl

theorem tracked_start : Tracked number digits [] {} where
  fresh := ⟨fun _ => rfl, fun _ => rfl⟩
  lone := by
    intro call split
    cases split
  second := fun round => absurd round (by decide)
  remembered := fun _ => rfl
  entered := by simp
  mark := by
    intro before after heard ended later split
    cases split
  judged := rfl
  each := by
    intro prior call later split
    simp at split

variable {number digits} {calls : List Called} {entry next : DynamicEntry} {before after : World}
  {heard : List Happening} {ended : Py String}

theorem shown_provided : shown digits (calls ++ [.provide before after heard ended]) =
    (typedCodes digits heard).head?.or (shown digits calls) := shown_snoc digits calls _

theorem provided_round (provided : Provided number entry after digits heard ended next) :
    next.round = entry.round + 1 := by
  cases provided with
  | failed _ _ unmarked | cut _ _ _ unmarked | rightAsWrong _ _ _ unmarked | new _ _ _ unmarked | same _ _ _ unmarked =>
      exact unmarked.round
  | wrong _ _ _ marked | token _ _ _ marked => exact marked.round
  | again _ _ _ _ counts => exact counts

-- After the first call, what was noted of a wrong code stays.
theorem provided_later (provided : Provided number entry after digits heard ended next) (later : entry.round ≠ 0) :
    next.wrongEntered = entry.wrongEntered ∧ next.wrongMark = entry.wrongMark := by
  cases provided with
  | failed _ _ unmarked | new _ _ _ unmarked | same _ _ _ unmarked => exact ⟨unmarked.entered, unmarked.mark⟩
  | again _ _ _ _ _ entered mark => exact ⟨entered, mark⟩
  | cut first | rightAsWrong first | wrong first | token first => exact absurd first later

theorem answered_provided (tracked : Tracked number digits calls entry)
    (provided : Provided number entry after digits heard ended next) :
    Answered digits calls (.provide before after heard ended) where
  returned := by
    intro code given
    cases provided with
    | failed | cut => cases given
    | rightAsWrong first | wrong first | token first => exact .inl (tracked.fresh.mp first)
    | new _ typed | again _ typed =>
        cases given
        exact .inr (by rw [shown_provided, typed]; rfl)
    | same _ untyped asked =>
        cases given
        exact .inr (by rw [shown_provided, untyped, ← asked, tracked.remembered (.inl rfl)]; rfl)
  first := by
    intro start code given
    cases provided with
    | failed | cut => cases given
    | rightAsWrong _ typed =>
        cases given
        refine .inr ?_
        change (typedCodes true heard).head?.or none = _
        rw [typed]
        rfl
    | wrong _ typed differs =>
        cases given
        exact .inl (.inl ⟨rfl, _, typed, differs⟩)
    | token _ typed drawn =>
        cases given
        exact .inl (.inr ⟨rfl, _, typed, drawn⟩)
    | new later | again later | same later => exact absurd (tracked.fresh.mpr start) later
  typed := by
    intro late code typedCode
    have later : entry.round ≠ 0 := fun first => late (tracked.fresh.mp first)
    rw [Called.typed] at typedCode
    cases provided with
    | failed untyped | same _ untyped =>
        rw [untyped] at typedCode
        cases typedCode
    | cut first | rightAsWrong first | wrong first | token first => exact absurd first later
    | new _ typed | again _ typed =>
        rw [typed] at typedCode
        cases typedCode
        rfl
  wrong := by
    intro start isDigits shown wrong typedBoth differs
    rw [Called.typed] at typedBoth
    cases provided with
    | failed untyped =>
        rw [isDigits, typedBoth] at untyped
        cases untyped
    | cut _ typed =>
        rw [isDigits, typedBoth] at typed
        cases typed
    | rightAsWrong _ typed same =>
        rw [typedBoth] at typed
        cases typed
        exact absurd same differs
    | wrong _ typed =>
        rw [typedBoth] at typed
        cases typed
        rfl
    | token => cases isDigits
    | new later | again later | same later => exact absurd (tracked.fresh.mpr start) later
  token := by
    intro start isQr token drawnToken
    rw [Called.drawn] at drawnToken
    cases provided with
    | failed _ undrawn | cut _ _ undrawn =>
        rw [undrawn] at drawnToken
        cases drawnToken
    | rightAsWrong | wrong => cases isQr
    | token _ _ drawn =>
        rw [drawn] at drawnToken
        cases drawnToken
        rfl
    | new later | again later | same later => exact absurd (tracked.fresh.mpr start) later

theorem entered_snoc (call : Called) (kept : calls ≠ [] → next.wrongEntered = entry.wrongEntered)
    (started : calls = [] → (next.wrongEntered = true ↔ EnteredWrong digits call))
    (entered : entry.wrongEntered = true ↔ ∃ first later, calls = first :: later ∧ EnteredWrong digits first) :
    next.wrongEntered = true ↔ ∃ first later, calls ++ [call] = first :: later ∧ EnteredWrong digits first := by
  cases calls with
  | nil =>
      rw [started rfl]
      constructor
      · intro wrong
        exact ⟨call, [], rfl, wrong⟩
      · rintro ⟨_, _, ⟨⟩, wrong⟩
        exact wrong
  | cons first later =>
      rw [kept (List.cons_ne_nil _ _), entered]
      constructor
      · rintro ⟨_, _, ⟨⟩, wrong⟩
        exact ⟨first, later ++ [call], rfl, wrong⟩
      · rintro ⟨_, _, ⟨⟩, wrong⟩
        exact ⟨first, later, rfl, wrong⟩

theorem mark_snoc (call : Called) (kept : calls ≠ [] → next.wrongMark = entry.wrongMark)
    (started : ∀ before after heard ended, calls = [] → call = .provide before after heard ended →
      EnteredWrong digits call → next.wrongMark = Link.lastFrame after number)
    (mark : ∀ before after heard ended later, calls = .provide before after heard ended :: later →
      EnteredWrong digits (.provide before after heard ended) → entry.wrongMark = Link.lastFrame after number) :
    ∀ before after heard ended later, calls ++ [call] = .provide before after heard ended :: later →
      EnteredWrong digits (.provide before after heard ended) → next.wrongMark = Link.lastFrame after number := by
  intro before after heard ended later split wrong
  cases calls with
  | nil =>
      cases split
      exact started _ _ _ _ rfl rfl wrong
  | cons first others =>
      cases split
      exact (kept (List.cons_ne_nil _ _)).trans (mark _ _ _ _ _ rfl wrong)

theorem each_snoc (call : Called) (last : Answered digits calls call)
    (each : ∀ prior call later, calls = prior ++ call :: later → Answered digits prior call) :
    ∀ prior other later, calls ++ [call] = prior ++ other :: later → Answered digits prior other := by
  intro prior other later split
  rcases snoc_split split with ⟨rfl, rfl, _⟩ | ⟨rest, _, split⟩
  · exact last
  · exact each prior other rest split

-- Calls after the second judge nothing more.
theorem judgements_snoc (first second : Called) (later : List Called) (call : Called) :
    judgements digits (first :: second :: later ++ [call]) = judgements digits (first :: second :: later) := rfl

theorem judgements_unshown (first again : Called) (absent : first.typed true = []) :
    judgements true [first, again] = [] := by
  change judgedAgain (first.typed true).head? _ = []
  rw [absent]
  rfl

theorem judgements_untyped (first again : Called) (absent : again.typed true = []) :
    judgements true [first, again] = [] := by
  change judgedAgain _ (again.typed true).head? = []
  rw [absent]
  cases (first.typed true).head? <;> rfl

theorem judged_second {first : Called} (tracked : Tracked number digits [first] entry)
    (provided : Provided number entry after digits heard ended next) :
    next.shownAgain = judgements digits [first, .provide before after heard ended] := by
  have judged : entry.shownAgain = [] := tracked.judged
  have later : entry.round ≠ 0 := fun round => by cases tracked.fresh.mp round
  have typedFirst : entry.round = 1 → entry.right = (first.typed digits).head? := by
    intro round
    have remembered := tracked.remembered (.inr round.le)
    cases first with
    | restart => exact remembered
    | provide _ _ _ _ => exact remembered.trans (Option.or_none)
  cases provided with
  | failed untyped _ unmarked =>
      cases digits with
      | false => exact unmarked.judged.trans judged
      | true =>
          rw [judgements_untyped first (.provide before after heard _) untyped]
          exact unmarked.judged.trans judged
  | new _ typed asked unmarked =>
      cases digits with
      | false => exact unmarked.judged.trans judged
      | true =>
          have absent : first.typed true = [] := by
            rcases tracked.lone first rfl with round | absent
            · exact List.head?_eq_none_iff.mp ((typedFirst round).symm.trans asked)
            · exact absent
          rw [judgements_unshown first _ absent]
          exact unmarked.judged.trans judged
  | again _ typed asked _ _ _ _ added =>
      rw [added, judged, List.nil_append]
      by_cases round : entry.round = 1
      · rw [if_pos round]
        change _ = judgedAgain (first.typed true).head? (typedCodes true heard).head?
        rw [← typedFirst round, asked, typed]
        rfl
      · rw [if_neg round, judgements_unshown _ _ ((tracked.lone first rfl).resolve_left round)]
  | same _ _ _ unmarked => exact unmarked.judged.trans judged
  | cut round | rightAsWrong round | wrong round | token round => exact absurd round later

theorem judged_provided (tracked : Tracked number digits calls entry)
    (provided : Provided number entry after digits heard ended next) :
    next.shownAgain = judgements digits (calls ++ [.provide before after heard ended]) := by
  have judged := tracked.judged
  rcases calls with _ | ⟨first, _ | ⟨second, later⟩⟩
  · -- round 1 judges nothing of it
    have round := tracked.fresh.mpr rfl
    cases provided with
    | failed _ _ unmarked | cut _ _ _ unmarked | rightAsWrong _ _ _ unmarked => exact unmarked.judged.trans judged
    | wrong _ _ _ marked | token _ _ _ marked => exact marked.judged.trans judged
    | new later | again later | same later => exact absurd round later
  · exact judged_second tracked provided
  · rw [judgements_snoc, ← judged]
    have round : entry.round ≠ 1 := by
      intro round
      obtain ⟨call, split⟩ := tracked.second round
      cases split
    have later : entry.round ≠ 0 := fun round => by cases tracked.fresh.mp round
    cases provided with
    | failed _ _ unmarked | new _ _ _ unmarked | same _ _ _ unmarked => exact unmarked.judged
    | again _ _ _ _ _ _ _ judged => rw [judged, if_neg round, List.append_nil]
    | cut round | rightAsWrong round | wrong round | token round => exact absurd round later

theorem remembered_provided (tracked : Tracked number digits calls entry)
    (provided : Provided number entry after digits heard ended next) (early : digits = false ∨ next.round ≤ 1) :
    next.right = shown digits (calls ++ [.provide before after heard ended]) := by
  have round := provided_round provided
  rw [shown_provided]
  have before : entry.right = shown digits calls := by
    apply tracked.remembered
    rcases early with qr | early
    · exact .inl qr
    · exact .inr (by omega)
  cases provided with
  | failed untyped _ _ remembered => rw [untyped, remembered, before]; rfl
  | same _ untyped asked _ remembered => rw [untyped, remembered, ← asked, before]; rfl
  | cut _ typed _ _ remembered | rightAsWrong _ typed _ _ remembered | wrong _ typed _ _ remembered
    | token _ typed _ _ remembered | new _ typed _ _ remembered => rw [typed, remembered]; rfl
  | again later =>
      rcases early with qr | early
      · cases qr
      · omega

-- What the first call notes of a wrong code.
theorem first_entered (provided : Provided number entry after digits heard ended next) (round : entry.round = 0)
    (unentered : entry.wrongEntered = false) :
    (next.wrongEntered = true ↔ EnteredWrong digits (.provide before after heard ended)) ∧
      (EnteredWrong digits (.provide before after heard ended) → next.wrongMark = Link.lastFrame after number) := by
  have neither (none : next.wrongEntered = false) (right : ¬ EnteredWrong digits (.provide before after heard ended)) :
      (next.wrongEntered = true ↔ EnteredWrong digits (.provide before after heard ended)) ∧
        (EnteredWrong digits (.provide before after heard ended) → next.wrongMark = Link.lastFrame after number) := by
    rw [none]
    exact ⟨⟨fun entered => Bool.noConfusion entered, fun wrong => absurd wrong right⟩, fun wrong => absurd wrong right⟩
  cases provided with
  | failed _ _ unmarked | cut _ _ _ unmarked => exact neither (unmarked.entered.trans unentered) id
  | rightAsWrong _ typed same unmarked =>
      apply neither (unmarked.entered.trans unentered)
      rintro (⟨_, shown, typedToo, differs⟩ | ⟨qr, _⟩)
      · rw [typed] at typedToo
        cases typedToo
        exact differs rfl
      · cases qr
  | wrong _ typed differs marked =>
      have wrong : EnteredWrong true (.provide before after heard (.ok _)) := .inl ⟨rfl, _, typed, differs⟩
      exact ⟨⟨fun _ => wrong, fun _ => marked.entered⟩, fun _ => marked.mark⟩
  | token _ typed drawn marked =>
      have wrong : EnteredWrong false (.provide before after heard (.ok _)) := .inr ⟨rfl, _, typed, drawn⟩
      exact ⟨⟨fun _ => wrong, fun _ => marked.entered⟩, fun _ => marked.mark⟩
  | new later | again later | same later => exact absurd round later

theorem tracked_provided (tracked : Tracked number digits calls entry)
    (provided : Provided number entry after digits heard ended next) :
    Tracked number digits (calls ++ [.provide before after heard ended]) next := by
  have round := provided_round provided
  have later : calls ≠ [] → entry.round ≠ 0 := fun some first => some (tracked.fresh.mp first)
  have unentered : calls = [] → entry.wrongEntered = false := by
    rintro rfl
    rw [Bool.eq_false_iff]
    intro entered
    obtain ⟨_, _, ⟨⟩, _⟩ := tracked.entered.mp entered
  have first : calls = [] → (next.wrongEntered = true ↔ EnteredWrong digits (.provide before after heard ended)) ∧
      (EnteredWrong digits (.provide before after heard ended) → next.wrongMark = Link.lastFrame after number) :=
    fun start => first_entered provided (tracked.fresh.mpr start) (unentered start)
  refine ⟨?_, ?_, ?_, ?_, ?_, ?_, judged_provided tracked provided, each_snoc _ (answered_provided tracked provided)
    tracked.each⟩
  · rw [round]
    simp
  · intro second
    rw [tracked.fresh.mp (by omega)]
    exact ⟨_, rfl⟩
  · intro call split
    have start : calls = [] := (List.append_eq_singleton_iff.mp split).elim And.left fun both => by cases both.2
    exact .inl (by rw [round, tracked.fresh.mpr start])
  · exact remembered_provided tracked provided
  · exact entered_snoc _ (fun some => (provided_later provided (later some)).1) (fun start => (first start).1)
      tracked.entered
  · refine mark_snoc _ (fun some => (provided_later provided (later some)).2) ?_ tracked.mark
    rintro _ _ _ _ start ⟨⟩ wrong
    exact (first start).2 wrong

theorem answered_restart : Answered digits calls .restart where
  returned := by
    intro code given
    cases given
  first := by
    intro _ code given
    cases given
  typed := by
    intro _ code given
    cases given
  wrong := by
    intro _ _ shown wrong typed
    cases typed
  token := by
    intro _ _ token drawn
    cases drawn

theorem tracked_restart (tracked : Tracked number digits calls entry) :
    Tracked number digits (calls ++ [.restart]) entry.restart where
  fresh := by
    constructor
    · intro round
      cases round
    · intro none
      simp at none
  second := by
    intro round
    cases round
  lone := by
    intro call split
    rcases List.append_eq_singleton_iff.mp split with ⟨_, same⟩ | ⟨_, none⟩
    · cases same
      exact .inr rfl
    · cases none
  remembered := by
    intro _
    rw [shown_snoc]
    rfl
  entered := by
    apply entered_snoc .restart (fun _ => rfl) _ tracked.entered
    rintro rfl
    constructor
    · intro entered
      obtain ⟨_, _, ⟨⟩, _⟩ := tracked.entered.mp entered
    · intro wrong
      cases wrong
  mark := by
    refine mark_snoc .restart (fun _ => rfl) ?_ tracked.mark
    intro _ _ _ _ _ same
    cases same
  judged := by
    refine (show entry.restart.shownAgain = entry.shownAgain from rfl).trans (tracked.judged.trans ?_)
    rcases calls with _ | ⟨first, _ | ⟨second, later⟩⟩
    · rfl
    · cases digits with
      | false => rfl
      | true => exact (judgements_untyped first .restart rfl).symm
    · rfl
  each := each_snoc .restart answered_restart tracked.each

-- A code other than the one shown is returned by the first call alone, which enters it for a wrong one.
theorem returned_wrong (tracked : Tracked number digits calls entry) {prior later : List Called} {call : Called}
    (split : calls = prior ++ call :: later) (wrong : ReturnsWrong digits prior call) :
    prior = [] ∧ EnteredWrong digits call := by
  obtain ⟨code, given, differs⟩ := wrong
  have answered := tracked.each prior call later split
  have start : prior = [] := by
    rcases answered.returned code given with start | right
    · exact start
    · rw [right] at differs
      exact absurd rfl differs
  refine ⟨start, (answered.first start code given).resolve_right fun right => ?_⟩
  rw [start, List.nil_append, right] at differs
  exact differs rfl

theorem shown_first (call : Called) {code : String} (typed : (call.typed digits).head? = some code) :
    shown digits ([] ++ [call]) = some code := by
  cases call with
  | restart => cases typed
  | provide _ _ _ _ =>
      change Option.or (Called.typed digits _).head? none = _
      rw [typed]
      rfl

-- The code the first call enters for a wrong one is another than the one shown, if one was given.
theorem entered_differs (given : WrongGiven digits calls) {call : Called} {later : List Called}
    (split : calls = call :: later) (wrong : EnteredWrong digits call) : ReturnsWrong digits [] call := by
  rcases call with ⟨before, after, heard, raised | code⟩ | _
  · cases wrong
  · rcases wrong with ⟨rfl, shown, typed, differs⟩ | ⟨rfl, shown, typed, drawn⟩
    · refine ⟨code, rfl, ?_⟩
      have isShown : (Called.typed true (.provide before after heard (.ok code))).head? = some shown := by
        rw [Called.typed, typed]
        rfl
      rw [shown_first _ isShown]
      simpa using Ne.symm differs
    · refine ⟨code, rfl, ?_⟩
      have isShown : (Called.typed false (.provide before after heard (.ok code))).head? = some shown := by
        rw [Called.typed, typed]
        rfl
      rw [shown_first _ isShown]
      simpa using Ne.symm (given.token rfl _ _ shown _ split typed drawn)
  · cases wrong

-- What is taken as shown was typed, unless it was so before.
theorem shown_typed (later : List Called) (start : Option String) (code : String)
    (isShown : later.foldl (shownAfter digits) start = some code) :
    start = some code ∨ code ∈ later.flatMap (Called.typed digits) := by
  induction later generalizing start with
  | nil => exact .inl isShown
  | cons call rest ih =>
      rw [List.flatMap_cons, List.mem_append]
      rcases ih _ isShown with now | typed
      · cases call with
        | restart => cases now
        | provide before after heard ended =>
            rcases Option.or_eq_some_iff.mp now with typed | ⟨_, earlier⟩
            · exact .inr (.inl (List.mem_of_mem_head? typed))
            · exact .inl earlier
      · exact .inr (.inr typed)

-- After a restart a code returned was typed since.
theorem returned_since (tracked : Tracked number digits calls entry) {prior middle later : List Called} {call : Called}
    {code : String} (split : calls = prior ++ .restart :: (middle ++ call :: later)) (given : call.returned = some code) :
    code ∈ (middle ++ [call]).flatMap (Called.typed digits) := by
  have whole : calls = (prior ++ .restart :: middle) ++ call :: later := by rw [split]; simp
  rcases (tracked.each _ call later whole).returned code given with none | isShown
  · simp at none
  · have since : shown digits (prior ++ .restart :: middle ++ [call]) =
        (middle ++ [call]).foldl (shownAfter digits) none := by
      rw [shown, List.append_assoc, List.foldl_append]
      rfl
    exact (shown_typed _ none code (since.symm.trans isShown)).resolve_left nofun

-- The code is judged to be shown again at most once, after a wrong one that was given.
theorem judged_given (tracked : Tracked number digits calls entry) (given : WrongGiven digits calls) :
    entry.shownAgain = [] ∨ ∃ first again later shown code, calls = first :: again :: later ∧
      ReturnsWrong digits [] first ∧ (first.typed digits).head? = some shown ∧ again.returned = some code ∧
      entry.shownAgain = [judgeShownAgain (stripSeparators code == stripSeparators shown)] := by
  rw [tracked.judged]
  rcases calls with _ | ⟨first, _ | ⟨again, later⟩⟩
  · exact .inl rfl
  · exact .inl rfl
  · cases digits with
    | false => exact .inl rfl
    | true =>
        change judgedAgain (first.typed true).head? (again.typed true).head? = [] ∨ _
        cases shown : (first.typed true).head? with
        | none => exact .inl rfl
        | some shownCode =>
            cases typed : (again.typed true).head? with
            | none => exact .inl rfl
            | some code =>
                refine .inr ⟨first, again, later, shownCode, code, rfl, ?_, shown, ?_, ?_⟩
                · rcases given.typed rfl first again later rfl with none | none | ⟨_, wrong, both, differs⟩
                  · rw [none] at shown
                    cases shown
                  · rw [none] at typed
                    cases typed
                  · have returned := (tracked.each [] first _ rfl).wrong rfl rfl _ wrong both differs
                    rw [both] at shown
                    cases shown
                    refine ⟨wrong, returned, ?_⟩
                    rw [shown_first first (by rw [both]; rfl)]
                    simpa using Ne.symm differs
                · exact (tracked.each [first] again later rfl).typed (List.cons_ne_nil _ _) code typed
                · change judgedAgain (first.typed true).head? (again.typed true).head? = _
                  rw [shown, typed]
                  rfl

-- A token drawn that is the one pasted is noted as a wrong code.
theorem right_token (tracked : Tracked number false calls entry) (right : EntryRight number false calls entry)
    {first : Called} {later : List Called} {shownCode token : String} (split : calls = first :: later)
    (typed : first.typed false = [shownCode]) (drawn : first.drawn = [token]) :
    stripSeparators token ≠ stripSeparators shownCode := by
  have returned := (tracked.each [] first later split).token rfl rfl token drawn
  have entered : EnteredWrong false first := by
    rcases first with ⟨before, after, heard, raised | code⟩ | _
    · cases returned
    · cases returned
      exact .inr ⟨rfl, shownCode, typed, drawn⟩
    · cases returned
  obtain ⟨prior, call, rest, splitToo, wrong⟩ := right.entered.mp (tracked.entered.mpr ⟨first, later, split, entered⟩)
  obtain ⟨rfl, _⟩ := returned_wrong tracked splitToo wrong
  cases split.symm.trans splitToo
  obtain ⟨code, given, differs⟩ := wrong
  cases returned.symm.trans given
  rw [shown_first first (by rw [typed]; rfl)] at differs
  simpa using Ne.symm differs

-- Where a second code is judged, the first call was given a wrong one.
theorem right_typed (tracked : Tracked number true calls entry) (right : EntryRight number true calls entry)
    {first second : Called} {later : List Called} (split : calls = first :: second :: later) :
    first.typed true = [] ∨ second.typed true = [] ∨
      ∃ shown wrong, first.typed true = [shown, wrong] ∧ stripSeparators wrong ≠ stripSeparators shown := by
  have judged := tracked.judged
  rw [split] at judged
  change _ = judgedAgain (first.typed true).head? (second.typed true).head? at judged
  cases isShown : (first.typed true).head? with
  | none => exact .inl (List.head?_eq_none_iff.mp isShown)
  | some shownCode =>
      cases typed : (second.typed true).head? with
      | none => exact .inr (.inl (List.head?_eq_none_iff.mp typed))
      | some code =>
          rw [isShown, typed] at judged
          rcases right.judged with none | ⟨call, again, rest, _, _, splitToo, wrong, _⟩
          · rw [none] at judged
            cases judged
          · cases split.symm.trans splitToo
            have entered := (returned_wrong tracked (split : calls = [] ++ first :: (second :: later)) wrong).2
            rcases first with ⟨before, after, heard, raised | given⟩ | _
            · cases entered
            · rcases entered with ⟨_, shownToo, both, differs⟩ | ⟨qr, _⟩
              · exact .inr (.inr ⟨shownToo, given, both, differs⟩)
              · cases qr
            · cases entered

section

variable [UnicodeData] (link : Link)

theorem tracked_run (run : Run link number digits calls entry) : Tracked number digits calls entry := by
  induction run with
  | start => exact tracked_start number digits
  | provide _ split ran tracked =>
      obtain ⟨heard, same, provided⟩ := provide_heard link number digits _ _ _ _ _ ran
      rw [split] at same
      rw [List.append_cancel_right same]
      exact tracked_provided tracked provided
  | restart _ tracked => exact tracked_restart tracked

-- The attempts of a step make such calls and no others.
theorem step_runs (number : Nat) (digits : Bool) :
    Keeps (fun entry => ∃ calls, Run link number digits calls entry) (dynamicAttempt link number digits) := by
  apply dynamic_attempt_holds
  · rintro ⟨entry, before⟩ ended ⟨next, after⟩ ⟨calls, run⟩ ran
    obtain ⟨heard, split, _⟩ := provide_heard link number digits _ _ _ _ _ ran
    exact ⟨_, .provide run split ran⟩
  · rintro entry ⟨calls, run⟩
    exact ⟨_, .restart run⟩

theorem entry_judged (run : Run link number digits calls entry) :
    EntryRight number digits calls entry ↔ WrongGiven digits calls := by
  have tracked := tracked_run link run
  constructor
  · intro right
    constructor
    · rintro rfl first later shownCode token split typed drawn
      exact right_token tracked right split typed drawn
    · rintro rfl first second later split
      exact right_typed tracked right split
  · intro given
    constructor
    · intro prior call later split wrong
      exact (returned_wrong tracked split wrong).1
    · rw [tracked.entered]
      constructor
      · rintro ⟨call, later, split, wrong⟩
        exact ⟨[], call, later, split, entered_differs given split wrong⟩
      · rintro ⟨prior, call, later, split, wrong⟩
        obtain ⟨rfl, entered⟩ := returned_wrong tracked split wrong
        exact ⟨call, later, split, entered⟩
    · intro prior before after heard ended later split wrong
      obtain ⟨rfl, entered⟩ := returned_wrong tracked split wrong
      exact tracked.mark before after heard ended later split entered
    · intro prior middle call later code split returned
      exact returned_since tracked split returned
    · exact judged_given tracked given

end

end

-- A user who types these lines, one at a prompt.
def typing (lines : List String) : World := { script := lines.map fun line => .text ⟨.answered, some line⟩ }

def prompting : Link := ⟨"client", none, [], fun _ => .notJson ""⟩

-- A step of two calls, in each of which the user types these lines.
theorem two_calls (first second : List String) (firstCode secondCode : String) (entry next : DynamicEntry)
    (between after : World) (readFirst : between.script = []) (readSecond : after.script = [])
    (one : (@provide noUnicode prompting 1 true).from ({}, typing first) = some (.ok firstCode, (entry, between)))
    (two : (@provide noUnicode prompting 1 true).from (entry, typing second) = some (.ok secondCode, (next, after))) :
    @Run noUnicode prompting 1 true
      [.provide (typing first) between (typing first).script (.ok firstCode),
        .provide (typing second) after (typing second).script (.ok secondCode)] next := by
  let _ := noUnicode
  have begun : Run prompting 1 true [.provide (typing first) between (typing first).script (.ok firstCode)] entry :=
    .provide .start (by rw [readFirst, List.append_nil]) one
  exact .provide begun (by rw [readSecond, List.append_nil]) two

-- The code shown, a wrong one, and the code shown again.
theorem wrong_code_entered : ∃ calls entry, @Run noUnicode prompting 1 true calls entry ∧
    entry.wrongEntered = true ∧ entry.shownAgain = [judgeShownAgain true] ∧ EntryRight 1 true calls entry := by
  have run := two_calls ["123456", "654321"] ["123 456"] "654321" "123 456" _ _ _ _ rfl rfl rfl rfl
  refine ⟨_, _, run, rfl, rfl, (@entry_judged 1 true _ _ noUnicode prompting run).mpr ⟨nofun, ?_⟩⟩
  rintro _ first second later split
  cases split
  exact .inr (.inr ⟨"123456", "654321", by decide +kernel, by decide +kernel⟩)

-- The code shown, the same as a wrong one, and another: the second is judged although no wrong one was entered.
theorem right_code_blamed : ∃ calls entry, @Run noUnicode prompting 1 true calls entry ∧
    entry.wrongEntered = false ∧ entry.shownAgain = [judgeShownAgain false] ∧ ¬ EntryRight 1 true calls entry := by
  have run := two_calls ["123456", "123-456"] ["654321"] "123456" "654321" _ _ _ _ rfl rfl rfl rfl
  refine ⟨_, _, run, rfl, rfl, ?_⟩
  intro right
  rcases right.judged with none | ⟨first, again, later, _, _, split, wrong, _⟩
  · cases none
  · cases split
    obtain ⟨code, given, differs⟩ := wrong
    cases given
    exact differs (by decide +kernel)

end Conformance.Validator.CodePairing.DynamicEntry
