import SendspinConformance.Validator.CodePairingReported

set_option autoImplicit false

namespace Conformance.Validator.CodePairing

open Python Base

section

variable (digits : Bool)

-- The code a happening is the user's answer of, where the prompt takes it.
def typedCode : Happening → Option String
  | .text ⟨.answered, some line⟩ =>
      if digits = false ∨ isCode dynamicDigits (stripSeparators (strip line)) then some (strip line) else none
  | _ => none

-- The token a happening draws.
def drawnToken : Happening → Option String
  | .drawn number => some (encodePairingCodeToken (littleEndian qrCodeSize number))
  | _ => none

-- The codes the user typed while something ran, and the tokens drawn meanwhile.
def typedCodes (heard : List Happening) : List String := heard.filterMap (typedCode digits)

def drawnTokens (heard : List Happening) : List String := heard.filterMap drawnToken

-- The code something ended with, if with one.
def givenCodes : Py (Option String) → List String
  | .ok code => code.toList
  | .error _ => []

theorem heard_append (digits : Bool) (first second : List Happening) :
    typedCodes digits (first ++ second) = typedCodes digits first ++ typedCodes digits second ∧
      drawnTokens (first ++ second) = drawnTokens first ++ drawnTokens second :=
  ⟨List.filterMap_append, List.filterMap_append⟩

-- However the program ends, it took what it heard from the front of the script.
def Hears {α : Type} (program : Action α) (post : Py α → List Happening → Prop) : Prop :=
  ∀ before ended after, program.from before = some (ended, after) →
    ∃ heard, before.script = heard ++ after.script ∧ post ended heard

-- A wait for the user: what passed before it ended was neither typed nor drawn.
theorem await_from_heard {α : Type} (link : Link) (ends : Happening → Option α) (script : List Happening)
    (world after : World) (ended : Py α) (ran : Link.awaitFrom link ends script world = some (ended, after)) :
    ∃ quiet last, script = quiet ++ last :: after.script ∧ typedCodes digits quiet = [] ∧ drawnTokens quiet = [] ∧
      ((∃ value, ends last = some value ∧ ended = .ok value) ∨ ∃ error, last = .raised error ∧ ended = .error error) := by
  induction script generalizing world with
  | nil => cases ran
  | cons happening rest ih =>
      cases happening with
      | called _ | client _ | paired _ | unpaired _ | written | locked =>
          obtain ⟨quiet, last, split, untyped, undrawn, stops⟩ := ih _ ran
          refine ⟨_ :: quiet, last, congrArg _ split, ?_, ?_, stops⟩
          · exact untyped
          · exact undrawn
      | raised error =>
          cases ran
          exact ⟨[], _, rfl, rfl, rfl, .inr ⟨error, rfl, rfl⟩⟩
      | _ =>
          obtain ⟨value, found, same⟩ := Option.map_eq_some_iff.mp ran
          cases same
          exact ⟨[], _, rfl, rfl, rfl, .inl ⟨value, found, rfl⟩⟩

-- Turns until one gives a code hear what that turn does.
theorem repeated_heard {turn : Action (Option String)}
    (each : Hears turn fun ended heard => drawnTokens heard = [] ∧ typedCodes digits heard = givenCodes ended)
    (turns : Nat) : Hears (Program.repeated turn turns) fun ended heard =>
      drawnTokens heard = [] ∧ typedCodes digits heard = givenCodes (ended.map some) := by
  induction turns with
  | zero =>
      intro before ended after ran
      cases ran
  | succ turns ih =>
      intro before ended after ran
      rw [Program.repeated] at ran
      rcases bind_ended ran with ⟨value, between, turned, followed⟩ | ⟨raised, turned, rfl⟩
      · obtain ⟨heard, split, undrawn, typed⟩ := each before _ _ turned
        cases value with
        | some code =>
            cases followed
            exact ⟨heard, split, undrawn, typed⟩
        | none =>
            obtain ⟨further, splits, undrawnToo, typedToo⟩ := ih between ended after followed
            refine ⟨heard ++ further, ?_, ?_, ?_⟩
            · rw [split, splits, List.append_assoc]
            · rw [drawnTokens, List.filterMap_append, ← drawnTokens, ← drawnTokens, undrawn, undrawnToo]
              rfl
            · rw [typedCodes, List.filterMap_append, ← typedCodes, ← typedCodes, typed, typedToo]
              rfl
      · exact each before _ after turned

-- What is heard in all where nothing was typed or drawn before the last.
theorem heard_last (quiet : List Happening) (last : Happening) (untyped : typedCodes digits quiet = [])
    (undrawn : drawnTokens quiet = []) : typedCodes digits (quiet ++ [last]) = (typedCode digits last).toList ∧
      drawnTokens (quiet ++ [last]) = (drawnToken last).toList := by
  rw [typedCodes, drawnTokens, List.filterMap_append, List.filterMap_append, ← typedCodes, ← drawnTokens, untyped, undrawn]
  constructor
  · cases typed : typedCode digits last <;> simp [typed]
  · cases drawn : drawnToken last <;> simp [drawn]

-- What a wait for one of the user's answers, or for a number, heard.
theorem await_heard {α : Type} (link : Link) (ends : Happening → Option α) (before after : World) (value : α)
    (ran : (link.await ends).from before = some (.ok value, after)) :
    ∃ quiet last, before.script = quiet ++ [last] ++ after.script ∧ ends last = some value ∧
      typedCodes digits (quiet ++ [last]) = (typedCode digits last).toList ∧
      drawnTokens (quiet ++ [last]) = (drawnToken last).toList := by
  obtain ⟨quiet, last, split, untyped, undrawn, stops⟩ := await_from_heard digits link ends _ _ _ _ ran
  rcases stops with ⟨_, found, same⟩ | ⟨error, _, same⟩
  · cases same
    refine ⟨quiet, last, ?_, found, heard_last digits quiet last untyped undrawn⟩
    rw [split, List.append_assoc]
    rfl
  · cases same

-- A wait that raises heard nothing typed or drawn.
theorem await_raised {α : Type} (link : Link) (ends : Happening → Option α) (before after : World) (raised : PyError)
    (ran : (link.await ends).from before = some (.error raised, after)) :
    ∃ heard, before.script = heard ++ after.script ∧ drawnTokens heard = [] ∧ typedCodes digits heard = [] := by
  obtain ⟨quiet, last, split, untyped, undrawn, stops⟩ := await_from_heard digits link ends _ _ _ _ ran
  rcases stops with ⟨value, _, same⟩ | ⟨error, isError, same⟩
  · cases same
  · obtain ⟨typed, drawn⟩ := heard_last digits quiet last untyped undrawn
    rw [isError] at split typed drawn
    exact ⟨quiet ++ [.raised error], by rw [split, List.append_assoc]; rfl, drawn, typed⟩

end

section

variable [UnicodeData] (link : Link)

-- Whatever the user answers, a prompt for a code takes it as the code typed, or asks again.
theorem ask_code_typed (recorder : Recorder) (line : String) :
    (askCode dynamicDigits recorder line).2 = .ok (typedCode true (.text ⟨.answered, some line⟩)) := by
  rw [askCode, typedCode]
  by_cases isDigits : isCode dynamicDigits (stripSeparators (strip line)) = true
  · simp only [isDigits, if_true, or_true, formatPairingCode, Bool.true_or]
  · simp only [isDigits]
    rfl

-- An answer to the prompt: it is a code, or the prompt asks again, or the user skips it.
theorem code_answered (answer : Answer String) (world later : World) (outcome : Py (Option String))
    (ran : Program.from (match answer.reply, answer.value with
      | .retry, _ => return none
      | .answered, some line => do
          let asked := askCode dynamicDigits (← Program.current).recorder line
          Program.change fun world => { world with recorder := asked.1 }
          Program.outcome asked.2
      | _, _ => throw skippedError : Action (Option String)) world = some (outcome, later)) :
    later.script = world.script ∧ (typedCode true (.text answer)).toList = givenCodes outcome := by
  rcases answer with ⟨reply, value⟩
  cases reply with
  | answered =>
      cases value with
      | some line =>
          obtain ⟨rfl, rfl⟩ := Prod.mk.inj (Option.some.inj ran)
          rw [ask_code_typed]
          exact ⟨rfl, rfl⟩
      | none =>
          obtain ⟨rfl, rfl⟩ := Prod.mk.inj (Option.some.inj ran)
          exact ⟨rfl, rfl⟩
  | skip | retry | notSure =>
      obtain ⟨rfl, rfl⟩ := Prod.mk.inj (Option.some.inj ran)
      exact ⟨rfl, rfl⟩

-- The same for the prompt for a QR code's text.
theorem token_answered (answer : Answer String) (world later : World) (outcome : Py (Option String))
    (ran : Program.from (match answer.reply, answer.value with
      | .retry, _ => return none
      | .answered, some line => do
          let asked := askToken (← Program.current).recorder line
          Program.change fun world => { world with recorder := asked.1 }
          return some asked.2
      | _, _ => throw skippedError : Action (Option String)) world = some (outcome, later)) :
    later.script = world.script ∧ (typedCode false (.text answer)).toList = givenCodes outcome := by
  rcases answer with ⟨reply, value⟩
  cases reply with
  | answered =>
      cases value with
      | some line =>
          have pasted : (askToken world.recorder line).2 = strip line := by
            delta askToken
            dsimp only
            split <;> rfl
          obtain ⟨rfl, rfl⟩ := Prod.mk.inj (Option.some.inj ran)
          refine ⟨rfl, ?_⟩
          change _ = [(askToken world.recorder line).2]
          rw [pasted, typedCode, if_pos (.inl rfl)]
          rfl
      | none =>
          obtain ⟨rfl, rfl⟩ := Prod.mk.inj (Option.some.inj ran)
          exact ⟨rfl, rfl⟩
  | skip | retry | notSure =>
      obtain ⟨rfl, rfl⟩ := Prod.mk.inj (Option.some.inj ran)
      exact ⟨rfl, rfl⟩

omit [UnicodeData] in
-- A prompt that asks until the user's answer gives a code hears that code typed.
theorem prompt_heard (digits : Bool) (reaction : Answer String → Action (Option String))
    (answered : ∀ answer world later outcome, (reaction answer).from world = some (outcome, later) →
      later.script = world.script ∧ (typedCode digits (.text answer)).toList = givenCodes outcome) :
    Hears (foreverHere (link.askText >>= reaction)) fun ended heard =>
      drawnTokens heard = [] ∧ typedCodes digits heard = givenCodes (ended.map some) := by
  intro before ended after ran
  refine repeated_heard digits ?_ (before.script.length + 1) before ended after ran
  intro state outcome later turned
  rcases bind_ended turned with ⟨answer, between, asked, followed⟩ | ⟨raised, asked, rfl⟩
  · obtain ⟨quiet, last, split, isText, typed, drawn⟩ := await_heard digits link _ _ _ _ asked
    cases last with
    | text given =>
        cases isText
        obtain ⟨unread, taken⟩ := answered answer between later outcome followed
        exact ⟨_, by rw [split, unread], drawn, typed.trans taken⟩
    | _ => cases isText
  · exact await_raised digits link _ _ _ _ asked

-- What a step asks the user for the code shown with.
def promptShown (digits : Bool) : Action String :=
  if digits then promptCode link dynamicDigits else promptToken link

theorem prompt_shown_heard (digits : Bool) : Hears (promptShown link digits) fun ended heard =>
    drawnTokens heard = [] ∧ typedCodes digits heard = givenCodes (ended.map some) := by
  cases digits with
  | true => exact prompt_heard link true _ code_answered
  | false => exact prompt_heard link false _ token_answered

theorem wrong_token_heard (digits : Bool) : Hears (wrongToken link) fun ended heard =>
    typedCodes digits heard = [] ∧ drawnTokens heard = givenCodes (ended.map some) := by
  intro before ended after ran
  rcases bind_ended ran with ⟨number, between, drew, followed⟩ | ⟨raised, drew, rfl⟩
  · obtain ⟨quiet, last, split, isDrawn, typed, drawn⟩ := await_heard digits link _ _ _ _ drew
    cases last with
    | drawn given =>
        dsimp only at isDrawn
        split at isDrawn
        · cases isDrawn
          obtain ⟨rfl, rfl⟩ := Prod.mk.inj (Option.some.inj followed)
          exact ⟨_, split, typed, drawn⟩
        · cases isDrawn
    | _ => cases isDrawn
  · obtain ⟨heard, split, undrawn, untyped⟩ := await_raised digits link _ _ _ _ drew
    exact ⟨heard, split, untyped, undrawn⟩

namespace DynamicEntry

-- The verdicts on whether the code was shown again.
def shownAgain (entry : DynamicEntry) : List Finding := entry.findings.filter fun finding => finding.id == "PAIR-DYN-010"

-- Nothing noted of a wrong code, nor judged after one, in the same round.
structure Unmarked (entry next : DynamicEntry) : Prop where
  round : next.round = entry.round
  entered : next.wrongEntered = entry.wrongEntered
  mark : next.wrongMark = entry.wrongMark
  judged : next.shownAgain = entry.shownAgain

omit [UnicodeData] in
theorem unmarked_trans {first second third : DynamicEntry} (one : Unmarked first second) (two : Unmarked second third) :
    Unmarked first third :=
  ⟨two.round.trans one.round, two.entered.trans one.entered, two.mark.trans one.mark, two.judged.trans one.judged⟩

theorem judge_token_ended (right : String) (entry next : DynamicEntry) (world after : World) (ended : Py Unit)
    (ran : (judgeToken right).from (entry, world) = some (ended, (next, after))) :
    ended = .ok () ∧ after = world ∧ next.right = entry.right ∧ Unmarked entry next := by
  have unjudged : (checkQrToken right).filter (fun finding => finding.id == "PAIR-DYN-010") = [] := by
    have ids := qr_token_ids right
    rw [List.filter_eq_nil_iff]
    intro finding member named
    have listed : finding.id ∈ idsOf (checkQrToken right) := List.mem_map_of_mem member
    rw [ids, List.mem_singleton] at listed
    rw [listed] at named
    simp at named
  change (if entry.findings.isEmpty = true then found (checkQrToken right) else pure ()).from (entry, world) = _ at ran
  split at ran
  · cases ran
    refine ⟨rfl, rfl, rfl, rfl, rfl, rfl, ?_⟩
    rw [shownAgain, List.filter_append, unjudged, List.append_nil]
    rfl
  · cases ran
    exact ⟨rfl, rfl, rfl, rfl, rfl, rfl, rfl⟩

-- Asking for the code shown, the entry keeps it as typed.
theorem ask_right_heard (digits : Bool) (entry next : DynamicEntry) (world after : World) (ended : Py String)
    (ran : (askRight link digits).from (entry, world) = some (ended, (next, after))) :
    ∃ heard, world.script = heard ++ after.script ∧ drawnTokens heard = [] ∧
      typedCodes digits heard = givenCodes (ended.map some) ∧ Unmarked entry next ∧
      next.right = (givenCodes (ended.map some)).head?.or entry.right := by
  cases digits with
  | true =>
      rcases bind_ended ran with ⟨right, ⟨current, between⟩, asked, followed⟩ | ⟨raised, asked, rfl⟩
      · obtain ⟨prompted, rfl⟩ := within_ended asked
        obtain ⟨heard, split, undrawn, typed⟩ := prompt_shown_heard link true _ _ _ prompted
        cases followed
        exact ⟨heard, split, undrawn, typed, ⟨rfl, rfl, rfl, rfl⟩, rfl⟩
      · obtain ⟨prompted, rfl⟩ := within_ended asked
        obtain ⟨heard, split, undrawn, typed⟩ := prompt_shown_heard link true _ _ _ prompted
        exact ⟨heard, split, undrawn, typed, ⟨rfl, rfl, rfl, rfl⟩, rfl⟩
  | false =>
      rcases bind_ended ran with ⟨right, ⟨current, between⟩, asked, followed⟩ | ⟨raised, asked, rfl⟩
      · obtain ⟨prompted, rfl⟩ := within_ended asked
        obtain ⟨heard, split, undrawn, typed⟩ := prompt_shown_heard link false _ _ _ prompted
        change (judgeToken right >>= fun _ => pure right).from ({ current with right := some right }, between) = _
          at followed
        rcases bind_ended followed with ⟨_, ⟨judged, later⟩, token, returned⟩ | ⟨raised, token, _⟩
        · obtain ⟨_, rfl, remembered, unmarked⟩ := judge_token_ended _ _ _ _ _ _ token
          have kept : Unmarked current { current with right := some right } := ⟨rfl, rfl, rfl, rfl⟩
          cases returned
          exact ⟨heard, split, undrawn, typed, unmarked_trans kept unmarked, remembered⟩
        · cases (judge_token_ended _ _ _ _ _ _ token).1
      · obtain ⟨prompted, rfl⟩ := within_ended asked
        obtain ⟨heard, split, undrawn, typed⟩ := prompt_shown_heard link false _ _ _ prompted
        exact ⟨heard, split, undrawn, typed, ⟨rfl, rfl, rfl, rfl⟩, rfl⟩

-- A wrong code is about to be entered.
structure Marked (number : Nat) (entry next : DynamicEntry) (world : World) : Prop where
  round : next.round = entry.round
  entered : next.wrongEntered = true
  mark : next.wrongMark = Link.lastFrame world number
  judged : next.shownAgain = entry.shownAgain

-- What the wrong-code prompt of round 1 comes to.
inductive EntersWrong (number : Nat) (right : String) (entry : DynamicEntry) (after : World) :
    Bool → List Happening → Py String → DynamicEntry → Prop
  | failed {digits heard error next} (untyped : typedCodes digits heard = []) (undrawn : drawnTokens heard = [])
      (unmarked : Unmarked entry next) : EntersWrong number right entry after digits heard (.error error) next
  | right {heard wrong next} (typed : typedCodes true heard = [wrong]) (same : stripSeparators wrong = stripSeparators right)
      (unmarked : Unmarked entry next) : EntersWrong number right entry after true heard (.ok right) next
  | wrong {heard wrong next} (typed : typedCodes true heard = [wrong])
      (differs : stripSeparators wrong ≠ stripSeparators right) (marked : Marked number entry next after) :
      EntersWrong number right entry after true heard (.ok wrong) next
  | token {heard token next} (untyped : typedCodes false heard = []) (drawn : drawnTokens heard = [token])
      (marked : Marked number entry next after) : EntersWrong number right entry after false heard (.ok token) next

theorem enter_wrong_heard (number : Nat) (digits : Bool) (right : String) (entry next : DynamicEntry)
    (world after : World) (ended : Py String)
    (ran : (enterWrong link number digits right).from (entry, world) = some (ended, (next, after))) :
    next.right = entry.right ∧ ∃ heard, world.script = heard ++ after.script ∧
      EntersWrong number right entry after digits heard ended next := by
  cases digits with
  | true =>
      rcases bind_ended ran with ⟨wrong, ⟨current, between⟩, asked, followed⟩ | ⟨raised, asked, rfl⟩
      · obtain ⟨prompted, rfl⟩ := within_ended asked
        obtain ⟨heard, split, undrawn, typed⟩ := prompt_shown_heard link true _ _ _ prompted
        split at followed
        · rename_i same
          cases followed
          exact ⟨rfl, heard, split, .right typed same ⟨rfl, rfl, rfl, rfl⟩⟩
        · rename_i differs
          cases followed
          exact ⟨rfl, heard, split, .wrong typed differs ⟨rfl, rfl, rfl, rfl⟩⟩
      · obtain ⟨prompted, rfl⟩ := within_ended asked
        obtain ⟨heard, split, undrawn, typed⟩ := prompt_shown_heard link true _ _ _ prompted
        exact ⟨rfl, heard, split, .failed typed undrawn ⟨rfl, rfl, rfl, rfl⟩⟩
  | false =>
      rcases bind_ended ran with ⟨token, ⟨current, between⟩, drew, followed⟩ | ⟨raised, drew, rfl⟩
      · obtain ⟨tokened, rfl⟩ := within_ended drew
        obtain ⟨heard, split, untyped, drawn⟩ := wrong_token_heard link false _ _ _ tokened
        cases followed
        exact ⟨rfl, heard, split, .token untyped drawn ⟨rfl, rfl, rfl, rfl⟩⟩
      · obtain ⟨tokened, rfl⟩ := within_ended drew
        obtain ⟨heard, split, untyped, undrawn⟩ := wrong_token_heard link false _ _ _ tokened
        exact ⟨rfl, heard, split, .failed untyped undrawn ⟨rfl, rfl, rfl, rfl⟩⟩

-- The entry with one more call of the provider counted.
def counted (entry : DynamicEntry) : DynamicEntry := { entry with round := entry.round + 1 }

-- Everything a call of the provider can do, by what the user typed and what was drawn in it.
inductive Provided (number : Nat) (entry : DynamicEntry) (after : World) :
    Bool → List Happening → Py String → DynamicEntry → Prop
  | failed {digits heard error next} (untyped : typedCodes digits heard = []) (undrawn : drawnTokens heard = [])
      (unmarked : Unmarked entry.counted next) (remembered : next.right = entry.right) :
      Provided number entry after digits heard (.error error) next
  -- round 1
  | cut {digits heard shown error next} (round : entry.round = 0) (typed : typedCodes digits heard = [shown])
      (undrawn : drawnTokens heard = []) (unmarked : Unmarked entry.counted next) (remembered : next.right = some shown) :
      Provided number entry after digits heard (.error error) next
  | rightAsWrong {heard shown wrong next} (round : entry.round = 0) (typed : typedCodes true heard = [shown, wrong])
      (same : stripSeparators wrong = stripSeparators shown) (unmarked : Unmarked entry.counted next)
      (remembered : next.right = some shown) : Provided number entry after true heard (.ok shown) next
  | wrong {heard shown wrong next} (round : entry.round = 0) (typed : typedCodes true heard = [shown, wrong])
      (differs : stripSeparators wrong ≠ stripSeparators shown) (marked : Marked number entry.counted next after)
      (remembered : next.right = some shown) : Provided number entry after true heard (.ok wrong) next
  | token {heard shown token next} (round : entry.round = 0) (typed : typedCodes false heard = [shown])
      (drawn : drawnTokens heard = [token]) (marked : Marked number entry.counted next after)
      (remembered : next.right = some shown) : Provided number entry after false heard (.ok token) next
  -- later rounds
  | new {digits heard shown next} (round : entry.round ≠ 0) (typed : typedCodes digits heard = [shown])
      (asked : entry.right = none) (unmarked : Unmarked entry.counted next) (remembered : next.right = some shown) :
      Provided number entry after digits heard (.ok shown) next
  | again {heard shown again next} (round : entry.round ≠ 0) (typed : typedCodes true heard = [again])
      (asked : entry.right = some shown) (remembered : next.right = some shown)
      (counts : next.round = entry.counted.round) (entered : next.wrongEntered = entry.wrongEntered)
      (mark : next.wrongMark = entry.wrongMark) (judged : next.shownAgain = entry.shownAgain ++
        if entry.round = 1 then [judgeShownAgain (stripSeparators again == stripSeparators shown)] else []) :
      Provided number entry after true heard (.ok again) next
  | same {heard shown next} (round : entry.round ≠ 0) (untyped : typedCodes false heard = [])
      (asked : entry.right = some shown) (unmarked : Unmarked entry.counted next) (remembered : next.right = some shown) :
      Provided number entry after false heard (.ok shown) next

omit [UnicodeData] in
-- Round 1, after the code shown was typed.
theorem first_provided (number : Nat) (digits : Bool) (entry current next : DynamicEntry) (after : World)
    (shown : String) (ended : Py String) (first second : List Happening) (round : entry.round = 0)
    (typed : typedCodes digits first = [shown]) (undrawn : drawnTokens first = [])
    (unmarked : Unmarked entry.counted current) (remembered : next.right = some shown)
    (entered : EntersWrong number shown current after digits second ended next) :
    Provided number entry after digits (first ++ second) ended next := by
  obtain ⟨typedAll, drawnAll⟩ := heard_append digits first second
  rw [typed] at typedAll
  rw [undrawn, List.nil_append] at drawnAll
  cases entered with
  | failed untyped undrawnToo kept =>
      rw [untyped] at typedAll
      rw [undrawnToo] at drawnAll
      exact .cut round typedAll drawnAll (unmarked_trans unmarked kept) remembered
  | right typedToo same kept =>
      rw [typedToo] at typedAll
      exact .rightAsWrong round typedAll same (unmarked_trans unmarked kept) remembered
  | wrong typedToo differs marked =>
      rw [typedToo] at typedAll
      exact .wrong round typedAll differs ⟨marked.round.trans unmarked.round, marked.entered, marked.mark,
        marked.judged.trans unmarked.judged⟩ remembered
  | token untyped drawn marked =>
      rw [untyped] at typedAll
      rw [drawn] at drawnAll
      exact .token round typedAll drawnAll ⟨marked.round.trans unmarked.round, marked.entered, marked.mark,
        marked.judged.trans unmarked.judged⟩ remembered

omit [UnicodeData] in
-- What is judged once the code was typed again.
theorem judged_again (right again : String) (entry next : DynamicEntry) (world after : World) (ended : Py String)
    (ran : (judgeAgain right again >>= fun _ => pure again).from (entry, world) = some (ended, (next, after))) :
    ended = .ok again ∧ after = world ∧ next.round = entry.round ∧ next.right = entry.right ∧
      next.wrongEntered = entry.wrongEntered ∧ next.wrongMark = entry.wrongMark ∧
      next.shownAgain = entry.shownAgain ++
        if entry.round = 2 then [judgeShownAgain (stripSeparators again == stripSeparators right)] else [] := by
  change ((if entry.round = 2 then found [judgeShownAgain (stripSeparators again == stripSeparators right)] else pure ())
    >>= fun _ => pure again).from (entry, world) = _ at ran
  generalize (stripSeparators again == stripSeparators right) = same at ran ⊢
  have named : (judgeShownAgain same).id = "PAIR-DYN-010" := by cases same <;> rfl
  by_cases second : entry.round = 2
  · rw [if_pos second] at ran ⊢
    cases ran
    refine ⟨rfl, rfl, rfl, rfl, rfl, rfl, ?_⟩
    rw [shownAgain, List.filter_append, List.filter_singleton, named]
    rfl
  · rw [if_neg second] at ran ⊢
    cases ran
    exact ⟨rfl, rfl, rfl, rfl, rfl, rfl, (List.append_nil _).symm⟩

-- The rounds of the provider, by how many calls were counted and whether a code is remembered.
theorem provide_first (number : Nat) (digits : Bool) (entry : DynamicEntry) (world : World) (round : entry.round = 0) :
    (provide link number digits).from (entry, world) = (askRight link digits >>= fun right =>
      edit (fun entry => { entry with first := some right }) >>= fun _ =>
        enterWrong link number digits right).from (entry.counted, world) := by
  change (if entry.round + 1 = 1 then _ else _ : Providing String).from (entry.counted, world) = _
  rw [if_pos (by omega)]

theorem provide_new (number : Nat) (digits : Bool) (entry : DynamicEntry) (world : World) (round : entry.round ≠ 0)
    (asked : entry.right = none) :
    (provide link number digits).from (entry, world) = (askRight link digits).from (entry.counted, world) := by
  change (if entry.round + 1 = 1 then _ else _ : Providing String).from (entry.counted, world) = _
  rw [if_neg (by omega), asked]

theorem provide_again (number : Nat) (digits : Bool) (entry : DynamicEntry) (world : World) (shown : String)
    (round : entry.round ≠ 0) (asked : entry.right = some shown) :
    (provide link number digits).from (entry, world) =
      (if digits then enterAgain link shown else pure shown : Providing String).from (entry.counted, world) := by
  change (if entry.round + 1 = 1 then _ else _ : Providing String).from (entry.counted, world) = _
  rw [if_neg (by omega), asked]

theorem provide_heard (number : Nat) (digits : Bool) (entry next : DynamicEntry) (world after : World)
    (ended : Py String)
    (ran : (provide link number digits).from (entry, world) = some (ended, (next, after))) :
    ∃ heard, world.script = heard ++ after.script ∧ Provided number entry after digits heard ended next := by
  by_cases round : entry.round = 0
  · rw [provide_first link number digits entry world round] at ran
    rcases bind_ended ran with ⟨shown, ⟨current, between⟩, asked, followed⟩ | ⟨raised, asked, rfl⟩
    · obtain ⟨first, split, undrawn, typed, unmarked, remembered⟩ := ask_right_heard link digits _ _ _ _ _ asked
      obtain ⟨kept, second, splitToo, entered⟩ := enter_wrong_heard link number digits shown _ _ _ _ _ followed
      have noted : Unmarked current { current with first := some shown } := ⟨rfl, rfl, rfl, rfl⟩
      refine ⟨first ++ second, by rw [split, splitToo, List.append_assoc], ?_⟩
      exact first_provided number digits entry { current with first := some shown } next after shown ended first second
        round typed undrawn (unmarked_trans unmarked noted) (kept.trans remembered) entered
    · obtain ⟨heard, split, undrawn, typed, unmarked, remembered⟩ := ask_right_heard link digits _ _ _ _ _ asked
      exact ⟨heard, split, .failed typed undrawn unmarked remembered⟩
  · cases asked : entry.right with
    | none =>
        rw [provide_new link number digits entry world round asked] at ran
        obtain ⟨heard, split, undrawn, typed, unmarked, remembered⟩ := ask_right_heard link digits _ _ _ _ _ ran
        cases ended with
        | ok shown => exact ⟨heard, split, .new round typed asked unmarked remembered⟩
        | error raised => exact ⟨heard, split, .failed typed undrawn unmarked remembered⟩
    | some shown =>
        rw [provide_again link number digits entry world shown round asked] at ran
        cases digits with
        | true =>
            rcases bind_ended ran with ⟨again, ⟨current, between⟩, prompted, followed⟩ | ⟨raised, prompted, rfl⟩
            · obtain ⟨answered, rfl⟩ := within_ended prompted
              obtain ⟨heard, split, undrawn, typed⟩ := prompt_shown_heard link true _ _ _ answered
              obtain ⟨rfl, rfl, counts, remembered, entered, mark, judged⟩ :=
                judged_again shown again _ next between after ended followed
              refine ⟨heard, split, .again round typed asked (remembered.trans asked) counts entered mark ?_⟩
              rw [judged]
              congr 1
              simp [counted]
            · obtain ⟨answered, rfl⟩ := within_ended prompted
              obtain ⟨heard, split, undrawn, typed⟩ := prompt_shown_heard link true _ _ _ answered
              exact ⟨heard, split, .failed typed undrawn ⟨rfl, rfl, rfl, rfl⟩ rfl⟩
        | false =>
            cases ran
            exact ⟨[], rfl, .same round rfl asked ⟨rfl, rfl, rfl, rfl⟩ asked⟩

end DynamicEntry

end

end Conformance.Validator.CodePairing
