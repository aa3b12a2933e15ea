import Mathlib.Algebra.Group.Nat.Defs
import SendspinConformance.Validator.Link
import SendspinConformance.Validator.StepChecks

set_option autoImplicit false

namespace Conformance.Validator.CodePairing

open Python Protocol Base

-- SPOKEN_LANGUAGES
def spokenLanguages : List (String × String) :=
  [("de", "German"), ("es", "Spanish"), ("fr", "French"), ("it", "Italian"), ("nl", "Dutch")]

inductive PairingCodeFormat where
  | digits
  | qrCode
deriving DecidableEq, Repr

-- What Skipped is raised as.
def skippedError : PyError := ⟨"Skipped", "no code was entered"⟩

def naNotReached (step : Step) (why : String) : List Finding := allNotApplicable step.checks ("not reached: " ++ why)

def complete (step : Step) (findings : List Finding) : List Finding :=
  let reported := findings.map Finding.id
  findings ++ allNotApplicable (step.checks.filter fun checkId => !reported.contains checkId)
    "not reached: the attempt ended first"

def yesVerdict (reply : Reply) (yes : Bool) : Verdict :=
  if reply ≠ .answered then .skipped else if yes then .pass else .fail

-- isinstance(error, Skipped)
def isSkipped : Option AttemptError → Bool
  | some error => error.cls == .skipped
  | none => false

-- _mismatched(error)
def mismatched : Option AttemptError → Bool
  | some error => error.cls == .remotePairingAbort .pairingCodeMismatch
  | none => false

def answeredAfter (mark : Nat) (record : ConnectionRecord) : Bool :=
  record.closed || record.frames.any fun frame =>
    mark < frame.id && frame.inbound &&
      frame.typeIn ["client/pair-retry", "client/pair-confirm", "pair/abort", "client/goodbye"]

def startedAfter (mark : Nat) (record : ConnectionRecord) : Bool :=
  record.closed || record.frames.any fun frame =>
    mark < frame.id &&
      (frame.inbound && frame.typeIn ["client/pair-pending", "client/pair-init", "pair/abort", "client/goodbye"] ||
        !frame.inbound && frame.typed "server/pair-init")

def heldAfter (mark : Nat) (record : ConnectionRecord) : Bool :=
  record.closed || record.frames.any fun frame => mark < frame.id && frame.inbound && frame.typed "client/pair-pending"

inductive PairingAttempt where
  | dynamic (pairingFormat : PairingCodeFormat)
  | static
deriving DecidableEq, Repr

-- "digits" in formats
def listsFormat (name : String) (formats : List Json) : Bool := formats.any (Json.eqStr name)

-- An attempt with the client's code method that enters no code.
def idleAttempt (methods : Fields) : Option PairingAttempt :=
  match getKey (fieldsOf (getKey methods "dynamic_pairing_code")) "formats" with
  | .arr (first :: others) =>
      some (.dynamic (if listsFormat "digits" (first :: others) then .digits else .qrCode))
  | _ => if hasKey methods "static_pairing_code" then some .static else none

-- f"{number:0{width}d}"
def zeroPadded (width number : Nat) : String :=
  String.ofList (List.replicate (width - (toString number).length) '0') ++ toString number

-- random.randbytes(count), for the number its bits make
def littleEndian (count number : Nat) : List UInt8 :=
  (List.range count).map fun place => UInt8.ofNat (number / 256 ^ place)

section

variable [UnicodeData] (link : Link)

def registerCode (secret : String) : Action Unit :=
  Program.change fun world => { world with recorder := register world.recorder secret }

-- CodePairing.ask_code: asks until the user enters a code of this many digits.
def promptCode (digits : Nat) : Action String :=
  foreverHere do
    let answer ← link.askText
    match answer.reply, answer.value with
    | .retry, _ => return none
    | .answered, some line =>
        let asked := askCode digits (← Program.current).recorder line
        Program.change fun world => { world with recorder := asked.1 }
        Program.outcome asked.2
    | _, _ => throw skippedError

-- CodePairing.ask_token
def promptToken : Action String :=
  foreverHere do
    let answer ← link.askText
    match answer.reply, answer.value with
    | .retry, _ => return none
    | .answered, some line =>
        let asked := askToken (← Program.current).recorder line
        Program.change fun world => { world with recorder := asked.1 }
        return some asked.2
    | _, _ => throw skippedError

def wrongToken : Action String := do
  let token := encodePairingCodeToken (littleEndian qrCodeSize (← link.draw (256 ^ qrCodeSize)))
  registerCode token
  return token

-- How an attempt's part ended: it is over, paired or failed, or the step's own task goes on.
inductive Part where
  | over (error : Option AttemptError)
  | beside

-- CodePairing._attempt's exception handler.
def observeFailure (number : Nat) (failure : AttemptError) : Action Unit := Program.change fun world =>
  { world with
    recorder := observeEvent world.recorder number link.clientId .pairingFailed none
      (some (failure.error.type ++ ": " ++ failure.error.text)) }

section

variable {ρ : Type}

-- One thing aiosendspin does in an attempt; what the code provider raises is its to handle.
def attemptTurn (number : Nat) (provide : Program (ρ × World) PyError String) (meanwhile : ρ → Bool) :
    Program (ρ × World) PyError (Option Part) := do
  match ← (link.await some).within with
  | .codeWanted =>
      let _ ← provide.settled
      return none
  | .returned =>
      (link.noteKeying number).within
      return some (.over none)
  | .failed error =>
      (observeFailure link number error).within
      return some (.over (some error))
  | .beside => if meanwhile (← Program.current).1 then return some .beside else Program.never
  | _ => Program.never

def attemptPart (number : Nat) (provide : Program (ρ × World) PyError String) (meanwhile : ρ → Bool) :
    Program (ρ × World) PyError Part := forever (attemptTurn link number provide meanwhile)

-- An attempt the step awaits.
def attempt (number : Nat) (provide : Program (ρ × World) PyError String) :
    Program (ρ × World) PyError (Option AttemptError) := do
  match ← attemptPart link number provide fun _ => false with
  | .over error => return error
  | .beside => Program.never

-- An attempt in a task of its own. What the step does meanwhile reads the recorder and ends the
-- attempt, so it may as well run between two turns of the attempt's; `done` tells it that those are over.
def attemptBeside (number : Nat) (provide : Program (ρ × World) PyError String) (meanwhile : ρ → Bool)
    (besides : Bool → Program (ρ × World) PyError Unit) : Program (ρ × World) PyError (Option AttemptError) := do
  match ← attemptPart link number provide meanwhile with
  | .over error =>
      besides true
      return error
  | .beside =>
      besides false
      attempt link number provide

end

-- CodePairing._end
def endAttempt (number : Nat) : Action Unit := do
  if (Link.connection (← Program.current) number).isSome then
    let _ ← link.serveAttempt

-- _never: only an exception ends it.
def neverEntered {ρ : Type} : Program (ρ × World) PyError String :=
  Program.within (link.await fun _ => none)

-- DynamicEntry, less what its constructor is given.
structure DynamicEntry where
  wrongEntered : Bool := false
  wrongMark : Nat := 0
  rightEnteredAsWrong : Bool := false
  findings : List Finding := []
  right : Option String := none
  first : Option String := none
  round : Nat := 0

namespace DynamicEntry

abbrev Providing (α : Type) := Program (DynamicEntry × World) PyError α

def read : Providing DynamicEntry := Prod.fst <$> Program.current

def edit (edited : DynamicEntry → DynamicEntry) : Providing Unit :=
  Program.change fun state => (edited state.1, state.2)

def found (findings : List Finding) : Providing Unit :=
  edit fun entry => { entry with findings := entry.findings ++ findings }

def restart (entry : DynamicEntry) : DynamicEntry := { entry with round := 2, right := none }

-- Only the first QR text is judged.
def judgeToken (right : String) : Providing Unit := do
  if (← read).findings.isEmpty then found (checkQrToken right)

def askRight (digits : Bool) : Providing String := do
  if digits then
    let right ← (promptCode link dynamicDigits).within
    edit fun entry => { entry with right := some right }
    return right
  else
    let right ← (promptToken link).within
    edit fun entry => { entry with right := some right }
    judgeToken right
    return right

def markWrong (number : Nat) : Providing Unit := do
  let mark := Link.lastFrame (← Program.current).2 number
  edit fun entry => { entry with wrongMark := mark, wrongEntered := true }

-- DynamicEntry._wrong
def enterWrong (number : Nat) (digits : Bool) (right : String) : Providing String := do
  if digits then
    let wrong ← (promptCode link dynamicDigits).within
    if stripSeparators wrong = stripSeparators right then
      edit fun entry => { entry with rightEnteredAsWrong := true }
      return right
    else
      markWrong number
      return wrong
  else
    let wrong ← (wrongToken link).within
    markWrong number
    return wrong

def judgeShownAgain (same : Bool) : Finding :=
  if same then human "PAIR-DYN-010" .pass "the same code was shown again after the wrong one"
  else human "PAIR-DYN-010" .fail "a different code was shown after the wrong one"

-- Round 2 follows the wrong code, so the app shows the code from round 1 again.
def judgeAgain (right again : String) : Providing Unit := do
  if (← read).round = 2 then found [judgeShownAgain (stripSeparators again == stripSeparators right)]

def enterAgain (right : String) : Providing String := do
  let again ← (promptCode link dynamicDigits).within
  judgeAgain right again
  return again

def provide (number : Nat) (digits : Bool) : Providing String := do
  edit fun entry => { entry with round := entry.round + 1 }
  let entry ← read
  if entry.round = 1 then
    let right ← askRight link digits
    edit fun entry => { entry with first := some right }
    enterWrong link number digits right
  else
    match entry.right with
    | none => askRight link digits
    | some right => if digits then enterAgain link right else return right

def spokenMessage (spoke : Answer Bool) : String :=
  if spoke.value = some true then "the device spoke the code"
  else if spoke.reply = .answered then "the device did not speak the code"
  else "the user did not say whether the device spoke"

def languageNames : List String := "English" :: spokenLanguages.map Prod.snd ++ ["Another language"]

-- human_verdict(heard, expected), with a retry skipped and a failure a warning.
def heardVerdict (heard : Answer Nat) (expected : Nat) : Verdict :=
  match heard.reply with
  | .answered => if heard.value = some expected then .pass else .warn
  | _ => .skipped

def heardMessage (expected : String) : Verdict → String
  | .pass => "the device spoke the server's language, " ++ expected
  | .warn => "the device did not speak the server's language, " ++ expected ++ ", which it should when it can"
  | _ => "the user did not say which language they heard"

def judgeShown (channels : List Json) (typed : String) : List Finding :=
  if channels.any (Json.eqStr "display") then checkPresentation "PAIR-DYN-009" typed dynamicDigits
  else allNotApplicable ["PAIR-DYN-009"] "the client does not advertise the display out-channel"

-- The questions on how the device spoke the code.
def askSpoken (language : String) : Action (List Finding) := do
  let spoke ← link.confirm
  let name := (spokenLanguages.lookup language).getD "English"
  let expected := languageNames.idxOf name
  let heard ← link.askChoice
  let verdict := heardVerdict heard expected
  return [human "PAIR-DYN-011" (yesVerdict spoke.reply (spoke.value == some true)) (spokenMessage spoke),
    human "PAIR-DYN-012" verdict (heardMessage name verdict)]

def askHumanChecks (digits : Bool) (channels : List Json) (language : String) : Providing Unit := do
  match digits, (← read).first with
  | true, some typed =>
      found (judgeShown channels typed)
      if channels.any (Json.eqStr "speaker") then found (← (askSpoken link language).within)
      else
        found (allNotApplicable ["PAIR-DYN-011", "PAIR-DYN-012"]
          "the client does not advertise the speaker out-channel")
  | _, _ => return ()

end DynamicEntry

def dynamicStep (digits : Bool) : Step := if digits then .p2 else .p2Qr

def walkthrough (digits : Bool) : String := if digits then dynamicName else dynamicQrName

-- {stage: f"{prefix}-00{stage + 5}" for stage in Stage}
def stageIds (walkthrough : String) : List (Stage × String) :=
  [.clientKc, .commit, .binding, .unwrap].map fun stage => (stage, walkthrough ++ "-00" ++ toString (stage.value + 5))

def judgeWrongCode (entry : DynamicEntry) (walkthrough : String) (record : ConnectionRecord) (since : Nat) :
    Py (List Finding) :=
  if entry.wrongEntered then checkWrongCode walkthrough record since
  else
    .ok (allNotApplicable [walkthrough ++ "-004"]
      (if entry.rightEnteredAsWrong then "the code entered as wrong was the right one"
        else "not reached: no wrong code was entered"))

def dynamicChecks (digits : Bool) (entry : DynamicEntry) (record : ConnectionRecord) (since : Nat) :
    Py (List Finding) := do
  let name := walkthrough digits
  let commit ← checkCommit name record since
  let index ← checkPairingIndex (name ++ "-002") record since
  let lengths ← checkCpaceLengths (name ++ "-003") record since
  let wrong ← judgeWrongCode entry name record since
  let verified ← checkVerification (stageIds name) record since
  return complete (dynamicStep digits) (commit ++ index ++ lengths ++ wrong ++ verified ++ entry.findings)

-- What the step does while its first attempt runs: once a wrong code was entered, it waits for
-- the client's answer and ends the attempt where none comes.
def watchWrongCode (number : Nat) (_done : Bool) : DynamicEntry.Providing Unit := do
  let entry ← DynamicEntry.read
  if entry.wrongEntered then
    if !(← (link.untilHolds number (answeredAfter entry.wrongMark)).within) then (endAttempt link number).within

-- The attempt of a dynamic step, and a fresh one where the client ended it after the wrong code.
def dynamicAttempt (number : Nat) (digits : Bool) : DynamicEntry.Providing (Option AttemptError) := do
  let error ← attemptBeside link number (DynamicEntry.provide link number digits) DynamicEntry.wrongEntered
    (watchWrongCode link number)
  if mismatched error && (← DynamicEntry.read).wrongEntered then
    DynamicEntry.edit DynamicEntry.restart
    attempt link number (DynamicEntry.provide link number digits)
  else return error

def judgeDynamic (number since : Nat) (digits : Bool) : DynamicEntry.Providing (List Finding) := do
  let state ← Program.current
  Program.outcome (dynamicChecks digits state.1 (Link.record state.2 number) since)

def dynamicAttempts (number since : Nat) (digits : Bool) (channels : List Json) (language : String) :
    DynamicEntry.Providing (List Finding) := do
  if isSkipped (← dynamicAttempt link number digits) then
    return notRun (dynamicStep digits).checks .skipped "no code was entered"
  else
    let _ ← (link.untilHolds number ConnectionRecord.closed).within
    DynamicEntry.askHumanChecks link digits channels language
    judgeDynamic number since digits

-- CodePairing.dynamic(pairing_format, descriptor)
def dynamic (pairingFormat : PairingCodeFormat) (descriptor : Fields) : Action (List Finding) := do
  let digits := pairingFormat == .digits
  match ← link.openConnection with
  | none => return naNotReached (dynamicStep digits) "your app did not reconnect in time"
  | some number =>
      let since := Link.lastFrame (← Program.current) number
      let channels := match getKey descriptor "out_channels" with
        | .arr listed => listed
        | _ => []
      Program.opened {} (dynamicAttempts link number since digits channels (link.languages.headD "en"))

-- What CodePairing.static keeps: aiosendspin asks for the code of a static attempt once.
structure StaticEntry where
  asked : Bool := false
  findings : List Finding := []

def provideStatic : Program (StaticEntry × World) PyError String := do
  if (← Program.current).1.asked then Program.never
  else
    Program.change fun state => ({ state.1 with asked := true }, state.2)
    let code ← (promptCode link staticDigits).within
    Program.change fun state =>
      ({ state.1 with findings := state.1.findings ++ checkPresentation "PAIR-STATIC-008" code staticDigits },
        { state.2 with staticCode := some (stripSeparators code) })
    return code

-- {Stage.CLIENT_KC: .., Stage.UNWRAP: ..}
def staticStages : List (Stage × String) := [(.clientKc, "PAIR-STATIC-006"), (.unwrap, "PAIR-STATIC-007")]

def staticChecks (findings : List Finding) (record : ConnectionRecord) (since : Nat) : Py (List Finding) := do
  let pending ← checkStaticPending record since
  let index ← checkPairingIndex "PAIR-STATIC-002" record since
  let shape ← checkStaticShape record since
  let order ← checkStaticOrder record since
  let lengths ← checkCpaceLengths "PAIR-STATIC-005" record since
  let verified ← checkVerification staticStages record since
  return complete .p3 (pending ++ index ++ shape ++ order ++ lengths ++ verified ++ findings)

def judgeStatic (number since : Nat) : Program (StaticEntry × World) PyError (List Finding) := do
  let state ← Program.current
  Program.outcome (staticChecks state.1.findings (Link.record state.2 number) since)

def staticAttempt (number since : Nat) : Program (StaticEntry × World) PyError (List Finding) := do
  if isSkipped (← attempt link number (provideStatic link)) then
    return notRun Step.p3.checks .skipped "no code was entered"
  else
    let _ ← (link.untilHolds number ConnectionRecord.closed).within
    judgeStatic number since

-- CodePairing.static
def static : Action (List Finding) := do
  match ← link.openConnection with
  | none => return naNotReached .p3 "your app did not reconnect in time"
  | some number =>
      let since := Link.lastFrame (← Program.current) number
      Program.opened {} (staticAttempt link number since)

def whyIdle (attempt : Option PairingAttempt) : String :=
  if attempt.isNone then "the client offers no pairing-code method" else "no connection"

-- CodePairing.cancel(methods)
def cancel (methods : Fields) : Action (List Finding) := do
  let idle := idleAttempt methods
  match idle, ← link.openConnection with
  | some _, some number =>
      let since := Link.lastFrame (← Program.current) number
      let _ ← Program.opened () (attemptBeside link number (neverEntered link) (fun _ => true) fun _ =>
        Program.within do
          let _ ← link.untilHolds number (startedAfter since)
          endAttempt link number)
      let _ ← link.untilHolds number ConnectionRecord.closed
      Program.outcome (checkCancel (Link.record (← Program.current) number) since)
  | _, _ => return naNotReached .p4Cancel (whyIdle idle)

-- CodePairing.timeout(methods)
def timeout (methods : Fields) : Action (List Finding) := do
  let idle := idleAttempt methods
  match idle, ← link.openConnection with
  | some _, some number =>
      let since := Link.lastFrame (← Program.current) number
      let _ ← Program.opened () (attempt link number (neverEntered link))
      let _ ← link.untilHolds number ConnectionRecord.closed
      Program.outcome (checkTimeout (Link.record (← Program.current) number) since)
  | _, _ => return naNotReached .p4Timeout (whyIdle idle)

-- CodePairing._wrong_static_provider: draws until the code is not the right one.
def wrongStaticCode : Action String :=
  foreverHere do
    let code := zeroPadded staticDigits (← link.draw (10 ^ staticDigits))
    if some code = (← Program.current).staticCode then return none
    else
      registerCode code
      return some code

-- What the step does while a later attempt of the lockout runs.
def watchLockout (number mark : Nat) (sixth : Bool) (done : Bool) : Action Unit := do
  if !done then
    let held := if sixth then startedAfter mark else heldAfter mark
    let _ ← link.untilHolds number held
    if sixth || held (Link.record (← Program.current) number) then endAttempt link number

-- The attempts of the lockout that remain, the last of them the sixth, which enters no code.
def lockoutFrom (number : Nat) : Nat → Bool → Action Unit
  | 0, _ => do
      let mark := Link.lastFrame (← Program.current) number
      let _ ← Program.opened () (attemptBeside link number (neverEntered link) (fun _ => true) fun done =>
        (watchLockout link number mark true done).within)
  | left + 1, first => do
      let code ← wrongStaticCode link
      let mark := Link.lastFrame (← Program.current) number
      let error ← Program.opened () (attemptBeside link number (pure code) (fun _ => !first) fun done =>
        if first then pure () else (watchLockout link number mark false done).within)
      if Link.isOpen (← Program.current) (some number) && mismatched error then lockoutFrom number left false

-- CodePairing.lockout
def lockout : Action (List Finding) := do
  match ← link.openConnection with
  | none => return naNotReached .p3Lockout "your app did not reconnect in time"
  | some number =>
      let since := Link.lastFrame (← Program.current) number
      lockoutFrom link number lockoutAttempts true
      let _ ← link.untilHolds number ConnectionRecord.closed
      Program.outcome (checkLockout (Link.record (← Program.current) number) since)

end

end Conformance.Validator.CodePairing
