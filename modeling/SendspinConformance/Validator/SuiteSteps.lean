import SendspinConformance.Validator.CodePairingSteps
import SendspinConformance.Validator.OutputDelay

set_option autoImplicit false

namespace Conformance.Validator.SuiteRunner

open Python Protocol Base Conformance.Validator.Suite CodePairing

-- A group of steps; they run in this order.
inductive Suite where
  | unpaired
  | pairing
  | postPairing
deriving DecidableEq, Repr

structure SuiteOptions where
  suites : List Suite
  faultInjection : Bool

-- _DELAY_SPAN_MS
def delaySpanMs : Nat := 400

def notRun (step : Step) (verdict : Verdict) (message : String) (skip : Nat) : List Finding :=
  if step.codePaired then CodePairing.notRun (step.checks.drop skip) verdict message
  else Suite.notRun (step.checks.drop skip) verdict message

def notReached (step : Step) (why : String) (skip : Nat := 0) : List Finding :=
  notRun step .notApplicable ("not reached: " ++ why) skip

def endedOrSaid (types : List String) (record : ConnectionRecord) : Bool :=
  record.closed || record.frames.any fun frame => frame.inbound && frame.typeIn types

def activated (record : ConnectionRecord) : List RecordedFrame := record.outbound "server/activate"

def endedOrActivated (record : ConnectionRecord) : Bool := record.closed || !(activated record).isEmpty

def pairMethods (record : ConnectionRecord) : Fields :=
  match clientHello record with
  | some hello => fieldsOf (getKey hello.fields "supported_pair_methods")
  | none => []

-- What the steps see and change: the findings reported so far, and the world.
abbrev Reporting (α : Type) := Program (List Finding × World) PyError α

-- SuiteRunner._report
def report (findings : List Finding) : Reporting Unit := Program.change fun state => (state.1 ++ findings, state.2)

def resting (evidence : Option Evidence) (finding : Finding) : Finding :=
  match evidence with
  | some given => { finding with evidence := given }
  | none => finding

def noReconnect : String := "your app did not reconnect in time"

variable [UnicodeData] (link : Link)

-- Asks again while the user wants the step shown again.
def askReady : Action (Answer Bool) :=
  foreverHere do
    let answer ← link.confirm
    if answer.reply = .retry then return none
    else return some answer

def runReady (step : Step) (run : Action (List Finding)) : Action (List Finding) := do
  if (← askReady link).isYes then run
  else return notRun step .skipped ("the user skipped " ++ step.value) 0

-- SuiteRunner._step(step, instruction, run, evidence=evidence)
def runStep (step : Step) (run : Action (List Finding)) (evidence : Option Evidence) : Reporting Unit := do
  let findings ← (runReady link step run).within
  report (findings.map (resting evidence))

-- The payload goes to the client; what comes of it is recorded.
def declare (number : Nat) : Action Bool := do
  let initial ← link.untilHolds number endedOrActivated
  let world ← Program.current
  if !initial || (Link.connection world number).isNone || !Link.isOpen world (some number) then return false
  else
    let before := (activated (Link.record world number)).length
    let _ ← link.untilHolds number fun record => record.closed || before < (activated record).length
    return before < (activated (Link.record (← Program.current) number)).length

-- The connection U1 judges, a new one where it first forgets an earlier pairing.
def unpairedConnection : Action (Option Nat) := do
  let number := link.current (← Program.current)
  if (link.stored (← Program.current)).isSome then
    link.removeRecord
    link.reconnect
  else return number

def u1 : Action (List Finding) := do
  match ← unpairedConnection link with
  | none => return notReached .u1 noReconnect
  | some connected => Program.outcome (checkSentinelHandshake (Link.record (← Program.current) connected))

def u2 : Action (List Finding) := do
  match ← link.connectMatching fun record => unpairedAccess record == some false with
  | none => return notReached .u2 "no connection reported unpaired access off in time"
  | some number =>
      if ← declare link number then
        let _ ← link.untilHolds number (endedOrSaid ["client/goodbye"])
        Program.outcome (checkPairingRequired (Link.record (← Program.current) number))
      else return notReached .u2 "the connection ended before the validator could activate"

def u4 : Action (List Finding) := do
  match ← link.connectMatching fun record => unpairedAccess record == some false with
  | none => return notReached .u4 "no connection reported unpaired access off in time"
  | some number =>
      if ← declare link number then
        let _ ← link.untilHolds number (endedOrSaid ["client/goodbye", "pair/abort"])
        Program.outcome (checkInadmissibleActivation (Link.record (← Program.current) number))
      else return notReached .u4 "the connection ended before the validator could activate"

def u3 : Action (List Finding) := do
  match ← link.connectMatching fun record => unpairedAccess record == some true with
  | none => return notReached .u3 "no connection reported unpaired access on in time"
  | some number =>
      let _ ← link.untilHolds number (endedOrSaid ["client/state", "client/goodbye"])
      Program.outcome (checkUnpairedPlayback (Link.record (← Program.current) number))

def runInjected (options : SuiteOptions) : Reporting Unit :=
  if options.faultInjection then runStep link .u4 (u4 link) none
  else
    report (Suite.notRun Step.u4.checks .notApplicable
      "fault injection is opt-in: run with --fault-injection")

def unpairedSteps (options : SuiteOptions) : Reporting Unit := do
  runStep link .u1 (u1 link) none
  runStep link .u2 (u2 link) (some .human)
  runInjected link options
  runStep link .u3 (u3 link) (some .human)

def restore : Option ServerPairingRecord → Action Unit
  | some earlier => link.storeRecord earlier
  | none => pure ()

-- SuiteRunner._unpaired, which restores a pairing an earlier run left.
def unpaired (options : SuiteOptions) : Reporting Unit := do
  let earlier := link.stored (← Program.current).2
  (unpairedSteps link options).afterwards (restore link earlier).within

-- SuiteRunner._ask_token: asks until the token decodes; none if the user skips.
def askToken : Action (Option String) :=
  foreverHere do
    let answer ← link.askText
    match answer.reply, answer.value with
    | .retry, _ => return none
    | .answered, some line =>
        let asked := askPairingToken (← Program.current).recorder line
        Program.change fun world => { world with recorder := asked.1 }
        return asked.2.map some
    | _, _ => return some none

-- The checks of a pairing with the pairing PSK.
def pairingChecks (record : ConnectionRecord) (since : Nat) : Py (List Finding) := do
  let rehandshake ← checkPairingRehandshake record since
  let pairInit ← checkPairInit record since
  let finalize ← checkPairFinalize record since
  let promotion ← checkPromotion record since
  let activation ← checkPairedActivation record since
  return rehandshake ++ pairInit ++ finalize ++ promotion ++ activation

-- server.initiate_pairing, whose failure only the user is told of.
def pairWithPsk (number : Nat) : Action Unit := do
  if (← link.serveAttempt).isNone then link.noteKeying number

def p1 : Action (List Finding) := do
  match ← askToken link with
  | none => return Suite.notRun Step.p1.checks .skipped "no pairing token was entered"
  | some token =>
      let findings := checkPairingToken token (some link.clientId)
      if findings.any fun finding => finding.verdict ≠ .pass then
        return findings ++ notReached .p1 "no usable pairing token" 2
      else
        match ← link.openConnection with
        | none => return findings ++ notReached .p1 noReconnect 2
        | some number =>
            let since := Link.lastFrame (← Program.current) number
            pairWithPsk link number
            let _ ← link.untilHolds number ConnectionRecord.closed
            let judged ← Program.outcome (pairingChecks (Link.record (← Program.current) number) since)
            return findings ++ judged

-- SuiteRunner._offered(step, offered, method, run)
def runOffered (step : Step) (offered : Bool) (method : String) (run : Action (List Finding)) : Reporting Unit :=
  if offered then runStep link step run none
  else report (notReached step ("the client's hello does not offer " ++ method))

def pairingSteps : List Step := [.p2Qr, .p1, .p2, .p3, .p4Cancel, .p4Timeout, .p3Lockout]

-- SuiteRunner._pairing
def pairing : Reporting Unit := do
  let world := (← Program.current).2
  match link.current world with
  | none =>
      report (pairingSteps.flatMap fun step =>
        notReached step "no connection of the client completed its handshake")
  | some number =>
      let methods := pairMethods (Link.record world number)
      let descriptor := fieldsOf (getKey methods "dynamic_pairing_code")
      let formats := match getKey descriptor "formats" with
        | .arr listed => listed
        | _ => []
      let isStatic := hasKey methods "static_pairing_code"
      let coded := !formats.isEmpty || isStatic
      runOffered link .p2Qr (listsFormat "qr_code" formats) "dynamic_pairing_code in the qr_code format"
        (dynamic link .qrCode descriptor)
      runOffered link .p1 (hasKey methods "pairing_psk") "pairing_psk" (p1 link)
      runOffered link .p2 (listsFormat "digits" formats) "dynamic_pairing_code in the digits format"
        (dynamic link .digits descriptor)
      runOffered link .p3 isStatic "static_pairing_code" (static link)
      runOffered link .p4Cancel coded "a pairing-code method" (cancel link methods)
      runOffered link .p4Timeout coded "a pairing-code method" (timeout link methods)
      runOffered link .p3Lockout isStatic "static_pairing_code" (lockout link)

def r1 : Action (List Finding) := do
  match ← link.reconnect with
  | none => return notReached .r1 noReconnect
  | some number =>
      let _ ← link.untilHolds number endedOrActivated
      Program.outcome (checkLongTermReconnect (Link.record (← Program.current) number))

def notPaired : String := "the validator is not paired with the client"

def setAdmitUnpaired (admitUnpaired : Bool) : Action Unit :=
  Program.change fun world => { world with admitUnpaired }

-- R3 while the validator does not know the client.
def forgotten : Action (Option Nat) := do
  match ← link.reconnect with
  | none => return none
  | some connected =>
      let _ ← link.untilHolds connected endedOrActivated
      return some connected

def restoreAdmitting (record : ServerPairingRecord) : Action Unit := do
  link.storeRecord record
  setAdmitUnpaired true

def r3 : Action (List Finding) := do
  match link.stored (← Program.current) with
  | none => return notReached .r3 notPaired
  | some record =>
      link.removeRecord
      setAdmitUnpaired false
      match ← Program.afterwards (forgotten link) (restoreAdmitting link record) with
      | none => return notReached .r3 noReconnect
      | some connected => Program.outcome (checkForgottenReconnect (Link.record (← Program.current) connected))

-- SuiteRunner._set_output_delay
def setOutputDelay (number : Nat) : Action (Option Int) := do
  let world ← Program.current
  let offered ← Program.outcome (Py.anyOf offersDelay ((Link.record world number).inbound "client/state"))
  if !offered || (world.client.map ServerClient.players).getD 0 = 0 then return none
  else
    let delay : Int := delayMinMs + (← link.draw delaySpanMs)
    if ← link.untilHolds number (echoed delay) then return some delay
    else return none

def restartChecks (before after : ConnectionRecord) (delay : Option Int) : Py (List Finding) := do
  let kept ← checkRestartKeepsPairing after
  let delayed ← checkRestartKeepsOutputDelay before after delay
  return kept ++ delayed

def r5 : Action (List Finding) := do
  match ← link.reconnect with
  | none => return notReached .r5 noReconnect
  | some number =>
      let _ ← link.untilHolds number (endedOrSaid ["client/state"])
      let delay ← setOutputDelay link number
      if !(← link.confirm).isYes then
        return Suite.notRun Step.r5.checks .skipped "the user did not restart the app"
      else
        match ← link.awaitReconnect number with
        | none => return notReached .r5 "your app did not disconnect and reconnect in time"
        | some restarted =>
            let _ ← link.untilHolds restarted (endedOrSaid ["client/state"])
            let world ← Program.current
            Program.outcome (restartChecks (Link.record world number) (Link.record world restarted) delay)

-- What R4 does once server/unpair went out.
def judgeUnpaired (record : ServerPairingRecord) (number : Nat) : Action (List Finding) := do
  let _ ← link.untilHolds number ConnectionRecord.closed
  let findings ← Program.outcome (checkUnpairGoodbye (Link.record (← Program.current) number))
  -- Referencing the unpaired record shows whether the client really dropped it.
  link.storeRecord record
  match ← link.reconnect with
  | none => return findings ++ notReached .r4 noReconnect 1
  | some again =>
      let _ ← link.untilHolds again endedOrActivated
      let dropped ← Program.outcome (checkRecordDropped (Link.record (← Program.current) again))
      return findings ++ dropped

-- What `except ValueError` catches.
def isValueError (error : PyError) : Bool :=
  ["ValueError", "UnicodeError", "UnicodeEncodeError", "UnicodeDecodeError", "JSONDecodeError"].contains error.type

def r4 : Action (List Finding) := do
  let stored := link.stored (← Program.current)
  match stored, ← link.openConnection with
  | some record, some number =>
      match ← link.unpair.settled with
      | .ok _ => Program.afterwards (judgeUnpaired link record number) link.removeRecord
      | .error error =>
          if isValueError error then return notReached .r4 "the client disconnected before server/unpair"
          else throw error
  | _, _ => return notReached .r4 "no paired connection to unpair"

-- SuiteRunner._post_pairing
def postPairing : Reporting Unit := do
  if (link.stored (← Program.current).2).isNone then
    report ([Step.r1, .r3, .r5, .r4].flatMap fun step => notReached step notPaired)
  else
    runStep link .r1 (r1 link) none
    runStep link .r3 (r3 link) none
    runStep link .r5 (r5 link) (some .human)
    runStep link .r4 (r4 link) none

def runSelected (options : SuiteOptions) (suite : Suite) (steps : Reporting Unit) : Reporting Unit :=
  if options.suites.contains suite then steps else pure ()

def run (options : SuiteOptions) : Reporting Unit := do
  runSelected options .unpaired (unpaired link options)
  runSelected options .pairing (pairing link)
  runSelected options .postPairing (postPairing link)

end Conformance.Validator.SuiteRunner
