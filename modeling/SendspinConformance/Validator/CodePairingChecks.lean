import SendspinConformance.Validator.SuiteChecks

set_option autoImplicit false

namespace Conformance.Validator.CodePairing

open Python Protocol Suite

def dynamicRefs : List (String × String) :=
  [("001", "pairing.md:122, pairing.md:147, pairing.md:341"),
    ("002", "pairing.md:327, pairing.md:333, pairing.md:340"),
    ("003", "pairing.md:284-289, pairing.md:299, pairing.md:382, pairing.md:391"),
    ("004", "pairing.md:171, pairing.md:183-185, pairing.md:375"),
    ("005", "pairing.md:173-175, pairing.md:179"),
    ("006", "pairing.md:176, pairing.md:179, pairing.md:303"),
    ("007", "pairing.md:177, pairing.md:179, pairing.md:303"),
    ("008", "pairing.md:3, pairing.md:179, pairing.md:299, pairing.md:391")]

def specRefs : List (String × String) :=
  dynamicRefs.map (fun entry => ("PAIR-DYN-" ++ entry.1, entry.2)) ++
    dynamicRefs.map (fun entry => ("PAIR-DYN-QR-" ++ entry.1, entry.2)) ++
    [("PAIR-DYN-009", "pairing.md:242"),
      ("PAIR-DYN-010", "pairing.md:171"),
      ("PAIR-DYN-011", "pairing.md:161, pairing.md:314"),
      ("PAIR-DYN-012", "pairing.md:161, messaging.md:193"),
      ("PAIR-DYN-QR-009", "pairing.md:163, pairing.md:262-268"),
      ("PAIR-STATIC-001", "pairing.md:232, pairing.md:238, pairing.md:331"),
      ("PAIR-STATIC-002", "pairing.md:327, pairing.md:333, pairing.md:340"),
      ("PAIR-STATIC-003", "pairing.md:323, pairing.md:341, pairing.md:382"),
      ("PAIR-STATIC-004", "pairing.md:238, pairing.md:338"),
      ("PAIR-STATIC-005", "pairing.md:284-289, pairing.md:299, pairing.md:391"),
      ("PAIR-STATIC-006", "pairing.md:224, pairing.md:226"),
      ("PAIR-STATIC-007", "pairing.md:3, pairing.md:226, pairing.md:299, pairing.md:391"),
      ("PAIR-STATIC-008", "pairing.md:242"),
      ("PAIR-STATIC-009", "pairing.md:224, pairing.md:230"),
      ("PAIR-STATIC-010", "pairing.md:230, pairing.md:232, pairing.md:238"),
      ("PAIR-CTL-001", "pairing.md:39-43, pairing.md:401, pairing.md:408"),
      ("PAIR-CTL-002", "pairing.md:35, pairing.md:404")]

-- The base64url length of each fixed-size field the client sends in a code flow.
def clientFieldLengths : List (String × String × Nat) :=
  [("client/pair-auth", "pake_msg_2", 43), ("client/pair-confirm", "client_kc", 86),
    ("client/pair-confirm", "wrapped_nonce_B", 64), ("client/pair-finalize", "wrapped_psk", 64)]

-- The base64url length of commit_B, a SHA-256 digest.
def commitLength : Nat := 43

def pairingStarts : List String := ["client/pair-init", "client/pair-pending"]

-- How many failed attempts close a static pairing window.
def lockoutAttempts : Nat := 5

-- The server's checks of client/pair-confirm and what follows, in spec order.
inductive Stage where
  | clientKc
  | commit
  | binding
  | unwrap
deriving DecidableEq, Repr

def Stage.value : Stage → Nat
  | .clientKc => 0
  | .commit => 1
  | .binding => 2
  | .unwrap => 3

def failureStages : List (String × Stage) :=
  [("malformed client_kc", .clientKc),
    ("pairing_code_mismatch", .clientKc),
    ("client/pair-confirm carries wrapped_nonce_B", .clientKc),
    ("client/pair-confirm missing wrapped_nonce_B", .commit),
    ("client/pair-confirm must carry only nonce_B", .commit),
    ("malformed nonce_B", .commit),
    ("malformed wrapped_nonce_B", .commit),
    ("revealed nonce_B does not match commit_B", .commit),
    ("entered pairing code is not bound to this connection", .binding),
    ("ClientPairFinalizeMessage", .unwrap),
    ("client/pair-finalize", .unwrap),
    ("malformed wrapped_psk", .unwrap),
    ("malformed long_term_psk", .unwrap),
    ("did not arrive in time", .unwrap),
    ("completing the stored pairing record timed out", .unwrap)]

def stagePassed : Stage → String
  | .clientKc => "client_kc verified under the entered code"
  | .commit => "wrapped_nonce_B unwrapped to a nonce_B that opens commit_B"
  | .binding => "the code derived from h, nonce_A and nonce_B is the entered code"
  | .unwrap => "wrapped_psk unwrapped and the client re-handshook to that long-term PSK"

def finding (checkId : String) (verdict : Verdict) (message : String) (frames : List RecordedFrame := []) : Finding :=
  cite specRefs checkId verdict message frames

def notApplicable (checkId message : String) : Finding := finding checkId .notApplicable message

def notReached (checkId : String) : Finding :=
  notApplicable checkId "not reached: the attempt ended at an earlier failure"

-- The finding for a step whose client never sent `what`.
def unanswered (record : ConnectionRecord) (checkId what : String) : Finding :=
  if record.rejected then notReached checkId else finding checkId .fail ("the client sent no " ++ what)

-- The verification stage aiosendspin's failure detail names.
def failureStage (detail : Option String) : Option Stage :=
  detail.bind fun text => (failureStages.find? fun entry => contains entry.1 text).map Prod.snd

def pairingActivations (record : ConnectionRecord) (since : Nat) : List RecordedFrame :=
  record.frames.filter fun frame => since < frame.id && activatesPairing frame

def lastIn (record : ConnectionRecord) (since : Nat) (messageType : String) : Option RecordedFrame :=
  record.frames.reverse.find? fun frame => since < frame.id && isIn messageType frame

-- _matches(frame, expected)
def carriesIndex (frame : RecordedFrame) (expected : Nat) : Bool := indexIs frame.fields expected

-- _below(frame, expected)
def below (frame : RecordedFrame) (expected : Nat) : Bool :=
  match getKey frame.fields "pairing_index" with
  | .int index => index < expected
  | _ => false

def reasonIs (frame : RecordedFrame) (reason : String) : Bool := (getKey frame.fields "reason").eqStr reason

-- Each activation with the id of the next one, where there is one.
def spans : List RecordedFrame → List (RecordedFrame × Option Nat)
  | [] => []
  | [activation] => [(activation, none)]
  | activation :: next :: rest => (activation, some next.id) :: spans (next :: rest)

-- end is None or frame.id < end
def endsBefore (frame : RecordedFrame) : Option Nat → Bool
  | some last => frame.id < last
  | none => true

-- Of frames under one id the first, as a dict keyed by id keeps them.
def firstById : List RecordedFrame → List RecordedFrame
  | [] => []
  | frame :: rest => frame :: (firstById rest).filter fun other => other.id != frame.id

-- Whether aiosendspin's own bound on the attempt expired after a frame.
def serverGaveUp (record : ConnectionRecord) (after : RecordedFrame) : Bool :=
  record.events.any fun event =>
    event.kind == .pairingFailed && after.id ≤ placeOf event && hasPrefix "PairingTimeoutError" (event.detail.getD "")

def judgeCommit (record : ConnectionRecord) (since : Nat) (checkId : String) (pairInit : RecordedFrame) : Finding :=
  match firstAfter record since (isOut "server/pair-init") with
  | some serverInit =>
      if serverInit.id < pairInit.id then
        finding checkId .toolError "the validator sent server/pair-init before the client committed" [serverInit]
      else
        finding checkId .pass "client/pair-init committed to nonce_B with commit_B before server/pair-init" [pairInit]
  | none =>
      finding checkId .pass "client/pair-init committed to nonce_B with commit_B before server/pair-init" [pairInit]

def checkCommit (walkthrough : String) (record : ConnectionRecord) (since : Nat) : Py (List Finding) :=
  let checkId := walkthrough ++ "-001"
  match firstAfter record since (isIn "client/pair-init") with
  | none => .ok [unanswered record checkId "client/pair-init"]
  | some pairInit =>
      match getKey pairInit.fields "commit_B" with
      | .str commit =>
          if commit.length ≠ commitLength then
            .ok [finding checkId .fail "client/pair-init carries a commit_B that is not 43 characters" [pairInit]]
          else .ok [judgeCommit record since checkId pairInit]
      | .null => .ok [finding checkId .fail "client/pair-init carries no commit_B" [pairInit]]
      | _ => .ok [finding checkId .fail "client/pair-init carries a commit_B that is not 43 characters" [pairInit]]

def answersTo (record : ConnectionRecord) (span : RecordedFrame × Option Nat) : List RecordedFrame :=
  record.frames.filter fun frame =>
    span.1.id < frame.id && endsBefore frame span.2 && frame.inbound && frame.typeIn pairingStarts

def wrongAnswer (answers : List RecordedFrame) (expected : Nat) : Option RecordedFrame :=
  match answers.find? fun answer => !carriesIndex answer expected && !below answer expected with
  | some wrong => some wrong
  | none => if answers.any fun answer => carriesIndex answer expected then none else answers.head?

variable [UnicodeData]

def indexesJudged (record : ConnectionRecord) (checkId : String) :
    List (RecordedFrame × Option Nat) → List RecordedFrame → Finding
  | [], judged =>
      if judged.isEmpty then unanswered record checkId "client/pair-init or client/pair-pending"
      else finding checkId .pass "every pairing activation was answered with its own pairing_index" judged
  | span :: rest, judged =>
      match answersTo record span with
      | [] => indexesJudged record checkId rest judged
      | first :: others =>
          let expected := pairingActivationsSinceHandshake record span.1
          match wrongAnswer (first :: others) expected with
          | some wrong =>
              finding checkId .fail (typeText wrong ++ " carries pairing_index " ++
                pyRepr (getKey wrong.fields "pairing_index") ++ ", not " ++ toString expected) [span.1, wrong]
          | none => indexesJudged record checkId rest (judged ++ [first])

-- zip(.., strict=True) raises where there is no activation at all.
def checkPairingIndex (checkId : String) (record : ConnectionRecord) (since : Nat) : Py (List Finding) :=
  match pairingActivations record since with
  | [] => .error ⟨"ValueError", "zip() argument 2 is longer than argument 1"⟩
  | activations => .ok [indexesJudged record checkId (spans activations) []]

-- The digits of <redacted:N>, read as int() reads them.
def decimalDigits (chars : List Char) : Option Nat :=
  match chars with
  | [] => none
  | _ => (chars.mapM decimalOf).map fun digits => digits.foldl (fun total digit => 10 * total + digit) 0

-- redacted_length(value)
def redactedLength : Json → Option Nat
  | .str text =>
      if hasPrefix "<redacted:" text && hasSuffix ">" text then
        decimalDigits ((text.toList.drop "<redacted:".length).dropLast)
      else none
  | _ => none

structure SentField where
  frame : RecordedFrame
  field : String
  length : Nat

def sentFields (frame : RecordedFrame) : List SentField :=
  (clientFieldLengths.filter fun entry => frame.typed entry.1 && hasKey frame.fields entry.2.1).map fun entry =>
    ⟨frame, entry.2.1, entry.2.2⟩

def sentSince (record : ConnectionRecord) (since : Nat) : List SentField :=
  (record.frames.filter fun frame => since < frame.id && frame.inbound).flatMap sentFields

def isWrongLength (sent : SentField) : Bool := redactedLength (getKey sent.frame.fields sent.field) != some sent.length

def wrongLength (checkId : String) (sent : SentField) : Finding :=
  let what :=
    match redactedLength (getKey sent.frame.fields sent.field) with
    | some actual => toString actual ++ " characters"
    | none => "no string"
  finding checkId .fail (typeText sent.frame ++ " " ++ sent.field ++ " is " ++ what ++ ", not " ++
    toString sent.length) [sent.frame]

def lacksPakeMessage (frame : RecordedFrame) : Bool :=
  isIn "client/pair-auth" frame && !hasKey frame.fields "pake_msg_2"

def checkCpaceLengths (checkId : String) (record : ConnectionRecord) (since : Nat) : Py (List Finding) :=
  let sent := sentSince record since
  if !sent.any fun field => field.frame.typed "client/pair-auth" then
    .ok [unanswered record checkId "client/pair-auth"]
  else
    match sent.find? isWrongLength with
    | some wrong => .ok [wrongLength checkId wrong]
    | none =>
        if record.frames.any fun frame => since < frame.id && lacksPakeMessage frame then
          .ok [finding checkId .fail "a client/pair-auth carries no pake_msg_2"]
        else
          .ok [finding checkId .pass
            (joinWith ", " (sorted (sent.map SentField.field).dedup) ++ " had their fixed lengths")
            (firstById (sent.map SentField.frame))]

-- Verdict and message on what the client answered a wrong code with.
def wrongCodeVerdict (answer : RecordedFrame) : Verdict × String :=
  if answer.typed "client/pair-retry" then
    match answer.payload with
    | some [] => (.pass, "the client asked for another round with client/pair-retry")
    | _ => (.fail, "client/pair-retry carries fields; its payload is \x7b\x7d")
  else if answer.typed "pair/abort" && reasonIs answer "pairing_code_mismatch" then
    (.pass, "the client aborted with 'pairing_code_mismatch'")
  else if answer.typed "client/pair-confirm" then
    (.fail, "the client confirmed after a wrong code: it did not verify server_kc")
  else
    (.fail, "the client answered a wrong code with " ++ describe answer ++
      ", not client/pair-retry or pair/abort 'pairing_code_mismatch'")

def checkWrongCode (walkthrough : String) (record : ConnectionRecord) (since : Nat) : Py (List Finding) :=
  let checkId := walkthrough ++ "-004"
  match firstAfter record since (isOut "server/pair-confirm") with
  | none => .ok [unanswered record checkId "client/pair-auth"]
  | some confirm =>
      match firstInbound record confirm (some ("client/pair-retry" :: "client/pair-confirm" :: refusals)) with
      | none =>
          if record.rejected then .ok [notReached checkId]
          else
            .ok [finding checkId .fail ("after server_kc from a wrong code the client " ++
              (if record.closed then "closed the connection" else "sent nothing") ++
              ", with no client/pair-retry or pair/abort 'pairing_code_mismatch'") [confirm]]
      | some answer =>
          .ok [finding checkId (wrongCodeVerdict answer).1 (wrongCodeVerdict answer).2 [confirm, answer]]

-- unwrap unless the session was keyed by a long-term PSK after the acknowledgement.
def promotionFailure (record : ConnectionRecord) (acknowledged : RecordedFrame) : Option Stage :=
  if isLongTerm (keyedAfter record acknowledged) then none else some .unwrap

-- What is known of the server's checks of a confirm: the stage that failed, the
-- message and frames of its finding; or, where the stage cannot be told, why.
inductive Verification where
  | judged (failed : Option Stage) (message : String) (frames : List RecordedFrame)
  | untold (message : String)

def codeMismatch (frame : RecordedFrame) : Bool := isOut "pair/abort" frame && reasonIs frame "pairing_code_mismatch"

def failureAfter (record : ConnectionRecord) (confirm : RecordedFrame) : Option RecordedEvent :=
  record.events.find? fun event => event.kind == .pairingFailed && confirm.id ≤ placeOf event

def detailText (failure : Option RecordedEvent) : String :=
  match failure with
  | some event => event.detail.getD "None"
  | none => "the attempt ended unobserved"

def verification (record : ConnectionRecord) (confirm : RecordedFrame) : Verification :=
  match firstAfter record confirm.id codeMismatch, firstAfter record confirm.id (isOut "server/pair-finalize") with
  | some abort, _ =>
      .judged (some .clientKc) "client_kc did not verify: the validator aborted with 'pairing_code_mismatch'"
        [confirm, abort]
  | none, some acknowledged =>
      .judged (promotionFailure record acknowledged)
        "the client did not re-handshake to the long-term PSK it delivered" [acknowledged]
  | none, none =>
      match failureStage ((failureAfter record confirm).bind RecordedEvent.detail) with
      | some stage => .judged (some stage) ("aiosendspin: " ++ detailText (failureAfter record confirm)) [confirm]
      | none =>
          .untold ("could not tell which check failed after client/pair-confirm: " ++
            detailText (failureAfter record confirm))

def stageFinding (confirm : RecordedFrame) (failed : Option Stage) (message : String) (frames : List RecordedFrame)
    (check : Stage × String) : Finding :=
  match failed with
  | none => finding check.2 .pass (stagePassed check.1) [confirm]
  | some stage =>
      if check.1.value < stage.value then finding check.2 .pass (stagePassed check.1) [confirm]
      else if check.1 = stage then finding check.2 .fail message frames
      else notApplicable check.2 "not reached: an earlier verification failed"

-- sorted(check_ids.items()), for ids under different stages.
def inStageOrder (checkIds : List (Stage × String)) : List (Stage × String) :=
  checkIds.insertionSort fun left right => left.1.value ≤ right.1.value

def checkVerification (checkIds : List (Stage × String)) (record : ConnectionRecord) (since : Nat) :
    Py (List Finding) :=
  match lastIn record since "client/pair-confirm" with
  | none =>
      .ok (checkIds.map fun check => notApplicable check.2 "not reached: the client sent no client/pair-confirm")
  | some confirm =>
      match verification record confirm with
      | .judged failed message frames =>
          .ok ((inStageOrder checkIds).map (stageFinding confirm failed message frames))
      | .untold message => .ok (checkIds.map fun check => finding check.2 .toolError message [confirm])

def judgePending (activation answer : RecordedFrame) : Finding :=
  if answer.typed "client/pair-pending" then
    finding "PAIR-STATIC-001" .pass
      "the client held the attempt back with client/pair-pending until its window opened" [activation, answer]
  else if answer.typed "client/pair-init" then
    finding "PAIR-STATIC-001" .fail ("the client started the attempt with no pairing window open; if one was open, " ++
      "run the step again with it closed") [activation, answer]
  else
    finding "PAIR-STATIC-001" .fail ("the client answered with " ++ describe answer ++ ", not client/pair-pending")
      [activation, answer]

def checkStaticPending (record : ConnectionRecord) (since : Nat) : Py (List Finding) :=
  match (pairingActivations record since).head? with
  | none => .ok [notApplicable "PAIR-STATIC-001" "the validator sent no pairing activation"]
  | some activation =>
      match firstInbound record activation (some (pairingStarts ++ refusals)) with
      | none => .ok [unanswered record "PAIR-STATIC-001" "client/pair-pending"]
      | some answer => .ok [judgePending activation answer]

def misplacedInStatic (frame : RecordedFrame) : Bool :=
  isIn "client/pair-retry" frame || (isIn "client/pair-init" frame && hasKey frame.fields "commit_B") ||
    (isIn "client/pair-confirm" frame && hasKey frame.fields "wrapped_nonce_B")

def checkStaticShape (record : ConnectionRecord) (since : Nat) : Py (List Finding) :=
  match firstAfter record since (isIn "client/pair-init") with
  | none => .ok [unanswered record "PAIR-STATIC-003" "client/pair-init"]
  | some pairInit =>
      match firstAfter record since misplacedInStatic with
      | some misplaced =>
          .ok [finding "PAIR-STATIC-003" .fail
            (typeText misplaced ++ " belongs to the dynamic flow, or carries a field that does") [misplaced]]
      | none =>
          .ok [finding "PAIR-STATIC-003" .pass "the client sent no commit_B, wrapped_nonce_B or client/pair-retry"
            [pairInit]]

def sentBefore (auth : RecordedFrame) : Option RecordedFrame → Bool
  | some pairInit => auth.id < pairInit.id
  | none => true

def judgeStaticStart (record : ConnectionRecord) (auths : List RecordedFrame) : Option RecordedFrame → Finding
  | none => unanswered record "PAIR-STATIC-004" "client/pair-init"
  | some pairInit =>
      finding "PAIR-STATIC-004" .pass "the client sent client/pair-init before any server/pair-auth" (pairInit :: auths)

def checkStaticOrder (record : ConnectionRecord) (since : Nat) : Py (List Finding) :=
  let pairInit := firstAfter record since (isIn "client/pair-init")
  match firstAfter record since (isOut "server/pair-auth") with
  | some auth =>
      if sentBefore auth pairInit then
        .ok [finding "PAIR-STATIC-004" .toolError "the validator sent server/pair-auth before client/pair-init" [auth]]
      else .ok [judgeStaticStart record [auth] pairInit]
  | none => .ok [judgeStaticStart record [] pairInit]

def abortIn (record : ConnectionRecord) (span : RecordedFrame × Option Nat) : Option RecordedFrame :=
  firstAfter record span.1.id fun frame => endsBefore frame span.2 && isIn "pair/abort" frame

-- Whether a wrong-code attempt ended as it must.
def failsCleanly (record : ConnectionRecord) (span : RecordedFrame × Option Nat) : Bool :=
  match abortIn record span with
  | some abort => reasonIs abort "pairing_code_mismatch"
  | none => false

def describedOr (absent : String) : Option RecordedFrame → String
  | some frame => describe frame
  | none => absent

-- The findings on the first of the attempts, numbered from `number`, that did not.
def uncleanAttempt (record : ConnectionRecord) : Nat → List (RecordedFrame × Option Nat) → Option (List Finding)
  | _, [] => none
  | number, span :: rest =>
      if failsCleanly record span then uncleanAttempt record (number + 1) rest
      else
        some [finding "PAIR-STATIC-009" .fail ("wrong-code attempt " ++ toString number ++ " ended with " ++
            describedOr "no pair/abort" (abortIn record span) ++ ", not pair/abort 'pairing_code_mismatch'")
            (span.1 :: (abortIn record span).toList),
          notApplicable "PAIR-STATIC-010" "not reached: an earlier attempt did not fail cleanly"]

def judgeSixth (record : ConnectionRecord) (sixth : RecordedFrame) : Finding :=
  let answer := firstInbound record sixth (some (pairingStarts ++ refusals))
  if answer.any fun frame => frame.typed "client/pair-pending" then
    finding "PAIR-STATIC-010" .pass "the window closed: the sixth attempt was held back with client/pair-pending"
      (sixth :: answer.toList)
  else
    finding "PAIR-STATIC-010" .fail ("after " ++ toString lockoutAttempts ++
      " failed attempts the client answered a sixth with " ++ describedOr "nothing" answer ++
      ", not client/pair-pending: the window stayed open") (sixth :: answer.toList)

def checkLockout (record : ConnectionRecord) (since : Nat) : Py (List Finding) :=
  let activations := pairingActivations record since
  let failed := finding "PAIR-STATIC-009" .pass ("the client aborted each of " ++ toString lockoutAttempts ++
    " wrong-code attempts with 'pairing_code_mismatch'") (activations.take lockoutAttempts)
  match uncleanAttempt record 1 ((spans activations).take lockoutAttempts) with
  | some findings => .ok findings
  | none =>
      if activations.length < lockoutAttempts then .ok [notReached "PAIR-STATIC-009", notReached "PAIR-STATIC-010"]
      else
        match activations[lockoutAttempts]? with
        | none => .ok [failed, notReached "PAIR-STATIC-010"]
        | some sixth => .ok [failed, judgeSixth record sixth]

def cancels (frame : RecordedFrame) : Bool := isOut "pair/abort" frame && reasonIs frame "user_cancelled"

def leavesPairing (frame : RecordedFrame) : Bool := isOut "server/activate" frame && !declares "pairing" frame.fields

def judgeLeave (record : ConnectionRecord) (abort : RecordedFrame) : Finding :=
  match firstAfter record abort.id leavesPairing with
  | none => finding "PAIR-CTL-001" .toolError "the validator sent no server/activate after cancelling" [abort]
  | some leave =>
      finding "PAIR-CTL-001" .pass "the client dropped the cancelled attempt and kept the connection" [abort, leave]

def checkCancel (record : ConnectionRecord) (since : Nat) : Py (List Finding) :=
  match firstAfter record since cancels with
  | none =>
      .ok [finding "PAIR-CTL-001" .toolError
        "the validator did not cancel the attempt with pair/abort 'user_cancelled'"]
  | some abort =>
      let goodbye := firstInbound record abort (some ["client/goodbye"])
      if goodbye.isSome || record.closed || record.rejected then
        .ok [finding "PAIR-CTL-001" .fail ("the client did not drop the cancelled attempt cleanly: " ++
          describedOr "the connection ended" goodbye) (abort :: goodbye.toList)]
      else .ok [judgeLeave record abort]

def unansweredTimeout (record : ConnectionRecord) (pairInit : RecordedFrame) : Finding :=
  if record.closed then
    finding "PAIR-CTL-002" .fail
      "the idle attempt ended with the connection ended, not pair/abort 'attempt_timeout'" [pairInit]
  else if serverGaveUp record pairInit then
    finding "PAIR-CTL-002" .warn ("the client had not ended the idle attempt when the validator gave up, after " ++
      "3 minutes; the spec recommends a 2-minute attempt timeout") [pairInit]
  else
    finding "PAIR-CTL-002" .fail "the idle attempt ended with no pair/abort, not pair/abort 'attempt_timeout'"
      [pairInit]

def checkTimeout (record : ConnectionRecord) (since : Nat) : Py (List Finding) :=
  match firstAfter record since (isIn "client/pair-init") with
  | none => .ok [unanswered record "PAIR-CTL-002" "client/pair-init"]
  | some pairInit =>
      match firstAfter record pairInit.id (isIn "pair/abort") with
      | none => .ok [unansweredTimeout record pairInit]
      | some abort =>
          if reasonIs abort "attempt_timeout" then
            .ok [finding "PAIR-CTL-002" .pass "the client ended the idle attempt with pair/abort 'attempt_timeout'"
              [pairInit, abort]]
          else
            .ok [finding "PAIR-CTL-002" .fail ("the idle attempt ended with " ++ describe abort ++
              ", not pair/abort 'attempt_timeout'") [pairInit, abort]]

end Conformance.Validator.CodePairing
