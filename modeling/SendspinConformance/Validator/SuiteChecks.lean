import SendspinConformance.Validator.Checks

set_option autoImplicit false

namespace Conformance.Validator.Suite

open Python Protocol

def specRefs : List (String × String) :=
  [("UNPAIRED-001", "connection.md:105, connection.md:119"),
    ("UNPAIRED-002", "messaging.md:251-253, messaging.md:257"),
    ("UNPAIRED-003", "pairing.md:47, messaging.md:297-299"),
    ("UNPAIRED-004", "messaging.md:251-255"),
    ("PAIR-PSK-001", "pairing.md:246-268"),
    ("PAIR-PSK-002", "pairing.md:86-95"),
    ("PAIR-PSK-003", "pairing.md:79, pairing.md:83, connection.md:147-151"),
    ("PAIR-PSK-004", "pairing.md:59, pairing.md:84, pairing.md:327, pairing.md:338-341"),
    ("PAIR-PSK-005", "pairing.md:59, pairing.md:388-390"),
    ("PAIR-PSK-006", "pairing.md:3, pairing.md:23, connection.md:147-151"),
    ("PAIR-PSK-007", "messaging.md:239-241, connection.md:151"),
    ("POSTPAIR-001", "connection.md:119-121, pairing.md:23"),
    ("POSTPAIR-002", "connection.md:119, connection.md:123-129"),
    ("POSTPAIR-003", "messaging.md:450-456, messaging.md:473"),
    ("POSTPAIR-004", "messaging.md:456, connection.md:125"),
    ("POSTPAIR-005", "pairing.md:23"),
    ("POSTPAIR-006", "roles/player/v1.md:59")]

-- aiosendspin's PskCategory values, as keyed events record them.
def longTerm : String := "long_term"

def pairing : String := "pairing"

def sentinel : String := "sentinel"

-- The client answered under the Sentinel after a long-term PSK lookup miss.
def fallback : String := "sentinel_fallback"

def keyingNames : List (String × String) :=
  [(longTerm, "the long-term PSK"), (pairing, "the pairing PSK"), (sentinel, "the Sentinel PSK"),
    (fallback, "a Sentinel fallback from the long-term PSK")]

-- The PSK the validator's Noise message 1 referenced for each outcome.
def referenced : List (String × String) :=
  [(longTerm, "the long-term PSK"), (pairing, "the pairing PSK"), (sentinel, "the Sentinel PSK"),
    (fallback, "the long-term PSK")]

def refusals : List String := ["pair/abort", "client/goodbye"]

def pairingMessages : List String :=
  ["client/pair-init", "client/pair-pending", "client/pair-auth", "client/pair-confirm", "client/pair-retry"]

def finding (checkId : String) (verdict : Verdict) (message : String) (frames : List RecordedFrame := []) : Finding :=
  cite specRefs checkId verdict message frames

def notApplicable (checkId message : String) : Finding := finding checkId .notApplicable message

def notReached (checkId : String) : Finding :=
  notApplicable checkId "not reached: the connection ended at an earlier failure"

-- The first frame after frame `since` for which `holds` is true.
def firstAfter (record : ConnectionRecord) (since : Nat) (holds : RecordedFrame → Bool) : Option RecordedFrame :=
  record.frames.find? fun frame => since < frame.id && holds frame

def isIn (messageType : String) (frame : RecordedFrame) : Bool :=
  frame.inbound && frame.transported && frame.typed messageType

def isOut (messageType : String) (frame : RecordedFrame) : Bool :=
  !frame.inbound && frame.transported && frame.typed messageType

-- A transport frame of the client's other than client/time, of one of `types` if given.
def answersWith (types : Option (List String)) (frame : RecordedFrame) : Bool :=
  frame.inbound && frame.transported && !frame.typeIn ["client/time"] &&
    match types with
    | some listed => frame.typeIn listed
    | none => true

def firstInbound (record : ConnectionRecord) (after : RecordedFrame) (types : Option (List String)) :
    Option RecordedFrame :=
  firstAfter record after.id (answersWith types)

def activities (payload : Fields) : List Json :=
  match getKey payload "activities" with
  | .arr listed => listed
  | _ => []

-- activity in activities(payload)
def declares (activity : String) (payload : Fields) : Bool := (activities payload).any (Json.eqStr activity)

-- f"{frame.type}"
def typeText (frame : RecordedFrame) : String := frame.type.getD "None"

def activatesPairing (frame : RecordedFrame) : Bool := isOut "server/activate" frame && declares "pairing" frame.fields

-- One turn of the count: a handshake of the validator's starts it over.
def pairingCount (count : Nat) (frame : RecordedFrame) : Nat :=
  if !frame.inbound && frame.typed "noise/handshake" then 0
  else if activatesPairing frame then count + 1
  else count

def pairingActivationsSinceHandshake (record : ConnectionRecord) (activation : RecordedFrame) : Nat :=
  (record.frames.takeWhile fun frame => frame.id ≤ activation.id).foldl pairingCount 0

def unpairedAccess (record : ConnectionRecord) : Option Bool :=
  (clientHello record).bind fun hello => enabledOf (getKey hello.fields "unpaired_access")

def firstOutboundActivation (record : ConnectionRecord) (holds : Fields → Bool) : Option RecordedFrame :=
  (record.outbound "server/activate").find? fun frame => holds frame.fields

-- (value or {}).get(key)
def getOr (key : String) : Json → Py Json
  | .obj fields => .ok (getKey fields key)
  | value =>
      if value.truthy then .error ⟨"AttributeError", "'" ++ value.typeName ++ "' object has no attribute 'get'"⟩
      else .ok .null

def pairsWithPsk (frame : RecordedFrame) : Py Bool :=
  if activatesPairing frame then
    (getOr "method" (getKey frame.fields "pairing")).map (Json.eqStr "pairing_psk")
  else .ok false

-- The first pairing_psk activation the validator sent after frame `since`.
def pairingActivation (record : ConnectionRecord) (since : Nat) : Py (Option RecordedFrame) :=
  Py.find pairsWithPsk (record.frames.filter fun frame => since < frame.id)

def keyedEvents (record : ConnectionRecord) : List RecordedEvent :=
  record.events.filter fun event => event.kind == .keyed

-- event.after_frame or 0
def placeOf (event : RecordedEvent) : Nat := event.afterFrame.getD 0

def initialKeying (record : ConnectionRecord) : Option String :=
  (keyedEvents record).head?.bind fun keyed =>
    if record.events.any fun event => event.kind == .credentialMismatch then some fallback else keyed.pskCategory

def outputDelay (frame : RecordedFrame) : Option Int :=
  (getKey (fieldsOf (getKey frame.fields "player")) "output_delay_ms").asInt

variable [UnicodeData]

def describe (frame : RecordedFrame) : String :=
  match getKey frame.fields "reason" with
  | .null => typeText frame
  | reason => typeText frame ++ " " ++ pyRepr reason

def keyingName (keying : String) : Py String :=
  match keyingNames.lookup keying with
  | some name => .ok name
  | none => .error ⟨"KeyError", Python.reprStr keying⟩

def referencedBy (keying : String) : Py String :=
  match referenced.lookup keying with
  | some name => .ok name
  | none => .error ⟨"KeyError", Python.reprStr keying⟩

-- Verdict and message where the PSK that keyed the session was not the expected one.
def miskeyed (expected : String) (kept : Option String) (keying : String) : Py (Verdict × String) := do
  let seen ← referencedBy keying
  let wanted ← referencedBy expected
  let keyedBy ← keyingName keying
  let name ← keyingName expected
  if seen ≠ wanted then
    return (.toolError, "the validator referenced " ++ seen ++ ", not " ++ wanted ++ ", so the step tested nothing")
  else
    return (.fail, match kept, keying == longTerm with
      | some message, true => message
      | _, _ => "the session was keyed by " ++ keyedBy ++ ", not " ++ name)

-- No handshake completed on the connection.
def unkeyed (record : ConnectionRecord) (checkId expected : String) : Py (List Finding) :=
  match (record.outbound "noise/handshake" .cleartext).head?,
    record.rejected || record.frames.any RecordedFrame.transported with
  | some message1, false =>
      (keyingName expected).map fun name =>
        match (record.inbound "noise/handshake" .cleartext).head? with
        | none =>
            [finding checkId .fail ("the client did not answer Noise message 1, expected to match " ++ name)
              [message1]]
        | some message2 =>
            [finding checkId .fail ("the client's Noise message 2 did not verify, expected to match " ++ name)
              [message1, message2]]
  | _, _ => .ok [notReached checkId]

-- `kept` replaces the failure message when the session matched the long-term PSK.
def judgeKeying (record : ConnectionRecord) (checkId expected passed : String) (kept : Option String := none) :
    Py (List Finding) :=
  match initialKeying record with
  | none => unkeyed record checkId expected
  | some keying =>
      let message1 := (record.outbound "noise/handshake" .cleartext).take 1
      if keying = expected then .ok [finding checkId .pass passed message1]
      else (miskeyed expected kept keying).map fun told => [finding checkId told.1 told.2 message1]

def judgeGoodbye (checkId reason : String) (activation goodbye : RecordedFrame) : Finding :=
  if (getKey goodbye.fields "reason").eqStr reason then
    finding checkId .pass ("the client refused the activation with client/goodbye " ++ Python.reprStr reason)
      [activation, goodbye]
  else
    finding checkId .fail ("the client refused the activation with goodbye " ++
      pyRepr (getKey goodbye.fields "reason") ++ ", not " ++ Python.reprStr reason) [activation, goodbye]

def judgeRefusal (record : ConnectionRecord) (checkId : String) (activation : RecordedFrame) (reason : String) :
    List Finding :=
  match firstInbound record activation (some ["client/goodbye"]), firstInbound record activation none with
  | some goodbye, _ => [judgeGoodbye checkId reason activation goodbye]
  | none, response =>
      if record.rejected then [notReached checkId]
      else
        match response with
        | some answer =>
            [finding checkId .fail ("the client answered the activation with " ++ describe answer ++
              ", not client/goodbye " ++ Python.reprStr reason) [activation, answer]]
        | none =>
            [finding checkId .fail ("the client " ++
              (if record.closed then "closed the connection" else "kept the connection open") ++
              " without client/goodbye " ++ Python.reprStr reason) [activation]]

def judgeAbortReason (record : ConnectionRecord) (activation abort : RecordedFrame) : Finding :=
  if !(getKey abort.fields "reason").eqStr "method_not_supported" then
    finding "UNPAIRED-004" .fail ("the client aborted with " ++ pyRepr (getKey abort.fields "reason") ++
      ", not 'method_not_supported'") [activation, abort]
  else if record.closed then
    finding "UNPAIRED-004" .fail "the client aborted with 'method_not_supported' but closed the connection"
      [activation, abort]
  else
    finding "UNPAIRED-004" .pass "the client aborted with 'method_not_supported' and kept the connection"
      [activation, abort]

def judgeAbort (record : ConnectionRecord) (activation : RecordedFrame) : List Finding :=
  match firstInbound record activation (some ["pair/abort", "client/goodbye"]) with
  | none =>
      [finding "UNPAIRED-004" .fail
        "the client answered with nothing, not pair/abort 'method_not_supported'" [activation]]
  | some response =>
      if response.typed "pair/abort" then [judgeAbortReason record activation response]
      else
        [finding "UNPAIRED-004" .fail
          ("the client answered with " ++ describe response ++ ", not pair/abort 'method_not_supported'")
          [activation, response]]

def checkSentinelHandshake (record : ConnectionRecord) : Py (List Finding) :=
  judgeKeying record "UNPAIRED-001" sentinel "the client completed the handshake on the Sentinel PSK"

def checkPairingRequired (record : ConnectionRecord) : Py (List Finding) :=
  if unpairedAccess record ≠ some false then
    .ok [notApplicable "UNPAIRED-002" "the client/hello did not report unpaired access disabled"]
  else
    match firstOutboundActivation record (declares "playback") with
    | none => .ok [notApplicable "UNPAIRED-002" "the validator did not declare playback"]
    | some activation => .ok (judgeRefusal record "UNPAIRED-002" activation "pairing_required")

def unansweredPlayback (record : ConnectionRecord) (activation : RecordedFrame) : Py (List Finding) :=
  if record.rejected then .ok [notReached "UNPAIRED-003"]
  else
    (iterated (getKey activation.fields "active_roles")).map fun roles =>
      [finding "UNPAIRED-003" .fail
        ("no client/state followed the unpaired activation of " ++ joinWith ", " (roles.map pyStr)) [activation]]

def checkUnpairedPlayback (record : ConnectionRecord) : Py (List Finding) :=
  if unpairedAccess record ≠ some true then
    .ok [notApplicable "UNPAIRED-003" "the client/hello did not report unpaired access enabled"]
  else
    match firstOutboundActivation record fun payload => (getKey payload "active_roles").truthy with
    | none =>
        .ok [finding "UNPAIRED-003" .toolError "the validator activated no roles, though unpaired access is enabled"]
    | some activation =>
        match firstInbound record activation (some ("client/state" :: refusals)) with
        | none => unansweredPlayback record activation
        | some response =>
            if response.typed "client/state" then
              .ok [finding "UNPAIRED-003" .pass "the client accepted the unpaired activation and sent client/state"
                [activation, response]]
            else
              .ok [finding "UNPAIRED-003" .fail
                ("the client refused an admissible unpaired activation with " ++ describe response)
                [activation, response]]

def checkInadmissibleActivation (record : ConnectionRecord) : Py (List Finding) :=
  match firstOutboundActivation record (declares "pairing"), unpairedAccess record with
  | none, _ => .ok [notApplicable "UNPAIRED-004" "the validator sent no inadmissible activation"]
  | some activation, some false => .ok (judgeRefusal record "UNPAIRED-004" activation "unauthorized")
  | some activation, some true => .ok (judgeAbort record activation)
  | some _, none => .ok [notApplicable "UNPAIRED-004" "the client/hello did not report unpaired access"]

def checkPairingRehandshake (record : ConnectionRecord) (since : Nat) : Py (List Finding) :=
  match firstAfter record since (isOut "noise/handshake") with
  | none => .ok [notApplicable "PAIR-PSK-003" "the validator did not re-handshake to the pairing PSK"]
  | some message1 =>
      match firstAfter record message1.id (isIn "noise/handshake") with
      | none =>
          if record.rejected then .ok [notReached "PAIR-PSK-003"]
          else
            .ok [finding "PAIR-PSK-003" .fail ("the client did not answer the re-handshake onto its pairing PSK, " ++
              "which it must keep among its handshake candidates") [message1]]
      | some message2 =>
          match pairingActivation record message2.id with
          | .error raised => .error raised
          | .ok (some _) =>
              .ok [finding "PAIR-PSK-003" .pass "the client completed the re-handshake onto its pairing PSK"
                [message1, message2]]
          | .ok none =>
              if record.rejected then .ok [notReached "PAIR-PSK-003"]
              else
                .ok [finding "PAIR-PSK-003" .fail
                  "the client's Noise message 2 did not verify under its pairing PSK" [message1, message2]]

-- payload.get("pairing_index") is the expected integer; True counts as 1 but is refused.
def indexIs (payload : Fields) (expected : Nat) : Bool :=
  (getKey payload "pairing_index").eqInt expected && !(getKey payload "pairing_index").isBool

def pairInitProblems (payload : Fields) (expected : Nat) : List String :=
  (if indexIs payload expected then []
    else ["pairing_index is " ++ pyRepr (getKey payload "pairing_index") ++ ", not " ++ toString expected]) ++
    if hasKey payload "commit_B" then ["it carries commit_B, which only the dynamic pairing code flow sends"] else []

def judgePairInit (activation response : RecordedFrame) (expected : Nat) : Finding :=
  if pairInitProblems response.fields expected ≠ [] then
    finding "PAIR-PSK-004" .fail (joinWith "; " (pairInitProblems response.fields expected)) [activation, response]
  else
    finding "PAIR-PSK-004" .pass
      ("the client started the attempt with client/pair-init, pairing_index " ++ toString expected)
      [activation, response]

def checkPairInit (record : ConnectionRecord) (since : Nat) : Py (List Finding) :=
  match pairingActivation record since with
  | .error raised => .error raised
  | .ok none => .ok [notApplicable "PAIR-PSK-004" "the validator sent no pairing_psk activation"]
  | .ok (some activation) =>
      match firstInbound record activation (some ("client/pair-init" :: "client/pair-finalize" :: refusals)) with
      | none =>
          if record.rejected then .ok [notReached "PAIR-PSK-004"]
          else
            .ok [finding "PAIR-PSK-004" .fail
              "the client did not answer the pairing activation with client/pair-init" [activation]]
      | some response =>
          if response.typed "client/pair-init" then
            .ok [judgePairInit activation response (pairingActivationsSinceHandshake record activation)]
          else
            .ok [finding "PAIR-PSK-004" .fail ("the client answered the pairing activation with " ++
              describe response ++ ", not client/pair-init") [activation, response]]

def finalizeProblems (payload : Fields) : List String :=
  (if (getKey payload "long_term_psk").isStr then []
    else ["client/pair-finalize carries no long_term_psk string"]) ++
    if hasKey payload "wrapped_psk" then ["client/pair-finalize carries wrapped_psk, which only code flows send"]
    else []

def unfinalized (record : ConnectionRecord) (pairInit : RecordedFrame) (answer : Option RecordedFrame) :
    List Finding :=
  match answer with
  | none =>
      if record.rejected then [notReached "PAIR-PSK-005"]
      else
        [finding "PAIR-PSK-005" .fail
          "the client did not follow client/pair-init with client/pair-finalize" [pairInit]]
  | some other =>
      [finding "PAIR-PSK-005" .fail ("the client did not follow client/pair-init with client/pair-finalize, but " ++
        describe other) [pairInit, other]]

def judgeFinalize (record : ConnectionRecord) (pairInit finalize : RecordedFrame) : Finding :=
  if finalizeProblems finalize.fields ≠ [] then
    finding "PAIR-PSK-005" .fail (joinWith "; " (finalizeProblems finalize.fields)) [pairInit, finalize]
  else
    match firstAfter record finalize.id (isOut "server/pair-finalize") with
    | none =>
        finding "PAIR-PSK-005" .fail ("aiosendspin did not accept the long_term_psk: it is not a 32-byte key in " ++
          "43 characters of base64url, or it reuses the pairing or Sentinel PSK") [finalize]
    | some acknowledged =>
        finding "PAIR-PSK-005" .pass "the client delivered a valid long_term_psk right after client/pair-init"
          [pairInit, finalize, acknowledged]

def checkPairFinalize (record : ConnectionRecord) (since : Nat) : Py (List Finding) :=
  match firstAfter record since (isIn "client/pair-init") with
  | none => .ok [notApplicable "PAIR-PSK-005" "the client sent no client/pair-init"]
  | some pairInit =>
      match firstInbound record pairInit (some ("client/pair-finalize" :: (pairingMessages ++ refusals))) with
      | none => .ok (unfinalized record pairInit none)
      | some answer =>
          if answer.typed "client/pair-finalize" then .ok [judgeFinalize record pairInit answer]
          else .ok (unfinalized record pairInit (some answer))

def keyedAfter (record : ConnectionRecord) (frame : RecordedFrame) : Option RecordedEvent :=
  (keyedEvents record).find? fun event => frame.id < placeOf event

def isLongTerm (keyed : Option RecordedEvent) : Bool :=
  match keyed with
  | some event => event.pskCategory == some longTerm
  | none => false

def checkPromotion (record : ConnectionRecord) (since : Nat) : Py (List Finding) :=
  match firstAfter record since (isOut "server/pair-finalize") with
  | none => .ok [notApplicable "PAIR-PSK-006" "the pairing did not reach server/pair-finalize"]
  | some acknowledged =>
      match firstAfter record acknowledged.id (isOut "noise/handshake") with
      | none => .ok [notApplicable "PAIR-PSK-006" "the validator did not re-handshake after the finalize"]
      | some message1 =>
          match firstAfter record message1.id (isIn "noise/handshake") with
          | none =>
              if record.rejected then .ok [notReached "PAIR-PSK-006"]
              else
                .ok [finding "PAIR-PSK-006" .fail
                  "the client did not answer the re-handshake to the long-term PSK it delivered"
                  [acknowledged, message1]]
          | some message2 =>
              if isLongTerm (keyedAfter record acknowledged) then
                .ok [finding "PAIR-PSK-006" .pass "the client re-handshook to the long-term PSK it delivered"
                  [message1, message2]]
              else
                .ok [finding "PAIR-PSK-006" .fail ("the re-handshake after server/pair-finalize did not key the " ++
                  "session with the long-term PSK") [message1, message2]]

-- The activation that follows the client's answer to the long-term re-handshake.
def pairedActivation (record : ConnectionRecord) (since : Nat) : Option RecordedFrame :=
  (firstAfter record since (isOut "server/pair-finalize")).bind fun acknowledged =>
    (firstAfter record acknowledged.id (isIn "noise/handshake")).bind fun message2 =>
      firstAfter record message2.id (isOut "server/activate")

def checkPairedActivation (record : ConnectionRecord) (since : Nat) : Py (List Finding) :=
  match pairedActivation record since with
  | none => .ok [notApplicable "PAIR-PSK-007" "no activation followed a long-term re-handshake"]
  | some activation =>
      match firstInbound record activation (some refusals) with
      | some refusal =>
          .ok [finding "PAIR-PSK-007" .fail ("the client refused the paired activation with " ++ describe refusal)
            [activation, refusal]]
      | none =>
          if record.closed then
            .ok [finding "PAIR-PSK-007" .fail "the connection ended after the paired activation" [activation]]
          else
            .ok [finding "PAIR-PSK-007" .pass "the client accepted the activation on the paired session" [activation]]

def checkLongTermReconnect (record : ConnectionRecord) : Py (List Finding) :=
  judgeKeying record "POSTPAIR-001" longTerm
    "the client matched the long-term PSK from pairing, bound to this server_id"

def checkForgottenReconnect (record : ConnectionRecord) : Py (List Finding) :=
  match firstOutboundActivation record fun payload =>
    declares "playback" payload || (getKey payload "active_roles").truthy with
  | some declared =>
      .ok [finding "POSTPAIR-002" .toolError "the validator activated playback or roles on a forgotten client"
        [declared]]
  | none =>
      judgeKeying record "POSTPAIR-002" sentinel
        "the client accepted the Sentinel handshake from a server that forgot it"

-- What keyed the session last before a frame.
def keyedBefore (record : ConnectionRecord) (frame : RecordedFrame) : Option RecordedEvent :=
  ((keyedEvents record).filter fun event => placeOf event < frame.id).getLast?

def checkUnpairGoodbye (record : ConnectionRecord) : Py (List Finding) :=
  match (record.outbound "server/unpair").head? with
  | none => .ok [notApplicable "POSTPAIR-003" "the validator sent no server/unpair"]
  | some unpair =>
      if !isLongTerm (keyedBefore record unpair) then
        .ok [notApplicable "POSTPAIR-003" "the session was not keyed by the long-term PSK"]
      else
        match firstInbound record unpair (some ["client/goodbye"]) with
        | none =>
            .ok [finding "POSTPAIR-003" .fail
              "the client did not answer server/unpair with client/goodbye 'unpaired'" [unpair]]
        | some goodbye =>
            if (getKey goodbye.fields "reason").eqStr "unpaired" then
              .ok [finding "POSTPAIR-003" .pass
                "the client answered server/unpair with client/goodbye 'unpaired'" [unpair, goodbye]]
            else
              .ok [finding "POSTPAIR-003" .fail ("the client answered server/unpair with goodbye " ++
                pyRepr (getKey goodbye.fields "reason") ++ ", not 'unpaired'") [unpair, goodbye]]

def checkRecordDropped (record : ConnectionRecord) : Py (List Finding) :=
  judgeKeying record "POSTPAIR-004" fallback
    "the client no longer holds the unpaired record and fell back to the Sentinel"
    (some "the client still holds the pairing record it was told to drop by server/unpair")

def checkRestartKeepsPairing (record : ConnectionRecord) : Py (List Finding) :=
  judgeKeying record "POSTPAIR-005" longTerm "the client kept its pairing record across the restart"

def judgeDelay (echo state : RecordedFrame) (commanded : Int) : Finding :=
  let delay := (outputDelay state).getD 0
  if delay = commanded then
    finding "POSTPAIR-006" .pass ("output_delay_ms stayed " ++ toString delay ++ " across the restart") [echo, state]
  else
    finding "POSTPAIR-006" .fail ("output_delay_ms was set to " ++ toString commanded ++
      " before the restart and is " ++ toString delay ++ " after") [echo, state]

-- next() over the frames before the restart has no default: no echo raises StopIteration.
def checkRestartKeepsOutputDelay (before after : ConnectionRecord) : Option Int → Py (List Finding)
  | none =>
      .ok [notApplicable "POSTPAIR-006" ("the validator could not set an output delay: the player does not offer " ++
        "set_output_delay, or did not report the delay it was set to")]
  | some commanded =>
      match (before.inbound "client/state").find? fun frame => outputDelay frame == some commanded with
      | none => .error ⟨"StopIteration", ""⟩
      | some echo =>
          match (after.inbound "client/state").find? fun frame => (outputDelay frame).isSome with
          | none => .ok [notApplicable "POSTPAIR-006" "the client reported no player output_delay_ms after"]
          | some state => .ok [judgeDelay echo state commanded]

end Conformance.Validator.Suite
