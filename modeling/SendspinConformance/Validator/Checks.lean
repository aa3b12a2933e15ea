import SendspinConformance.Validator.Records
import SendspinConformance.Validator.NoncomplianceRefs

set_option autoImplicit false

namespace Conformance.Validator

open Python

def specRefs : List (String × String) :=
  [("CORE-INIT-001", "messaging.md:5, messaging.md:16"),
    ("CORE-INIT-002", "messaging.md:145"),
    ("CORE-INIT-003", "messaging.md:146"),
    ("CORE-INIT-004", "messaging.md:147, connection.md:78-81"),
    ("CORE-INIT-005", "messaging.md:28, messaging.md:141-147"),
    ("CORE-NOISE-001", "messaging.md:171"),
    ("CORE-ORDER-001", "messaging.md:14"),
    ("CORE-HELLO-001", "messaging.md:11, messaging.md:198"),
    ("CORE-HELLO-002", "messaging.md:216-218, messaging.md:225"),
    ("CORE-HELLO-003", "template.md:124, template.md:146"),
    ("CORE-HELLO-004", "messaging.md:219, pairing.md:305-319"),
    ("CORE-HELLO-005", "messaging.md:220-221"),
    ("CORE-HELLO-006", "messaging.md:28, messaging.md:202-223"),
    ("CORE-HELLO-007", "connection.md:19"),
    ("CORE-STATE-001", "messaging.md:297-299"),
    ("CORE-STATE-002", "messaging.md:301-303"),
    ("CORE-STATE-003", "messaging.md:306-309, template.md:134"),
    ("CORE-TIME-001", "messaging.md:281")]

def strictCheckId : String := "CORE-STRICT-001"

def recorderCheckId : String := "CORE-RECORDER-001"

def noisePayloadReason : String := "Noise message 2 payload is not the literal bytes \x7b\x7d"

def suites : List String := ["25519_ChaChaPoly_SHA256", "25519_AESGCM_SHA256"]

def supportObjectRoles : List String := ["player@v1", "source@v1", "visualizer@v1"]

def stateObjectRoles : List String := ["player", "source", "artwork", "visualizer"]

def helloFields : List String :=
  ["name", "device_info", "supported_roles", "supported_pair_methods", "unpaired_access"]

def deviceInfoFields : List String := ["product_name", "manufacturer", "software_version", "mac_address"]

def codePairMethods : List String := ["static_pairing_code", "dynamic_pairing_code"]

def pairMethodFields : List (String × List String) :=
  [("pairing_psk", ["locations"]), ("static_pairing_code", ["locations"]),
    ("dynamic_pairing_code", ["out_channels", "formats"])]

def supportSuffix : String := "_support"

def isClientIdChar (char : Char) : Bool := isAscii char && (char.isAlphanum || char == '_' || char == '-')

-- [A-Za-z0-9_-]{43}
def isClientId (text : String) : Bool := text.toList.length == 43 && text.toList.all isClientIdChar

-- [^@\s]+@[^@\s]+
def isRole (text : String) : Bool :=
  let name := beforeSeparator '@' text
  let version := afterSeparator '@' text
  name != "" && version != "" && !version.toList.contains '@' &&
    !name.toList.any isSpace && !version.toList.any isSpace

-- _match(value, pattern)
def fits (value : Json) (pattern : String → Bool) : Bool :=
  match value with
  | .str text => pattern text
  | _ => false

-- _kind(value)
def kindOf (value : Json) : String := if value.isNull then "missing" else "a " ++ value.typeName

def whatOf (frame : RecordedFrame) : String :=
  match frame.type, frame.error, frame.binaryType with
  | some messageType, _, _ => messageType
  | none, some error, _ => "a frame that did not decode: " ++ error
  | none, none, some binaryType => "a binary message of type " ++ toString binaryType
  | none, none, none => "a JSON message without a type"

def finding (checkId : String) (verdict : Verdict) (message : String) (frames : List RecordedFrame := []) : Finding :=
  cite specRefs checkId verdict message frames

def notReached (checkId : String) : Finding :=
  finding checkId .notApplicable "not reached: the connection ended at an earlier failure"

-- _undefined(obj, defined, custom=custom)
def undefinedKeys (object : Fields) (defined : List String) (custom : Bool := false) : List String :=
  sorted ((dictKeys object).filter fun key => !defined.contains key && !(custom && hasPrefix "_" key))

-- _roles(payload)
def rolesOf (payload : Fields) : List String :=
  match getKey payload "supported_roles" with
  | .arr roles => roles.filterMap Json.asStr
  | _ => []

variable [UnicodeData]

abbrev Check := ConnectionRecord → Py (List Finding)

def noFrames : PyError := ⟨"IndexError", "tuple index out of range"⟩

def isClientInit (first : RecordedFrame) : Bool :=
  first.inbound && first.phase == .cleartext && first.typed "client/init"

-- The client's opening frame, if it is a client/init; frames[0] raises on no frames.
def clientInit (connection : ConnectionRecord) : Py (Option RecordedFrame) :=
  match connection.frames with
  | [] => .error noFrames
  | first :: _ => .ok (if isClientInit first then some first else none)

def noClientInit (checkId : String) : Finding := finding checkId .notApplicable "no client/init to judge"

def judgeClientInit (connection : ConnectionRecord) (checkId : String) (holds : Fields → Py Bool) (passed : String)
    (failed : Fields → String) : Py (List Finding) :=
  match clientInit connection with
  | .error raised => .error raised
  | .ok none => .ok [noClientInit checkId]
  | .ok (some init) =>
      match holds init.fields with
      | .error raised => .error raised
      | .ok true => .ok [finding checkId .pass passed [init]]
      | .ok false => .ok [finding checkId .fail (failed init.fields) [init]]

def checkOpensWithClientInit : Check := fun connection =>
  match connection.frames with
  | [] => .error noFrames
  | first :: _ =>
      if isClientInit first then .ok [finding "CORE-INIT-001" .pass "the client opened with client/init" [first]]
      else
        .ok [finding "CORE-INIT-001" .fail
          ("the client's first frame was not a client/init message (" ++ whatOf first ++ ")") [first]]

def checkClientId : Check := fun connection =>
  judgeClientInit connection "CORE-INIT-002" (fun payload => .ok (fits (getKey payload "client_id") isClientId))
    "client_id is 43 characters of base64url without padding"
    fun payload => "client_id " ++ pyRepr (getKey payload "client_id") ++
      " is not 43 characters of base64url without padding"

def checkInitVersion : Check := fun connection =>
  judgeClientInit connection "CORE-INIT-003"
    (fun payload => .ok ((getKey payload "version").isInt && (getKey payload "version").eqInt 1))
    "version is 1"
    fun payload => "version is " ++ pyRepr (getKey payload "version") ++ ", not the integer 1"

-- `value in SUITES`, which hashes the value first.
def inSuites : Json → Py Bool
  | .str text => .ok (suites.contains text)
  | .arr _ => .error ⟨"TypeError", "unhashable type: 'list'"⟩
  | .obj _ => .error ⟨"TypeError", "unhashable type: 'dict'"⟩
  | _ => .ok false

def checkInitSuite : Check := fun connection =>
  judgeClientInit connection "CORE-INIT-004" (fun payload => inSuites (getKey payload "suite"))
    "suite is a defined Noise suite"
    fun payload => "suite " ++ pyRepr (getKey payload "suite") ++ " is not one of " ++ joinWith ", " (sorted suites)

def initUndefined (init : RecordedFrame) : List String :=
  undefinedKeys (init.message.getD []) ["type", "payload"] ++
    (undefinedKeys init.fields ["client_id", "version", "suite"]).map ("payload." ++ ·)

def checkInitFields : Check := fun connection =>
  match clientInit connection with
  | .error raised => .error raised
  | .ok none => .ok [noClientInit "CORE-INIT-005"]
  | .ok (some init) =>
      if initUndefined init ≠ [] then
        .ok [finding "CORE-INIT-005" .fail
          ("client/init carries undefined fields: " ++ joinWith ", " (initUndefined init)) [init]]
      else .ok [finding "CORE-INIT-005" .pass "client/init has no undefined fields" [init]]

def noiseUnseen : String := "the client sent no Noise message 2, so its payload was not seen"

def noiseEnded : String := "the handshake ended after Noise message 2 for a reason the validator cannot see"

def noiseMessage2 (connection : ConnectionRecord) : Option RecordedFrame :=
  (connection.inbound "noise/handshake" .cleartext).head?

def noiseRejection (connection : ConnectionRecord) : Option RecordedNoncompliance :=
  connection.noncompliance.find? fun observation => observation.reason == noisePayloadReason

def checkNoiseMessage2 : Check := fun connection =>
  match noiseMessage2 connection, noiseRejection connection with
  | none, _ =>
      if (connection.outbound "server/error" .cleartext).isEmpty then
        .ok [finding "CORE-NOISE-001" .toolError noiseUnseen]
      else
        .ok [finding "CORE-NOISE-001" .notApplicable "the validator answered the opening frame with server/error"]
  | some message2, some rejection => .ok [finding "CORE-NOISE-001" .fail rejection.reason [message2]]
  | some message2, none =>
      if connection.frames.any fun frame => frame.transported && !frame.inbound then
        .ok [finding "CORE-NOISE-001" .pass "Noise message 2 carried \x7b\x7d and the handshake completed" [message2]]
      else .ok [finding "CORE-NOISE-001" .toolError noiseEnded [message2]]

def activates (frame : RecordedFrame) : Bool := !frame.inbound && frame.typed "server/activate"

def sentEarly (frame : RecordedFrame) : Bool := frame.inbound && !frame.typeIn ["client/hello", "client/goodbye"]

def checkNothingBeforeActivation : Check := fun connection =>
  let transport := connection.frames.filter RecordedFrame.transported
  let early := (transport.takeWhile fun frame => !activates frame).filter sentEarly
  if transport.isEmpty then .ok [finding "CORE-ORDER-001" .notApplicable "the handshake never completed"]
  else if early.isEmpty then
    .ok [finding "CORE-ORDER-001" .pass "the client sent nothing but its hello before activation"]
  else
    .ok [finding "CORE-ORDER-001" .fail ("the client sent " ++ joinWith ", " (early.map whatOf) ++
      " before the initial server/activate") early]

def clientHello (connection : ConnectionRecord) : Option RecordedFrame := (connection.inbound "client/hello").head?

def noClientHello (checkId : String) : Finding := finding checkId .notApplicable "no client/hello to judge"

def checkHelloSent : Check := fun connection =>
  match clientHello connection, (connection.outbound "server/hello").head?,
    (connection.inbound "client/goodbye").head? with
  | some hello, _, _ => .ok [finding "CORE-HELLO-001" .pass "the client sent client/hello" [hello]]
  | none, none, _ => .ok [finding "CORE-HELLO-001" .notApplicable "the validator sent no server/hello"]
  | none, some _, some goodbye =>
      .ok [finding "CORE-HELLO-001" .notApplicable "the client said goodbye before its hello" [goodbye]]
  | none, some serverHello, none =>
      if connection.rejected then .ok [notReached "CORE-HELLO-001"]
      else
        .ok [finding "CORE-HELLO-001" .fail "the client never answered server/hello with client/hello" [serverHello]]

-- A check of the client/hello, where there is one: a verdict and its message.
def judgeHello (checkId : String) (judge : RecordedFrame → Verdict × String) : Check := fun connection =>
  match clientHello connection with
  | none => .ok [noClientHello checkId]
  | some hello => .ok [finding checkId (judge hello).1 (judge hello).2 [hello]]

def unsupportedRoles (payload : Fields) : List String :=
  (sorted (supportObjectRoles.filter (rolesOf payload).contains)).filter fun role =>
    !(getKey payload (role ++ supportSuffix)).isObj

def unlistedSupport (payload : Fields) : List String :=
  (sorted (dictKeys payload)).filter fun key =>
    hasSuffix supportSuffix key && contains "@" key && !(rolesOf payload).contains (removeSuffix supportSuffix key)

def supportProblems (payload : Fields) : List String :=
  (unsupportedRoles payload).map
      (fun role => role ++ " is listed without its " ++ role ++ supportSuffix ++ " object") ++
    (unlistedSupport payload).map (· ++ " is sent for a role version not in supported_roles")

def checkHelloSupportObjects : Check :=
  judgeHello "CORE-HELLO-002" fun hello =>
    if supportProblems hello.fields ≠ [] then (.fail, joinWith "; " (supportProblems hello.fields))
    else (.pass, "every listed role version has the support object it requires")

def malformedRoles (roles : List Json) : List Json := roles.filter fun role => !fits role isRole

def checkHelloRoles : Check :=
  judgeHello "CORE-HELLO-003" fun hello =>
    match getKey hello.fields "supported_roles" with
    | .arr roles =>
        if (malformedRoles roles).isEmpty then (.pass, "every role is <role>@<version>")
        else (.fail, "roles not of the form <role>@<version>: " ++ joinWith ", " ((malformedRoles roles).map pyRepr))
    | roles => (.fail, "supported_roles is " ++ kindOf roles ++ ", not a list")

def isStringList : Json → Bool
  | .arr values => values.all Json.isStr
  | _ => false

-- `text in value` where the value is a list
def listHolds (value : Json) (text : String) : Bool :=
  match value with
  | .arr items => items.any (Json.eqStr text)
  | _ => false

def descriptorFields (method : String) : List String := (pairMethodFields.lookup method).getD []

def isDynamic (method : String) : Bool := method == "dynamic_pairing_code"

def fieldProblem (method : String) (descriptor : Fields) (field : String) : Option String :=
  if !hasKey descriptor field then
    if isDynamic method then some (method ++ "." ++ field ++ " is missing") else none
  else if isStringList (getKey descriptor field) then none
  else some (method ++ "." ++ field ++ " is not a list of strings")

def formatProblems (method : String) (descriptor : Fields) : List String :=
  match getKey descriptor "formats" with
  | .arr formats =>
      (if formats.isEmpty then [method ++ ".formats is empty"] else []) ++
        (if listHolds (.arr formats) "qr_code" && !listHolds (getKey descriptor "out_channels") "display" then
          [method ++ " offers qr_code without a display out_channel"] else [])
  | _ => []

def descriptorProblems (method : String) : Json → List String
  | .obj descriptor =>
      (undefinedKeys descriptor (descriptorFields method)).map
          (fun key => method ++ "." ++ key ++ " is not a defined descriptor field") ++
        (sorted (descriptorFields method)).filterMap (fieldProblem method descriptor) ++
        (if isDynamic method then formatProblems method descriptor else [])
  | descriptor => [method ++ " descriptor is " ++ kindOf descriptor ++ ", not an object"]

def methodProblems (methods : Fields) : List String :=
  (if hasKey methods "pairing_psk" then [] else ["pairing_psk is not offered"]) ++
    (if 1 < (codePairMethods.filter (hasKey methods)).length then
      ["both static_pairing_code and dynamic_pairing_code are offered"] else []) ++
    (sorted ((pairMethodFields.map Prod.fst).filter (hasKey methods))).flatMap fun method =>
      descriptorProblems method (getKey methods method)

def checkHelloPairMethods : Check :=
  judgeHello "CORE-HELLO-004" fun hello =>
    match getKey hello.fields "supported_pair_methods" with
    | .obj methods =>
        if methodProblems methods ≠ [] then (.fail, joinWith "; " (methodProblems methods))
        else (.pass, "pairing methods are well formed: " ++ joinWith ", " (sorted (dictKeys methods)))
    | methods => (.fail, "supported_pair_methods is " ++ kindOf methods ++ ", not an object")

-- The boolean `enabled` of an unpaired_access object.
def enabledOf (access : Json) : Option Bool :=
  match getKey (Protocol.fieldsOf access) "enabled" with
  | .bool enabled => some enabled
  | _ => none

def checkHelloUnpairedAccess : Check :=
  judgeHello "CORE-HELLO-005" fun hello =>
    match enabledOf (getKey hello.fields "unpaired_access") with
    | some enabled => (.pass, "unpaired_access.enabled is " ++ if enabled then "true" else "false")
    | none =>
        (.fail, "unpaired_access is " ++ pyRepr (getKey hello.fields "unpaired_access") ++
          ", not an object with a boolean enabled")

def isCustomRole (role : String) : Bool := hasPrefix "_" role || hasPrefix "_" (afterSeparator '@' role)

def definedHelloFields (payload : Fields) : List String :=
  helloFields ++ supportObjectRoles.map (· ++ supportSuffix) ++
    ((rolesOf payload).filter isCustomRole).map (· ++ supportSuffix)

def nestedUndefined (payload : Fields) (name : String) (defined : List String) : List String :=
  match getKey payload name with
  | .obj nested => (undefinedKeys nested defined).map fun key => "payload." ++ name ++ "." ++ key
  | _ => []

def helloUndefined (hello : RecordedFrame) : List String :=
  undefinedKeys (hello.message.getD []) ["type", "payload"] ++
    (undefinedKeys hello.fields (definedHelloFields hello.fields) true).map ("payload." ++ ·) ++
    nestedUndefined hello.fields "device_info" deviceInfoFields ++
    nestedUndefined hello.fields "unpaired_access" ["enabled"]

def checkHelloFields : Check :=
  judgeHello "CORE-HELLO-006" fun hello =>
    if helloUndefined hello ≠ [] then
      (.fail, "client/hello carries undefined fields: " ++ joinWith ", " (helloUndefined hello))
    else (.pass, "client/hello has no undefined fields")

def judgeName (txt : String) (hello : RecordedFrame) : Verdict × String :=
  let name := getKey hello.fields "name"
  if name.eqStr txt then (.pass, "client/hello name matches the TXT name")
  else (.warn, "client/hello name " ++ pyRepr name ++ " differs from TXT name " ++ Python.reprStr txt)

def checkHelloNameMatchesTxt (txtName : Option String) : Check := fun connection =>
  match txtName with
  | none =>
      .ok [finding "CORE-HELLO-007" .notApplicable "the client was not discovered over mDNS with a TXT name"]
  | some txt => judgeHello "CORE-HELLO-007" (judgeName txt) connection

def initialState (connection : ConnectionRecord) : Option RecordedFrame := (connection.inbound "client/state").head?

-- What `for item in value or []` goes over; a number or true cannot be iterated.
def iterated : Json → Py (List Json)
  | .arr items => .ok items
  | .str text => .ok (text.toList.map fun char => .str char.toString)
  | .obj fields => .ok ((dictKeys fields).map .str)
  | value =>
      if value.truthy then .error ⟨"TypeError", "'" ++ value.typeName ++ "' object is not iterable"⟩ else .ok []

-- The server/activate frames _active_roles reads: it stops at one later than `before`.
def readActivations (connection : ConnectionRecord) (before : Option RecordedFrame) : List RecordedFrame :=
  (connection.outbound "server/activate").takeWhile fun activation =>
    match before with
    | some state => activation.id ≤ state.id
    | none => true

def activeRoles (connection : ConnectionRecord) (before : Option RecordedFrame) : Py (List String) :=
  (readActivations connection before).foldlM (fun roles activation =>
    (iterated (getKey activation.fields "active_roles")).map fun active =>
      (roles ++ active.filterMap Json.asStr).dedup) []

def unsentState (connection : ConnectionRecord) (activation : RecordedFrame) (roles : List String) : Finding :=
  match (connection.inbound "client/goodbye").find? fun frame => activation.id < frame.id with
  | some goodbye =>
      finding "CORE-STATE-001" .notApplicable "the client said goodbye before reporting its state" [goodbye]
  | none =>
      if connection.rejected then notReached "CORE-STATE-001"
      else
        finding "CORE-STATE-001" .fail ("no client/state followed activating " ++ joinWith ", " (sorted roles))
          [activation]

def checkInitialStateSent : Check := fun connection =>
  match (connection.outbound "server/activate").head? with
  | none => .ok [finding "CORE-STATE-001" .notApplicable "the validator never activated the client"]
  | some activation =>
      match activeRoles connection (initialState connection) with
      | .error raised => .error raised
      | .ok [] =>
          .ok [finding "CORE-STATE-001" .notApplicable "no roles are active, so no initial client/state is owed"
            [activation]]
      | .ok roles =>
          match initialState connection with
          | some state =>
              .ok [finding "CORE-STATE-001" .pass "the client sent client/state after activation" [activation, state]]
          | none => .ok [unsentState connection activation roles]

def checkStateAvailable : Check := fun connection =>
  let states := connection.inbound "client/state"
  let missing := states.filter fun frame => !(getKey frame.fields "available").isBool
  if states.isEmpty then .ok [finding "CORE-STATE-002" .notApplicable "no client/state was sent"]
  else if missing.isEmpty then
    .ok [finding "CORE-STATE-002" .pass
      ("all " ++ toString states.length ++ " client/state messages carry available") (states.take 1)]
  else .ok [finding "CORE-STATE-002" .fail "client/state without a boolean available" missing]

def inactiveObjects (roles : List String) (state : RecordedFrame) : List String :=
  sorted (stateObjectRoles.filter fun family =>
    !(roles.map (beforeSeparator '@')).contains family && hasKey state.fields family)

def checkStateRoleObjects : Check := fun connection =>
  match initialState connection with
  | none => .ok [finding "CORE-STATE-003" .notApplicable "no client/state was sent"]
  | some state =>
      match activeRoles connection (some state) with
      | .error raised => .error raised
      | .ok roles =>
          if inactiveObjects roles state ≠ [] then
            .ok [finding "CORE-STATE-003" .fail
              ("client/state carries objects for inactive roles: " ++ joinWith ", " (inactiveObjects roles state))
              [state]]
          else .ok [finding "CORE-STATE-003" .pass "client/state carries objects for active roles only" [state]]

def checkTimeInteger : Check := fun connection =>
  let times := connection.inbound "client/time"
  let bad := times.filter fun frame => !(getKey frame.fields "client_transmitted").isInt
  if times.isEmpty then .ok [finding "CORE-TIME-001" .notApplicable "no client/time was sent"]
  else if bad.isEmpty then
    .ok [finding "CORE-TIME-001" .pass ("all " ++ toString times.length ++ " client/time messages carry an integer")
      (times.take 1)]
  else .ok [finding "CORE-TIME-001" .fail "client/time without an integer client_transmitted" bad]

-- CHECKS, with the TXT name bound in CORE-HELLO-007's place as run_checks binds it.
def checks (txtName : Option String) : List (String × Check) :=
  [("CORE-INIT-001", checkOpensWithClientInit),
    ("CORE-INIT-002", checkClientId),
    ("CORE-INIT-003", checkInitVersion),
    ("CORE-INIT-004", checkInitSuite),
    ("CORE-INIT-005", checkInitFields),
    ("CORE-NOISE-001", checkNoiseMessage2),
    ("CORE-ORDER-001", checkNothingBeforeActivation),
    ("CORE-HELLO-001", checkHelloSent),
    ("CORE-HELLO-002", checkHelloSupportObjects),
    ("CORE-HELLO-003", checkHelloRoles),
    ("CORE-HELLO-004", checkHelloPairMethods),
    ("CORE-HELLO-005", checkHelloUnpairedAccess),
    ("CORE-HELLO-006", checkHelloFields),
    ("CORE-HELLO-007", checkHelloNameMatchesTxt txtName),
    ("CORE-STATE-001", checkInitialStateSent),
    ("CORE-STATE-002", checkStateAvailable),
    ("CORE-STATE-003", checkStateRoleObjects),
    ("CORE-TIME-001", checkTimeInteger)]

def failedCheck (checkId : String) (raised : PyError) : Finding :=
  finding checkId .toolError ("the check failed: " ++ raised.type ++ ": " ++ raised.text)

def runCheck (connection : ConnectionRecord) (check : String × Check) : List Finding :=
  match check.2 connection with
  | .ok findings => findings
  | .error raised => [failedCheck check.1 raised]

def runChecks (connection : ConnectionRecord) (txtName : Option String) : List Finding :=
  (checks txtName).flatMap (runCheck connection)

def strictFinding (observation : RecordedNoncompliance) : Finding :=
  let frames := observation.afterFrame.toList
  match specRefFor observation.reason with
  | .error _ =>
      ⟨strictCheckId, .toolError, "-",
        "aiosendspin rejected the client for a reason with no known spec reference: " ++ observation.reason,
        .machine, frames⟩
  | .ok none =>
      ⟨strictCheckId, .toolError, "-",
        "aiosendspin rejected the client for something spec 1.0.0-rc1 does not forbid: " ++ observation.reason,
        .machine, frames⟩
  | .ok (some specRef) =>
      ⟨strictCheckId, .fail, specRef, "aiosendspin rejected the client: " ++ observation.reason, .machine, frames⟩

-- A violation CORE-NOISE-001 already reports is left to it.
def checkNoncompliance (noncompliance : List RecordedNoncompliance) : List Finding :=
  if noncompliance.isEmpty then
    [⟨strictCheckId, .pass, "-", "aiosendspin's strict mode accepted every message", .machine, []⟩]
  else (noncompliance.filter fun observation => observation.reason != noisePayloadReason).map strictFinding

def recorderFinding (error : String) : Finding := ⟨recorderCheckId, .toolError, "-", error, .machine, []⟩

-- observation.connection in {connection, *later_connections}
def judged (connection : Nat) (laterConnections : List Nat) : Option Nat → Bool
  | some number => number == connection || laterConnections.contains number
  | none => false

def judgeSession (frames : List RecordedFrame) (noncompliance : List RecordedNoncompliance)
    (toolErrors : List String) (connection : Nat) (laterConnections : List Nat := [])
    (txtName : Option String := none) : List Finding :=
  runChecks (.ofSession connection frames noncompliance) txtName ++
    checkNoncompliance
      (noncompliance.filter fun observation => judged connection laterConnections observation.connection) ++
    toolErrors.map recorderFinding

end Conformance.Validator
