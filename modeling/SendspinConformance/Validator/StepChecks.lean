import SendspinConformance.Validator.CodePairingChecks
import SendspinConformance.Validator.Prompts

set_option autoImplicit false

namespace Conformance.Validator

open Python

-- A key of STEP_CHECKS.
inductive Step where
  | u1
  | u2
  | u3
  | u4
  | p1
  | p2Qr
  | p2
  | p3
  | p4Cancel
  | p4Timeout
  | p3Lockout
  | r1
  | r3
  | r4
  | r5
deriving DecidableEq, Repr

def Step.value : Step → String
  | .u1 => "U1"
  | .u2 => "U2"
  | .u3 => "U3"
  | .u4 => "U4"
  | .p1 => "P1"
  | .p2Qr => "P2 QR"
  | .p2 => "P2"
  | .p3 => "P3"
  | .p4Cancel => "P4 cancel"
  | .p4Timeout => "P4 timeout"
  | .p3Lockout => "P3 lockout"
  | .r1 => "R1"
  | .r3 => "R3"
  | .r4 => "R4"
  | .r5 => "R5"

-- DYNAMIC, DYNAMIC_QR, STATIC, CONTROL
def dynamicName : String := "PAIR-DYN"

def dynamicQrName : String := "PAIR-DYN-QR"

def staticName : String := "PAIR-STATIC"

def controlName : String := "PAIR-CTL"

def numbered (name : String) (numbers : List String) : List String := numbers.map fun number => name ++ "-" ++ number

-- STEP_CHECKS
def Step.checks : Step → List String
  | .u1 => ["UNPAIRED-001"]
  | .u2 => ["UNPAIRED-002"]
  | .u3 => ["UNPAIRED-003"]
  | .u4 => ["UNPAIRED-004"]
  | .p1 => numbered "PAIR-PSK" ["001", "002", "003", "004", "005", "006", "007"]
  | .p2Qr => numbered dynamicQrName ["001", "002", "003", "004", "005", "006", "007", "008", "009"]
  | .p2 =>
      numbered dynamicName ["001", "002", "003", "004", "005", "006", "007", "008", "009", "010", "011", "012"]
  | .p3 => numbered staticName ["001", "002", "003", "004", "005", "006", "007", "008"]
  | .p4Cancel => numbered controlName ["001"]
  | .p4Timeout => numbered controlName ["002"]
  | .p3Lockout => numbered staticName ["009", "010"]
  | .r1 => ["POSTPAIR-001"]
  | .r3 => ["POSTPAIR-002"]
  | .r4 => ["POSTPAIR-003", "POSTPAIR-004"]
  | .r5 => ["POSTPAIR-005", "POSTPAIR-006"]

-- step in code_pairing.STEP_CHECKS
def Step.codePaired (step : Step) : Bool := [Step.p2Qr, .p2, .p3, .p4Cancel, .p4Timeout, .p3Lockout].contains step

namespace Suite

-- suite_checks.not_run(check_ids, verdict, message)
def notRun (checkIds : List String) (verdict : Verdict) (message : String) : List Finding :=
  checkIds.map fun checkId => finding checkId verdict message

variable [UnicodeData]

def checkPairingToken (token : String) (clientId : Option String) : List Finding :=
  match decodePskToken token with
  | .error raised =>
      [finding "PAIR-PSK-001" .fail ("the pairing token does not decode: " ++ raised.text),
        notApplicable "PAIR-PSK-002" "no decoded token to compare"]
  | .ok decoded =>
      let decodes := finding "PAIR-PSK-001" .pass "the pairing token decodes as version 0"
      match clientId with
      | none => [decodes, notApplicable "PAIR-PSK-002" "the client sent no client_id"]
      | some connected =>
          if decoded.clientId ≠ connected then
            [decodes, finding "PAIR-PSK-002" .fail ("the token's client_key is " ++ decoded.clientId ++
              ", not the connected client_id " ++ connected)]
          else [decodes, finding "PAIR-PSK-002" .pass "the token's client_key is the connected client_id"]

end Suite

namespace CodePairing

-- code_pairing_checks.not_run(check_ids, verdict, message)
def notRun (checkIds : List String) (verdict : Verdict) (message : String) : List Finding :=
  checkIds.map fun checkId => finding checkId verdict message

-- code_pairing_checks.not_applicable(check_ids, message)
def allNotApplicable (checkIds : List String) (message : String) : List Finding :=
  notRun checkIds .notApplicable message

-- A finding resting on an answer the user gave.
def human (checkId : String) (verdict : Verdict) (message : String) : Finding :=
  { finding checkId verdict message with evidence := .human }

variable [UnicodeData]

def checkQrToken (text : String) : List Finding :=
  match decodePairingCodeToken text with
  | .error raised => [finding "PAIR-DYN-QR-009" .fail ("the QR text is not a pairing token: " ++ raised.text)]
  | .ok code =>
      if strip text ≠ encodePairingCodeToken code then
        [finding "PAIR-DYN-QR-009" .fail ("the QR text decodes, but is not the exact token the spec builds: it " ++
          "differs in its prefix, case, transliteration or length")]
      else [finding "PAIR-DYN-QR-009" .pass "the QR text is a version-1 pairing token"]

-- re.fullmatch(rf"\d{half}-\d{half}", text)
def isGrouped (half : Nat) (text : String) : Bool :=
  let chars := text.toList
  chars.length == 2 * half + 1 && (chars.take half).all (fun char => (decimalOf char).isSome) &&
    chars[half]? == some '-' && (chars.drop (half + 1)).all fun char => (decimalOf char).isSome

-- re.sub(r"\d", "#", text)
def shapeOf (text : String) : String :=
  String.ofList (text.toList.map fun char => if (decimalOf char).isSome then '#' else char)

def checkPresentation (checkId typed : String) (digits : Nat) : List Finding :=
  let half := digits / 2
  let hashes := String.ofList (List.replicate half '#')
  if isGrouped half (strip typed) then [human checkId .pass "the code was shown grouped with a hyphen"]
  else
    [human checkId .warn ("the code was shown as " ++ Python.reprStr (shapeOf (strip typed)) ++ ", not grouped as " ++
      Python.reprStr (hashes ++ "-" ++ hashes))]

end CodePairing

end Conformance.Validator
