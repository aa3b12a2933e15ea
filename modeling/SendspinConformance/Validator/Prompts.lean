import SendspinConformance.Python.Codecs
import SendspinConformance.Validator.Recorder

set_option autoImplicit false

namespace Conformance.Validator

open Python

def valueError (text : String) : PyError := ⟨"ValueError", text⟩

def malformedToken : PyError := valueError "malformed pairing token"

def unsupportedVersion : PyError := valueError "unsupported pairing token version"

def tokenPrefix : String := "SP:"

def pskTokenVersion : Char := '0'

def pairingCodeTokenVersion : Char := '1'

def x25519KeySize : Nat := 32

def pskSize : Nat := 32

def qrCodeSize : Nat := 24

def dynamicDigits : Nat := 6

def staticDigits : Nat := 8

def isAsciiText (text : String) : Bool := text.toList.all isAscii

-- text.replace(old, new) for single characters
def replaceChar (old new : Char) (text : String) : String :=
  String.ofList (text.toList.map fun char => if char == old then new else char)

def removePrefix (start text : String) : String :=
  if hasPrefix start text then String.ofList (text.toList.drop start.toList.length) else text

def stripSeparators (code : String) : String := String.ofList (code.toList.filter fun char => char != ' ' && char != '-')

-- len(code) == digits and code.isascii() and code.isdigit(), for a positive `digits`
def isCode (digits : Nat) (code : String) : Bool := code.length == digits && code.toList.all Char.isDigit

def formatPairingCode (code : String) : Py String :=
  if isCode dynamicDigits code || isCode staticDigits code then
    let half := code.length / 2
    .ok (String.ofList (code.toList.take half) ++ "-" ++ String.ofList (code.toList.drop half))
  else .error (valueError "pairing code must be 6 or 8 ASCII digits")

variable [UnicodeData]

-- pairing_token._encode(version, payload)
def encodeToken (version : Char) (payload : List UInt8) : String :=
  tokenPrefix ++ String.singleton version ++ replaceChar '2' '9' (b32encode payload)

-- pairing_token._decode(value, expect_version=version)
def decodeToken (version : Char) (value : String) : Py (List UInt8) :=
  let text := strip value
  if !isAsciiText text then .error malformedToken
  else
    match (removePrefix tokenPrefix (upper text)).toList with
    | [] => .error malformedToken
    | first :: body =>
        if first != version then .error unsupportedVersion
        else
          let pad := (8 - body.length % 8) % 8
          match b32decode (replaceChar '9' '2' (String.ofList (body ++ List.replicate pad '='))) with
          | some payload => .ok payload
          | none => .error malformedToken

-- A decoded token of version 0.
structure PSKPairingToken where
  clientId : String
  pairingPsk : List UInt8

def decodePskToken (value : String) : Py PSKPairingToken := do
  let payload ← decodeToken pskTokenVersion value
  if payload.length < x25519KeySize + pskSize then .error malformedToken
  else .ok ⟨b64urlEncode (payload.take x25519KeySize), (payload.drop x25519KeySize).take pskSize⟩

def decodePairingCodeToken (value : String) : Py (List UInt8) := do
  let payload ← decodeToken pairingCodeTokenVersion value
  if payload.length < qrCodeSize then .error malformedToken else .ok (payload.take qrCodeSize)

-- encode_pairing_code_token(code), for a code of the right size
def encodePairingCodeToken (code : List UInt8) : String := encodeToken pairingCodeTokenVersion code

-- CodePairing._register(secret)
def register (recorder : Recorder) (secret : String) : Recorder :=
  addSecret (addSecret recorder secret) (upper secret)

-- One answer to CodePairing.ask_code: what it returns, or none where it asks again.
def askCode (digits : Nat) (recorder : Recorder) (answer : String) : Recorder × Py (Option String) :=
  let typed := strip answer
  let code := stripSeparators typed
  let asTyped := register recorder typed
  if isCode digits code then
    match formatPairingCode code with
    | .ok grouped => (register (register asTyped code) grouped, .ok (some typed))
    | .error raised => (register asTyped code, .error raised)
  else (asTyped, .ok none)

-- An answer to CodePairing.ask_token, which returns any text.
def askToken (recorder : Recorder) (answer : String) : Recorder × String :=
  let token := strip answer
  let pasted := register recorder token
  match decodePairingCodeToken token with
  | .ok code =>
      let canonical := encodePairingCodeToken code
      (register (register pasted canonical) (removePrefix tokenPrefix canonical), token)
  | .error _ => (pasted, token)

-- One answer to SuiteRunner._ask_token: what it returns, or none where it asks again.
def askPairingToken (recorder : Recorder) (answer : String) : Recorder × Option String :=
  let token := strip answer
  let pasted := addSecret recorder token
  match decodePskToken token with
  | .ok decoded => (addSecret pasted (b64urlEncode decoded.pairingPsk), some token)
  | .error _ => (pasted, none)

-- A line the operator enters, by the prompt that reads it.
inductive Entry where
  | code (digits : Nat) (line : String)
  | codeToken (line : String)
  | pairingToken (line : String)

def enter (recorder : Recorder) : Entry → Recorder
  | .code digits line => (askCode digits recorder line).1
  | .codeToken line => (askToken recorder line).1
  | .pairingToken line => (askPairingToken recorder line).1

def entered (recorder : Recorder) (entries : List Entry) : Recorder := entries.foldl enter recorder

end Conformance.Validator
