import SendspinConformance.Harness.Matrix
import SendspinConformance.Harness.Merge

set_option autoImplicit false

namespace Conformance.Comparison

open Base Python Harness Conformance.Matrix

inductive VerificationMode where
  | audioPcm
  | audioEncodedBytes
  | metadata
  | controller
  | artwork
  | formatPreference
  | protocol
  | audioChunkFraming
deriving DecidableEq, Repr

-- What the comparison reads of a scenario beside the rest of it.
structure Verification where
  verificationMode : VerificationMode
  verifiesFormatPriority : Bool := false
  verifiesStreamBitDepth : Option Int := none
  protocolAssertions : List String := []

structure VerifiedScenario extends ScenarioSpec, Verification

-- hashlib.sha256(data).hexdigest()
class Digests where
  sha256 : List UInt8 → String

-- sorted(values) of a set whose values are not all texts, which the order of the set decides
class SetOrder where
  sorted : List Json → Py (List Json)
  kept (values listed : List Json) : sorted values = .ok listed → listed.Perm values

-- What the harness is given by the Python that runs it.
class Host extends UnicodeData, CaseFolding, Digests, SetOrder

-- Serves a run whose text is all ASCII, which has nothing to hash and no set of other values than texts to sort.
abbrev plainHost : Host :=
  { noUnicode, noFolding with
    sha256 := fun _ => ""
    sorted := fun _ => .error ⟨"TypeError", "'<' not supported between instances"⟩
    kept := fun _ _ impossible => by cases impossible }

-- value[key]
def item (fields : Fields) (key : String) : Py Json :=
  match fields.lookup key with
  | some value => .ok value
  | none => .error ⟨"KeyError", "'" ++ key ++ "'"⟩

-- summary.get(key, {})
def sectionOf (summary : Fields) (key : String) : Json := (summary.lookup key).getD (.obj [])

section

variable [UnicodeData]

def digitsOf : List Char → Option (List Nat)
  | [] => none
  | [char] => (decimalOf char).map ([·])
  | char :: '_' :: rest => do some ((← decimalOf char) :: (← digitsOf rest))
  | char :: rest => do some ((← decimalOf char) :: (← digitsOf rest))

-- int(text), which takes at most 4300 digits
def intOfText (text : String) : Py Int :=
  let (negative, rest) := match (strip text).toList with
    | '-' :: rest => (true, rest)
    | '+' :: rest => (false, rest)
    | rest => (false, rest)
  match digitsOf rest with
  | none => .error ⟨"ValueError", "invalid literal for int() with base 10: " ++ Python.reprStr text⟩
  | some digits =>
      if 4300 < digits.length then
        .error ⟨"ValueError", "Exceeds the limit (4300 digits) for integer string conversion: value has " ++
          toString digits.length ++ " digits; use sys.set_int_max_str_digits() to increase the limit"⟩
      else
        let number : Int := digits.foldl (fun number digit => 10 * number + digit) 0
        .ok (if negative then -number else number)

-- int(value)
def intOf : Json → Py Int
  | .bool value => .ok (if value then 1 else 0)
  | .int value => .ok value
  | .float ⟨.finite value, _⟩ => .ok (if value < 0 then -(-value).floor else value.floor)
  | .float ⟨.nan, _⟩ => .error ⟨"ValueError", "cannot convert float NaN to integer"⟩
  | .float _ => .error ⟨"OverflowError", "cannot convert float infinity to integer"⟩
  | .str text => intOfText text
  | value => .error ⟨"TypeError",
      "int() argument must be a string, a bytes-like object or a real number, not '" ++ value.typeName ++ "'"⟩

-- int(value or 0)
def countIn (value : Json) : Py Int := if value.truthy then intOf value else .ok 0

def statusFailure (serverSummary clientSummary : Fields) : Option String :=
  if !(getKey serverSummary "status").eqStr "ok" then
    some ("Server summary status is " ++ pyRepr (getKey serverSummary "status"))
  else if !(getKey clientSummary "status").eqStr "ok" then
    some ("Client summary status is " ++ pyRepr (getKey clientSummary "status"))
  else none

-- A comparison that starts with the two statuses
def afterStatuses (serverSummary clientSummary : Fields) (comparison : Py (Bool × String)) : Py (Bool × String) :=
  match statusFailure serverSummary clientSummary with
  | some failure => .ok (false, failure)
  | none => comparison

end

end Conformance.Comparison
