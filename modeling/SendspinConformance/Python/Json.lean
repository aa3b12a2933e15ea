import Mathlib.Data.List.Sort

set_option autoImplicit false

namespace Conformance.Python

inductive FloatValue where
  | finite (value : Rat)
  | posInf
  | negInf
  | nan
deriving DecidableEq, Repr

-- A float is its exact value, which comparisons read, and the digits
-- float.__repr__ prints for it, which messages quote.
structure PyFloat where
  value : FloatValue
  text : String
deriving DecidableEq, Repr

-- What json.loads returns. An object keeps the order its keys arrived in.
inductive Json where
  | null
  | bool (value : Bool)
  | int (value : Int)
  | float (value : PyFloat)
  | str (text : String)
  | arr (items : List Json)
  | obj (fields : List (String × Json))
deriving Repr

abbrev Fields := List (String × Json)

-- dict.get(key): a missing key and a null value both read as None.
def getKey (fields : Fields) (key : String) : Json := (fields.lookup key).getD .null

def dictKeys (fields : Fields) : List String := fields.map Prod.fst

def hasKey (fields : Fields) (key : String) : Bool := (dictKeys fields).contains key

namespace Json

def isNull : Json → Bool
  | .null => true
  | _ => false

def isObj : Json → Bool
  | .obj _ => true
  | _ => false

def isStr : Json → Bool
  | .str _ => true
  | _ => false

def isBool : Json → Bool
  | .bool _ => true
  | _ => false

-- `value is True`
def isTrue : Json → Bool
  | .bool true => true
  | _ => false

-- isinstance(value, int) and not isinstance(value, bool)
def isInt : Json → Bool
  | .int _ => true
  | _ => false

def asInt : Json → Option Int
  | .int value => some value
  | _ => none

def asStr : Json → Option String
  | .str text => some text
  | _ => none

def asObj : Json → Option Fields
  | .obj fields => some fields
  | _ => none

-- `value == text` for a str
def eqStr (text : String) : Json → Bool
  | .str other => other == text
  | _ => false

-- `value == number` for an int: a bool counts as 0 or 1, and a float by its exact value.
def eqInt (number : Int) : Json → Bool
  | .bool value => (if value then 1 else 0) == number
  | .int value => value == number
  | .float ⟨.finite value, _⟩ => value == (number : Rat)
  | _ => false

-- bool(value)
def truthy : Json → Bool
  | .null => false
  | .bool value => value
  | .int value => value != 0
  | .float ⟨value, _⟩ => value != .finite 0
  | .str text => text != ""
  | .arr items => !items.isEmpty
  | .obj fields => !fields.isEmpty

-- type(value).__name__
def typeName : Json → String
  | .null => "NoneType"
  | .bool _ => "bool"
  | .int _ => "int"
  | .float _ => "float"
  | .str _ => "str"
  | .arr _ => "list"
  | .obj _ => "dict"

theorem as_int_some (value : Json) (number : Int) : value.asInt = some number ↔ value = .int number := by
  cases value <;> simp [asInt]

theorem as_str_some (value : Json) (text : String) : value.asStr = some text ↔ value = .str text := by
  cases value <;> simp [asStr]

theorem as_obj_some (value : Json) (fields : Fields) : value.asObj = some fields ↔ value = .obj fields := by
  cases value <;> simp [asObj]

theorem is_int_iff (value : Json) : value.isInt = true ↔ ∃ number, value = .int number := by
  cases value <;> simp [isInt]

theorem is_true_iff (value : Json) : value.isTrue = true ↔ value = .bool true := by
  cases value with
  | bool value => cases value <;> simp [isTrue]
  | _ => simp [isTrue]

theorem eq_str_iff (text : String) (value : Json) : value.eqStr text = true ↔ value = .str text := by
  cases value <;> simp [eqStr]

theorem eq_int_of_int (number value : Int) : (Json.int value).eqInt number = true ↔ value = number := by
  simp [eqInt]

end Json

theorem get_key_absent (fields : Fields) (key : String) (absent : hasKey fields key = false) :
    getKey fields key = .null := by
  have missing : fields.lookup key = none := by
    rw [List.lookup_eq_none_iff]
    intro entry member
    simp only [hasKey, dictKeys, List.contains_eq_mem, List.mem_map, decide_eq_false_iff_not] at absent
    rw [bne_iff_ne]
    intro same
    exact absent ⟨entry, member, same.symm⟩
  rw [getKey, missing]
  rfl

-- An exception: the name of its type and its text.
structure PyError where
  type : String
  text : String
deriving DecidableEq, Repr

abbrev Py (α : Type) := Except PyError α

namespace Py

def raised {α : Type} : Py α → Bool
  | .ok _ => false
  | .error _ => true

-- any(holds(x) for x in items), which stops at the first true one
def anyOf {α : Type} (holds : α → Py Bool) : List α → Py Bool
  | [] => .ok false
  | head :: tail =>
      match holds head with
      | .error raised => .error raised
      | .ok true => .ok true
      | .ok false => anyOf holds tail

-- next((x for x in items if holds(x)), None)
def find {α : Type} (holds : α → Py Bool) : List α → Py (Option α)
  | [] => .ok none
  | head :: tail =>
      match holds head with
      | .error raised => .error raised
      | .ok true => .ok (some head)
      | .ok false => find holds tail

end Py

end Conformance.Python
