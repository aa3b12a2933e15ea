import Mathlib.Data.List.Infix
import SendspinConformance.Python.Json

set_option autoImplicit false

namespace Conformance.Python

-- The part of the Unicode database str.isprintable, str.upper, \w and \d read beyond ASCII.
class UnicodeData where
  isPrintable : Char → Bool
  upper : Char → List Char
  isAlnum : Char → Bool
  decimal : Char → Option Nat

-- Serves a run whose text is all ASCII.
abbrev noUnicode : UnicodeData := ⟨fun _ => true, fun char => [char], fun _ => false, fun _ => none⟩

-- ", ".join(parts)
def joinWith (separator : String) : List String → String
  | [] => ""
  | [part] => part
  | part :: rest => part ++ separator ++ joinWith separator rest

def hexDigit (value : Nat) : Char :=
  if value < 10 then Char.ofNat (48 + value) else Char.ofNat (87 + value)

-- The low `width` hexadecimal digits of a number, in lower case.
def hexDigits : Nat → Nat → List Char
  | 0, _ => []
  | width + 1, value => hexDigits width (value / 16) ++ [hexDigit (value % 16)]

def isAscii (char : Char) : Bool := char.toNat < 128

def isPrintable [UnicodeData] (char : Char) : Bool :=
  if isAscii char then 32 ≤ char.toNat && char.toNat < 127 else UnicodeData.isPrintable char

def upperChar [UnicodeData] (char : Char) : List Char :=
  if isAscii char then [char.toUpper] else UnicodeData.upper char

-- The value of a character \d matches.
def decimalOf [UnicodeData] (char : Char) : Option Nat :=
  if isAscii char then (if char.isDigit then some (char.toNat - 48) else none) else UnicodeData.decimal char

-- str.upper()
def upper [UnicodeData] (text : String) : String := String.ofList (text.toList.flatMap upperChar)

-- The characters str.strip() removes and \s matches.
def isSpace (char : Char) : Bool :=
  [9, 10, 11, 12, 13, 28, 29, 30, 31, 32, 133, 160, 5760, 8232, 8233, 8239, 8287, 12288].contains char.toNat ||
    (8192 ≤ char.toNat && char.toNat ≤ 8202)

-- str.strip()
def strip (text : String) : String :=
  String.ofList ((text.toList.dropWhile isSpace).reverse.dropWhile isSpace).reverse

-- text.partition(separator)[0]
def beforeSeparator (separator : Char) (text : String) : String :=
  String.ofList (text.toList.takeWhile (· != separator))

-- text.partition(separator)[2]
def afterSeparator (separator : Char) (text : String) : String :=
  String.ofList ((text.toList.dropWhile (· != separator)).drop 1)

def hasPrefix (start text : String) : Bool := start.toList.isPrefixOf text.toList

def hasSuffix (ending text : String) : Bool := ending.toList.isSuffixOf text.toList

-- text.removesuffix(ending)
def removeSuffix (ending text : String) : String :=
  if hasSuffix ending text then String.ofList (text.toList.take (text.toList.length - ending.toList.length)) else text

-- `part in text`
def contains (part text : String) : Bool := text.toList.tails.any fun rest => part.toList.isPrefixOf rest

theorem has_prefix_iff (start text : String) : hasPrefix start text = true ↔ start.toList <+: text.toList := by
  simp [hasPrefix]

theorem has_prefix_append (start rest : String) : hasPrefix start (start ++ rest) = true := by
  rw [has_prefix_iff, String.toList_append]
  exact List.prefix_append _ _

def reprEscape [UnicodeData] (quote char : Char) : List Char :=
  if char == quote || char == '\\' then ['\\', char]
  else if char == '\t' then ['\\', 't']
  else if char == '\n' then ['\\', 'n']
  else if char == '\r' then ['\\', 'r']
  else if isPrintable char then [char]
  else if char.toNat < 256 then ['\\', 'x'] ++ hexDigits 2 char.toNat
  else if char.toNat < 65536 then ['\\', 'u'] ++ hexDigits 4 char.toNat
  else ['\\', 'U'] ++ hexDigits 8 char.toNat

-- repr(text): single quotes unless the text holds one and no double quote.
def reprStr [UnicodeData] (text : String) : String :=
  let quote := if text.toList.contains '\'' && !text.toList.contains '"' then '"' else '\''
  String.ofList ([quote] ++ text.toList.flatMap (reprEscape quote) ++ [quote])

-- repr(value)
mutual
def pyRepr [UnicodeData] : Json → String
  | .null => "None"
  | .bool value => if value then "True" else "False"
  | .int value => toString value
  | .float value => value.text
  | .str text => reprStr text
  | .arr items => "[" ++ joinWith ", " (reprItems items) ++ "]"
  | .obj fields => "\x7b" ++ joinWith ", " (reprFields fields) ++ "\x7d"
def reprItems [UnicodeData] : List Json → List String
  | [] => []
  | item :: rest => pyRepr item :: reprItems rest
def reprFields [UnicodeData] : Fields → List String
  | [] => []
  | (key, value) :: rest => (reprStr key ++ ": " ++ pyRepr value) :: reprFields rest
end

-- str(value)
def pyStr [UnicodeData] : Json → String
  | .str text => text
  | value => pyRepr value

-- What json.dumps writes for one character of a string, escaping everything but
-- printable ASCII; a character beyond the basic plane becomes a surrogate pair.
def jsonEscape (char : Char) : List Char :=
  if char == '"' || char == '\\' then ['\\', char]
  else if char == '\n' then ['\\', 'n']
  else if char == '\r' then ['\\', 'r']
  else if char == '\t' then ['\\', 't']
  else if char.toNat == 8 then ['\\', 'b']
  else if char.toNat == 12 then ['\\', 'f']
  else if 32 ≤ char.toNat && char.toNat < 127 then [char]
  else if char.toNat < 65536 then ['\\', 'u'] ++ hexDigits 4 char.toNat
  else
    ['\\', 'u'] ++ hexDigits 4 (55296 + (char.toNat - 65536) / 1024) ++
      ['\\', 'u'] ++ hexDigits 4 (56320 + (char.toNat - 65536) % 1024)

def jsonString (text : String) : String := String.ofList (['"'] ++ text.toList.flatMap jsonEscape ++ ['"'])

def dumpsFloat : PyFloat → String
  | ⟨.finite _, text⟩ => text
  | ⟨.posInf, _⟩ => "Infinity"
  | ⟨.negInf, _⟩ => "-Infinity"
  | ⟨.nan, _⟩ => "NaN"

-- json.dumps(value)
mutual
def dumps : Json → String
  | .null => "null"
  | .bool value => if value then "true" else "false"
  | .int value => toString value
  | .float value => dumpsFloat value
  | .str text => jsonString text
  | .arr items => "[" ++ joinWith ", " (dumpsItems items) ++ "]"
  | .obj fields => "\x7b" ++ joinWith ", " (dumpsFields fields) ++ "\x7d"
def dumpsItems : List Json → List String
  | [] => []
  | item :: rest => dumps item :: dumpsItems rest
def dumpsFields : Fields → List String
  | [] => []
  | (key, value) :: rest => (jsonString key ++ ": " ++ dumps value) :: dumpsFields rest
end

-- json.dumps(value, sort_keys=True)
mutual
def dumpsSorted : Json → String
  | .null => "null"
  | .bool value => if value then "true" else "false"
  | .int value => toString value
  | .float value => dumpsFloat value
  | .str text => jsonString text
  | .arr items => "[" ++ joinWith ", " (dumpsSortedItems items) ++ "]"
  | .obj fields =>
      "\x7b" ++ joinWith ", " (((dumpsSortedFields fields).insertionSort fun first second => first.1 ≤ second.1).map
        fun entry => jsonString entry.1 ++ ": " ++ entry.2) ++ "\x7d"
def dumpsSortedItems : List Json → List String
  | [] => []
  | item :: rest => dumpsSorted item :: dumpsSortedItems rest
def dumpsSortedFields : Fields → List (String × String)
  | [] => []
  | (key, value) :: rest => (key, dumpsSorted value) :: dumpsSortedFields rest
end

-- sorted(texts)
def sorted (texts : List String) : List String := texts.insertionSort (· ≤ ·)

end Conformance.Python
