import SendspinConformance.Python.Text

set_option autoImplicit false

namespace Conformance.Python

-- The low `width` bits of a number, the highest first.
def bitsOf : Nat → Nat → List Bool
  | 0, _ => []
  | width + 1, value => value.testBit width :: bitsOf width value

def ofBits (bits : List Bool) : Nat := bits.foldl (fun value bit => 2 * value + bit.toNat) 0

-- The first `count` groups of `width` bits each; zeros fill a group the bits do not.
def groupsOf (width : Nat) : Nat → List Bool → List Nat
  | 0, _ => []
  | count + 1, bits =>
      ofBits ((bits ++ List.replicate width false).take width) :: groupsOf width count (bits.drop width)

def base32Alphabet : List Char := "ABCDEFGHIJKLMNOPQRSTUVWXYZ234567".toList

def base64Alphabet : List Char := "ABCDEFGHIJKLMNOPQRSTUVWXYZabcdefghijklmnopqrstuvwxyz0123456789-_".toList

-- The data in groups of `width` bits, each written as a letter of the alphabet.
def encodeLetters (alphabet : List Char) (width : Nat) (data : List UInt8) : String :=
  let bits := data.flatMap fun byte => bitsOf 8 byte.toNat
  String.ofList ((groupsOf width ((bits.length + width - 1) / width) bits).filterMap (alphabet[·]?))

-- base64.b32encode(data).decode("ascii").rstrip("=")
def b32encode (data : List UInt8) : String := encodeLetters base32Alphabet 5 data

-- b64url_encode(data)
def b64urlEncode (data : List UInt8) : String := encodeLetters base64Alphabet 6 data

-- base64.b32decode(text) of an ASCII text; none where it raises binascii.Error.
def b32decode (text : String) : Option (List UInt8) := do
  let letters := (text.toList.reverse.dropWhile (· == '=')).reverse
  let padding := text.length - letters.length
  let values ← letters.mapM (base32Alphabet.idxOf? ·)
  let bits := values.flatMap (bitsOf 5)
  if text.length % 8 == 0 && [0, 1, 3, 4, 6].contains padding then
    some ((groupsOf 8 (bits.length / 8) bits).map UInt8.ofNat)
  else none

end Conformance.Python
