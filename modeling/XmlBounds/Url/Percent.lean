import XmlBounds.Text.Blank
import XmlBounds.Text.Bytes
import XmlBounds.Text.Integer

/-!
# Percent encoding

A byte is written as a percent sign and two capital hexadecimal digits, a character as its UTF-8
bytes. The sets name the ASCII characters to encode; controls and everything past ASCII are always
encoded.
-/

namespace XmlBounds.Url

/-- Encoded in a fragment. -/
def inFragment : List Char := [' ', '"', '<', '>', '\x60']

def inQuery : List Char := [' ', '"', '#', '<', '>']

/-- Encoded in the query of a special scheme. -/
def inSpecialQuery : List Char := inQuery ++ ['\'']

def inPath : List Char := inFragment ++ ['#', '?', '\x7b', '\x7d']

def inCredentials : List Char :=
  inPath ++ ['/', ':', ';', '=', '@', '[', '\\', ']', '^', '|']

/-- Encoded in a path segment made from a file name. -/
def inFileName : List Char := inPath ++ ['/', '%', '\\']

def hexDigit (n : Nat) : Char := (Nat.digitChar n).toUpper

/-- The characters that stand for a byte. -/
def encodeByte (set : List Char) (b : UInt8) : List Char :=
  let c := Char.ofUInt8 b
  if b < 0x20 ∨ 0x7F ≤ b ∨ c ∈ set then
    ['%', hexDigit (b.toNat / 16), hexDigit (b.toNat % 16)]
  else [c]

/-- The bytes as text, those of a set encoded. -/
def encodeBytes (set : List Char) (s : List UInt8) : String :=
  String.ofList (s.flatMap (encodeByte set))

/-- The text with the characters of a set encoded. -/
def percentEncode (set : List Char) (s : List Char) : String :=
  encodeBytes set (Text.bytes (String.ofList s))

/-- The bytes with each encoded byte decoded; a percent sign without two digits stays. -/
def percentDecode : List UInt8 → List UInt8
  | 0x25 :: high :: low :: rest =>
      match Text.digit? 16 (Char.ofUInt8 high), Text.digit? 16 (Char.ofUInt8 low) with
      | some h, some l => UInt8.ofNat (16 * h + l) :: percentDecode rest
      | _, _ => 0x25 :: percentDecode (high :: low :: rest)
  | b :: rest => b :: percentDecode rest
  | [] => []

end XmlBounds.Url
