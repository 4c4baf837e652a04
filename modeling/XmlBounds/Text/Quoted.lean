import XmlBounds.Text.Unprintable

/-!
# Quoted text

The form in which messages show a piece of text: in double quotes, with the quote, the backslash
and the common controls behind a backslash and every other unprintable character by its number.
-/

namespace XmlBounds.Text

/-- The characters that stand for one character inside quotes. -/
def escape (c : Char) : List Char :=
  match c with
  | '"' => ['\\', '"']
  | '\\' => ['\\', '\\']
  | '\n' => ['\\', 'n']
  | '\r' => ['\\', 'r']
  | '\t' => ['\\', 't']
  | '\x00' => ['\\', '0']
  | _ =>
      if isUnprintable c then ['\\', 'u', '\x7b'] ++ Nat.toDigits 16 c.toNat ++ ['\x7d']
      else [c]

/-- The characters between double quotes. -/
def quoteChars (s : List Char) : List Char := '"' :: s.flatMap escape ++ ['"']

/-- The text between double quotes. -/
def quoted (s : String) : String := String.ofList (quoteChars s.toList)

/-- A text that may be absent: `Some` of the quoted text, or `None`. -/
def quotedOption : Option String → String
  | some s => s!"Some({quoted s})"
  | none => "None"

end XmlBounds.Text
