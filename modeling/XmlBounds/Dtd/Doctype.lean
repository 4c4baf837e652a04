import XmlBounds.Dtd.Subset

/-!
# Splitting a DOCTYPE declaration

A DOCTYPE declaration names the root element and, optionally, an external subset and an internal
one. The internal subset is found by its closing bracket; brackets in comments and literals do not
close it.
-/

namespace XmlBounds.Dtd

/-- The parts of a DOCTYPE declaration. -/
structure Doctype where
  root : String
  publicId : Option String
  systemId : Option String
  /-- The text between the brackets. -/
  subset : Option String
  deriving DecidableEq, Repr

def Doctype.startEvent (d : Doctype) : Event := .startDtd d.root d.publicId d.systemId

/-- Where a search for the end of an internal subset stands. -/
inductive SubsetState where
  | plain
  | comment
  | literal (quote : Char)
  deriving DecidableEq, Repr

/-- How many characters stand before the bracket that closes an internal subset, counted from
`n`. -/
def subsetEndFrom? : SubsetState → (n : Nat) → List Char → Option Nat
  | .comment, n, '-' :: '-' :: '>' :: rest => subsetEndFrom? .plain (n + 3) rest
  | .plain, n, '<' :: '!' :: '-' :: '-' :: rest => subsetEndFrom? .comment (n + 4) rest
  | .plain, n, ']' :: _ => some n
  | .plain, n, c :: rest =>
      subsetEndFrom? (if c = '"' ∨ c = '\'' then .literal c else .plain) (n + 1) rest
  | .literal q, n, c :: rest =>
      subsetEndFrom? (if c = q then .plain else .literal q) (n + 1) rest
  | .comment, n, _ :: rest => subsetEndFrom? .comment (n + 1) rest
  | _, _, [] => none

namespace Scan

/-- The text up to the bracket that closes the internal subset, and the bracket; gives the text. -/
def subset : Scan String := do
  match subsetEndFrom? .plain 0 (← rest) with
  | none => fail .unterminatedSubset
  | some n =>
      let passed ← take n
      let _ ← take 1
      return String.ofList passed

/-- Whether the text goes on with a token. -/
def at? (token : String) : Scan Bool := do return token.toList.isPrefixOf (← rest)

/-- The identifiers of an external subset, if there are any. -/
def externalSubset : Scan (Option String × Option String) := do
  if (← at? "SYSTEM") || (← at? "PUBLIC") then
    let ids ← externalId false
    let _ ← space
    return ids
  else return (none, none)

/-- The internal subset, if there is one. -/
def internalSubset : Scan (Option String) := do
  if ← eat "[" then
    let text ← subset
    let _ ← space
    return some text
  else return none

/-- The parts of a DOCTYPE declaration, up to the end of the text. -/
def doctype : Scan Doctype := do
  let _ ← space
  let root ← name
  let _ ← space
  let (publicId, systemId) ← externalSubset
  let subset ← internalSubset
  if (← rest) = [] then return { root, publicId, systemId, subset }
  else fail .unexpectedAfterDoctype

end Scan

/-- The text without the keyword `DOCTYPE`, in any case, if it begins with it. -/
def dropKeyword (s : List Char) : List Char :=
  if (s.take 7).map Char.toUpper = "DOCTYPE".toList then s.drop 7 else s

/-- Splits what stands between `<!DOCTYPE` and the closing `>`. Blanks and a keyword in front do
not count. -/
def Doctype.split (content : String) : Except Fault Doctype :=
  (Scan.doctype.run (.start (dropKeyword (Text.trimStart content.toList)))).map (·.1)

end XmlBounds.Dtd
