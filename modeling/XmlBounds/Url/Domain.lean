import XmlBounds.Unicode.NormalForm
import XmlBounds.Url.DomainLabel
import XmlBounds.Url.DomainMapping
import XmlBounds.Url.Punycode

/-!
# Domain names

A domain is made of labels parted by dots. Its ASCII form has small letters; a label with other
characters is written in Punycode behind `xn--`, and a label that is written so already must be
what its own reading would be written as.
-/

namespace XmlBounds.Url

/-- ASCII characters that no domain may hold, besides controls and the space. -/
def forbiddenInDomain : List Char :=
  ['%', '#', '/', ':', '<', '>', '?', '@', '[', '\\', ']', '^', '|']

/-- Whether an ASCII character may not stand in a domain. -/
def isForbiddenInDomain (c : Char) : Bool :=
  c.toNat ≤ 0x20 || c == '\x7f' || c ∈ forbiddenInDomain

def isAscii (s : List Char) : Bool := s.all (·.toNat < 0x80)

/-- What stands in front of a label in Punycode. -/
def punycodeMark : List Char := ['x', 'n', '-', '-']

/-- How many characters a label in Punycode may have. -/
def maxPunycodeLength : Nat := 2000

/-- The label that is written in Punycode: one with characters beyond ASCII, in normal form and
written in the one way that it can be written. -/
def readPunycode? (written : List Char) : Option (List Char) := do
  if maxPunycodeLength < written.length ∨ written.getLast? = some '-' then none
  let label ← Punycode.decode? written
  if !isAscii label ∧ label.all isPlainInDomain ∧ Unicode.normalize label = label ∧
      Punycode.encode label = written ∧ isProperLabel label then return label
  else none

/-- The label that a label of a domain stands for. -/
def readLabel? (label : List Char) : Option (List Char) :=
  if punycodeMark.isPrefixOf label then
    if isAscii label then readPunycode? (label.drop punycodeMark.length) else none
  else if isAscii label ∨ isProperLabel label then some label
  else none

def writeLabel (label : List Char) : List Char :=
  if isAscii label then label else punycodeMark ++ Punycode.encode label

/-- The domain in ASCII, or none if it has no such form. Where one label is written from right to
left, every label has to keep to its direction. -/
def domainToAscii (domain : List Char) : Option (List Char) := do
  let normal := Unicode.normalize (← domain.mapM domainChar?).flatten
  if normal.any isForbiddenInDomain then none
  else
    let labels ← (Text.splitOn '.' normal).mapM readLabel?
    if labels.any isRightToLeft ∧ !labels.all keepsDirection then none
    else return ['.'].intercalate (labels.map writeLabel)

end XmlBounds.Url
