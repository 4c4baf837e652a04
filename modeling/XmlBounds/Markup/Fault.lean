import XmlBounds.Text.Quoted

/-!
# Faults in markup

What makes a document unreadable as a sequence of tags and text, and what is wrong with a
reference to an entity in it.
-/

namespace XmlBounds.Markup

/-- What ends the reading of a document. -/
inductive TokenFault where
  /-- The input ends inside a construct of the named kind, or the construct is not of that kind. -/
  | unexpectedEnd (construct : String)
  /-- No construct begins with an exclamation mark and this byte. -/
  | unexpectedBang (byte : UInt8)
  | emptyDoctype
  /-- An end tag that does not close the element last opened. -/
  | mismatchedEnd (expected found : String)
  deriving DecidableEq, Repr

def TokenFault.message : TokenFault → String
  | unexpectedEnd construct => s!"Unexpected EOF during reading {construct}"
  | unexpectedBang byte =>
      "Only Comment (\x60--\x60), CDATA (\x60[CDATA[\x60) and DOCTYPE (\x60DOCTYPE\x60) " ++
        s!"nodes can start with a '!', but symbol \x60{(Char.ofNat byte.toNat).toString}\x60 found"
  | emptyDoctype => "DOCTYPE declaration must not be empty"
  | mismatchedEnd expected found => s!"Expecting </{expected}> found </{found}>"

/-- What is wrong with an attribute, and at which byte of its tag. -/
inductive AttributeFault where
  | expectedEquals (position : Nat)
  | expectedValue (position : Nat)
  | unquotedValue (position : Nat)
  | unclosedValue (position : Nat) (quote : Char)
  | duplicated (position earlier : Nat)
  deriving DecidableEq, Repr

def AttributeFault.message : AttributeFault → String
  | expectedEquals position =>
      s!"position {position}: attribute key must be directly followed by \x60=\x60 or space"
  | expectedValue position =>
      s!"position {position}: \x60=\x60 must be followed by an attribute value"
  | unquotedValue position =>
      s!"position {position}: attribute value must be enclosed in \x60\"\x60 or \x60'\x60"
  | unclosedValue position quote =>
      s!"position {position}: missing closing quote \x60{quote.toString}\x60 in attribute value"
  | duplicated position earlier =>
      s!"position {position}: duplicated attribute, previous declaration at position {earlier}"

/-- A fault in the markup of a document. -/
inductive Fault where
  | unreadable (position : Nat) (fault : TokenFault)
  | badAttribute (element : String) (fault : AttributeFault)
  /-- An ampersand in the text without a semicolon after it. -/
  | unterminatedReference (text : String)
  | undeclaredEntity (name : String)
  | unparsedEntity (name : String)
  deriving DecidableEq, Repr

def Fault.message : Fault → String
  | unreadable position fault => s!"error at position {position}: {fault.message}"
  | badAttribute element fault => s!"bad attribute on <{element}>: {fault.message}"
  | unterminatedReference text => s!"unterminated reference in {Text.quoted text}"
  | undeclaredEntity name => s!"undeclared entity '{name}'"
  | unparsedEntity name => s!"reference to unparsed entity '{name}'"

end XmlBounds.Markup
