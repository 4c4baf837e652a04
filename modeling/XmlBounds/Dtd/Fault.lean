import XmlBounds.Text.Integer
import XmlBounds.Text.Quoted

/-!
# Faults in DTD text

What the scanner wanted and did not find, with the place; and what is wrong with a reference to a
character or to a parameter entity.
-/

namespace XmlBounds.Dtd

/-- What is wrong at a place in DTD text. -/
inductive Complaint where
  | expected (token : String)
  | expectedSpace
  | expectedName
  | expectedLiteral
  | expectedSystemLiteral
  | expectedExternalId
  | expectedSectionKeyword
  | unterminatedLiteral
  | unterminatedDeclaration
  | unterminatedSubset
  | unterminatedIgnore
  | missing (terminator : String)
  | unbalancedSectionEnd
  | unparsedParameter
  | unexpectedMarkup
  | unexpectedAfterDoctype
  deriving DecidableEq, Repr

def Complaint.message : Complaint → String
  | expected token => s!"expected '{token}'"
  | expectedSpace => "expected whitespace"
  | expectedName => "expected a name"
  | expectedLiteral => "expected a quoted literal"
  | expectedSystemLiteral => "expected a system literal"
  | expectedExternalId => "expected SYSTEM or PUBLIC"
  | expectedSectionKeyword => "expected INCLUDE or IGNORE"
  | unterminatedLiteral => "unterminated literal"
  | unterminatedDeclaration => "unterminated declaration"
  | unterminatedSubset => "unterminated internal subset"
  | unterminatedIgnore => "unterminated IGNORE section"
  | missing terminator => s!"missing '{terminator}'"
  | unbalancedSectionEnd => "unbalanced ']]>'"
  | unparsedParameter => "parameter entity cannot be unparsed"
  | unexpectedMarkup => "unexpected markup"
  | unexpectedAfterDoctype => "unexpected text after DOCTYPE"

/-- A fault in DTD text or in the use of what it declares. -/
inductive Fault where
  /-- A complaint at a byte offset, with the characters that stand there. -/
  | malformed (complaint : Complaint) (offset : Nat) (near : String)
  /-- A conditional section is still open at the end. -/
  | openSection
  /-- A character reference whose number is too large to read. -/
  | unreadableCharRef (reference : String) (why : Text.IntegerFault)
  /-- A character reference whose number is no character. -/
  | invalidCharRef (reference : String)
  | undeclaredParameter (name : String)
  | unparsedParameter (name : String)
  /-- A fault that a stage of a pipeline states in its own words. -/
  | stated (text : String)
  deriving DecidableEq, Repr

def Fault.message : Fault → String
  | malformed complaint offset near =>
      s!"{complaint.message} at offset {offset} near {Text.quoted near}"
  | openSection => "unterminated conditional section"
  | unreadableCharRef reference why => s!"bad character reference {reference}: {why.message}"
  | invalidCharRef reference => s!"invalid character reference {reference}"
  | undeclaredParameter name => s!"undeclared parameter entity {name}"
  | unparsedParameter name => s!"parameter entity {name} is unparsed"
  | stated text => text

end XmlBounds.Dtd
