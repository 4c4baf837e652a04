import XmlBounds.Check.Reference
import XmlBounds.Markup.Attribute

/-!
# Checking elements

An element is checked for its depth before its attributes are read, and for their number after. An
element of XML Schema is also checked for what its `maxOccurs` attribute says.
-/

namespace XmlBounds

/-- The namespace of XML Schema. -/
def schemaNamespace : String := "http://www.w3.org/2001/XMLSchema"

namespace Markup

/-- The prefix that an attribute declares, empty for the default namespace. -/
def Attribute.declaredPrefix? (a : Attribute) : Option String :=
  if a.key = "xmlns" then some ""
  else if "xmlns:".toList.isPrefixOf a.key.toList then
    some (String.ofList (a.key.toList.drop 6))
  else none

/-- The namespace declarations among attributes. -/
def declarations (attributes : List Attribute) : List (String × String) :=
  attributes.filterMap fun a => a.declaredPrefix?.map (·, a.value)

/-- What the attributes say about occurrences, without blanks around it. -/
def maxOccurs? (attributes : List Attribute) : Option String :=
  (attributes.find? (·.key = "maxOccurs")).map fun a => Text.trimmed a.value

/-- The prefix of a qualified name, empty if it has none. -/
def prefixOf (name : String) : String :=
  if ':' ∈ name.toList then String.ofList (name.toList.takeWhile (· != ':')) else ""

/-- The namespace of a qualified name: the innermost declaration of its prefix counts, and an empty
one takes the namespace away. -/
def namespaceOf? (scopes : List (List (String × String))) (name : String) : Option String :=
  (scopes.findSome? (·.lookup (prefixOf name))).filter (· ≠ "")

end Markup

/-- Checks what a `maxOccurs` attribute says. What is no number of 64 bits is passed over. -/
def Policy.checkOccursText (policy : Policy) (value : String) : Option Diagnostic :=
  if value = "unbounded" then none
  else
    match Text.readNat 10 18446744073709551615 value.toList with
    | .ok n => policy.checkOccurs n
    | .error _ => none

namespace Checked

/-- Expands the references in the values of attributes. -/
def expandValues (ctx : CheckContext) : List Markup.Attribute → Checked Unit
  | [] => return
  | a :: rest => do
      expandText ctx a.value
      expandValues ctx rest

/-- Fails if the tag is at fault. -/
def refuse (name : String) : Option Markup.AttributeFault → Checked Unit
  | none => return
  | some fault => throw (.markup (.badAttribute name fault))

/-- Checks the occurrences that an element of XML Schema allows. -/
def checkOccurs (ctx : CheckContext) (name : String) (attributes : List Markup.Attribute) :
    Checked Unit := do
  match Markup.maxOccurs? attributes with
  | none => return
  | some value =>
      if Markup.namespaceOf? (← get).scopes name = some schemaNamespace then
        raiseIf ctx (ctx.policy.checkOccursText value)

/-- Counts an element and checks its depth. -/
def countElement (ctx : CheckContext) (name : String) (depth : Nat) : Checked Unit := do
  modify fun pass =>
    { pass with elements := pass.elements + 1, maxDepth := max pass.maxDepth depth }
  raiseIf ctx (ctx.policy.checkDepth name depth)

/-- Checks the tag of an element at a depth, and opens the scope of its declarations. -/
def startElement (ctx : CheckContext) (tag : Markup.Tag) (depth : Nat) : Checked Unit := do
  countElement ctx tag.name depth
  let list := tag.attributes
  expandValues ctx list.attributes
  refuse tag.name list.fault
  raiseIf ctx (ctx.policy.checkAttributes tag.name list.attributes.length)
  modify fun pass => { pass with scopes := Markup.declarations list.attributes :: pass.scopes }
  checkOccurs ctx tag.name list.attributes

/-- Closes the scope of the innermost element. -/
def closeScope : Checked Unit := modify fun pass => { pass with scopes := pass.scopes.tail }

def openElement (ctx : CheckContext) (tag : Markup.Tag) : Checked Unit := do
  modify fun pass => { pass with depth := pass.depth + 1 }
  startElement ctx tag (← get).depth

/-- Checks the tag of an empty element. -/
def emptyElement (ctx : CheckContext) (tag : Markup.Tag) : Checked Unit := do
  startElement ctx tag ((← get).depth + 1)
  closeScope

def closeElement : Checked Unit := do
  modify fun pass => { pass with depth := pass.depth - 1 }
  closeScope

end Checked

end XmlBounds
