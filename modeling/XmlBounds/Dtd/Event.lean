/-!
# DTD events

The declarations and markers of a DTD, in the order in which they are met. The name of a
parameter entity carries a leading percent sign.
-/

namespace XmlBounds.Dtd

/-- A declaration or a marker. -/
inductive Event where
  | startDtd (root : String) (publicId systemId : Option String)
  /-- An entity with its replacement text, character references replaced. -/
  | internalEntity (name text : String)
  /-- An entity whose text is elsewhere; its system identifier is relative to the base. -/
  | externalEntity (name : String) (publicId : Option String) (systemId : String)
      (base : Option String)
  | unparsedEntity (name : String) (publicId : Option String) (systemId notationName : String)
  | element (name model : String)
  | attlist (element definitions : String)
  | notationDecl (name : String) (publicId systemId : Option String)
  | startConditional (isIncluded : Bool)
  | endConditional
  /-- A reference to a parameter entity between declarations. -/
  | parameterReference (name : String)
  | comment (text : String)
  | instruction (target data : String)
  | endDtd
  deriving DecidableEq, Repr

/-- The short name of the kind of event. -/
def Event.kind : Event → String
  | startDtd .. => "start-dtd"
  | internalEntity .. => "internal-entity"
  | externalEntity .. => "external-entity"
  | unparsedEntity .. => "unparsed-entity"
  | element .. => "element"
  | attlist .. => "attlist"
  | notationDecl .. => "notation"
  | startConditional .. => "start-conditional"
  | endConditional => "end-conditional"
  | parameterReference .. => "pe-reference"
  | comment .. => "comment"
  | instruction .. => "pi"
  | endDtd => "end-dtd"

/-- Whether a name is that of a parameter entity. -/
def isParameterName (name : String) : Bool := name.toList.head? == some '%'

/-- The name of a parameter entity. -/
def parameterName (bare : String) : String := "%" ++ bare

end XmlBounds.Dtd
