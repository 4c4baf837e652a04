import XmlBounds.Check.Element
import XmlBounds.Check.Inclusion

/-!
# Checking a document

The tokens of a document are checked in order; what was wrong with the markup counts only after
everything before it. The report of a pass says what it saw.
-/

namespace XmlBounds

/-- What a pass saw. -/
structure CheckReport where
  doctype : Option String
  elements : Nat
  maxDepth : Nat
  /-- The entity references expanded, general and parameter. -/
  expansions : Nat
  /-- The entity text counted. -/
  entityText : Nat
  entitiesDeclared : Nat
  skippedExternal : Bool
  deriving DecidableEq, Repr

def Pass.report (pass : Pass) : CheckReport where
  doctype := pass.doctype
  elements := pass.elements
  maxDepth := pass.maxDepth
  expansions := pass.expansions
  entityText := pass.ledger.total.toNat
  entitiesDeclared := pass.table.size
  skippedExternal := pass.skippedExternal

namespace Checked

def checkToken (ctx : CheckContext) : Markup.Token → Checked Unit
  | .text content => expandText ctx content
  | .doctype content => checkDoctype ctx content
  | .startTag tag => openElement ctx tag
  | .emptyTag tag => emptyElement ctx tag
  | .endTag => closeElement
  | .ignored => return

def checkTokens (ctx : CheckContext) : List Markup.Token → Checked Unit
  | [] => return
  | t :: rest => do
      checkToken ctx t
      checkTokens ctx rest

/-- Checks what was read of a document, then fails if it could not be read to its end. -/
def checkDocument (ctx : CheckContext) (document : Markup.Document) : Checked Unit := do
  checkTokens ctx document.tokens
  match document.fault with
  | none => return
  | some fault => throw (.markup fault)

end Checked

/-- Checks the text of a document against a context. The total of entity text starts at the
ledger's. -/
def checkText (ctx : CheckContext) (text : String) : Accounted CheckReport := fun ledger =>
  match Checked.checkDocument ctx (Markup.read text) (.start ledger) with
  | .ok () pass => .ok pass.report pass.ledger
  | .error fault pass => .error fault pass.ledger

end XmlBounds
