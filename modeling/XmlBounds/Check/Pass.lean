import XmlBounds.Dtd.EntityTable
import XmlBounds.Entity.Resolver
import XmlBounds.Gate

/-!
# A pass over a document

What a check of a document goes by, and what it keeps track of on the way.
-/

namespace XmlBounds

/-- What a check goes by. It does not change during a pass. -/
structure CheckContext where
  policy : Policy
  isEnabled : Feature → Bool
  reporter : Reporter
  /-- The installed resolver. -/
  resolver : Option EntityResolver
  files : Files
  /-- The system identifier of the document. -/
  systemId : Option String

/-- What a pass keeps track of. -/
structure Pass where
  ledger : Ledger
  table : Dtd.EntityTable
  /-- The root element that the DOCTYPE declaration names. -/
  doctype : Option String
  elements : Nat
  maxDepth : Nat
  /-- The entity references expanded so far, general and parameter. -/
  expansions : Nat
  /-- Whether some external content was left out. -/
  skippedExternal : Bool
  /-- The number of open elements. -/
  depth : Nat
  /-- The namespace declarations of the open elements, the innermost first. -/
  scopes : List (List (String × String))
  deriving DecidableEq, Repr

def Pass.start (ledger : Ledger) : Pass where
  ledger
  table := .empty
  doctype := none
  elements := 0
  maxDepth := 0
  expansions := 0
  skippedExternal := false
  depth := 0
  scopes := []

/-- A computation within a pass. What it has done stays done when it fails. -/
abbrev Checked := EStateM Fault Pass

namespace Checked

/-- Runs on the ledger of the pass. -/
def accounted {α : Type} (x : Accounted α) : Checked α :=
  x.within (·.ledger) fun pass ledger => { pass with ledger }

def raise {α : Type} (ctx : CheckContext) (d : Diagnostic) : Checked α :=
  accounted (Accounted.raise ctx.reporter d)

/-- Raises the diagnostic of a check, if it found anything. -/
def raiseIf (ctx : CheckContext) (found : Option Diagnostic) : Checked Unit :=
  accounted (Accounted.raiseIf ctx.reporter found)

/-- Fails because an entity is referred to while it is open; the open entities are given with the
innermost first. -/
def raiseRecursion {α : Type} (ctx : CheckContext) (opened : List String) (name : String) :
    Checked α :=
  raise ctx (.fatal .recursiveReference
    [.text name, .text (" -> ".intercalate (opened.reverse ++ [name]))])

/-- Counts the expansion of an entity, checks the count, and puts it on record if it is accepted. -/
def countExpansion (ctx : CheckContext) (kind : ReferenceKind) (name : String)
    (entity : Dtd.EntityDecl) : Checked Unit := do
  modify fun pass => { pass with expansions := pass.expansions + 1 }
  raiseIf ctx (ctx.policy.checkExpansions (← get).expansions)
  accounted (.note (.expanded kind name entity))

/-- Looking at the pass first is knowing it. -/
theorem bind_get {α : Type} (f : Pass → Checked α) (pass : Pass) :
    (get >>= f) pass = f pass pass := rfl

/-- To count is to check the next count, which stays. -/
theorem countExpansion_apply (ctx : CheckContext) (kind : ReferenceKind) (name : String)
    (entity : Dtd.EntityDecl) (pass : Pass) :
    countExpansion ctx kind name entity pass =
      (do
        raiseIf ctx (ctx.policy.checkExpansions (pass.expansions + 1))
        accounted (.note (.expanded kind name entity)))
        { pass with expansions := pass.expansions + 1 } := rfl

/-- Notes that external content is left out. -/
def skipExternal : Checked Unit := modify fun pass => { pass with skippedExternal := true }

/-- Runs an event of the DTD through the pipeline into the entity table. -/
def dispatch (ctx : CheckContext) (e : Dtd.Event) : Checked Unit := do
  match ← accounted ((monitoredPipeline ctx.policy ctx.reporter).deliver e) with
  | some e' => modify fun pass => { pass with table := pass.table.handle e' }
  | none => return

end Checked

/-- Asks the installed resolver for a resource, and if that has nothing, takes the resource for the
local file that its system identifier names. -/
def resolveResource (ctx : CheckContext) (id : ResourceId) : Accounted (InputSource Stream) := do
  match ← resolveMonitored ctx.resolver ctx.files id with
  | some source => return source
  | none =>
      match ← resolveMonitored (some (systemIdResolver ctx.files.directory)) ctx.files id with
      | some source => return source
      | none => throw (.unresolved (id.expanded ctx.files.directory))

/-- Gates, resolves and reads an external resource: its text, and what its own references are
relative to. -/
def fetch (ctx : CheckContext) (kind : ResourceKind) (id : ResourceId) :
    Accounted (String × Option String) := do
  let expanded := id.expanded ctx.files.directory
  checkAccess ctx.policy ctx.reporter kind expanded
  let source ← resolveResource ctx id
  let text ← source.readText ctx.policy ctx.reporter
  return (text, source.systemId.or expanded)

/-- Counts the expansion of an external entity and fetches its text. -/
def Checked.fetchEntity (ctx : CheckContext) (kind : ReferenceKind) (name : String)
    (entity : Dtd.EntityDecl) (publicId : Option String) (systemId : String)
    (base : Option String) : Checked (String × Option String) := do
  countExpansion ctx kind name entity
  accounted (fetch ctx kind.resource ⟨publicId, some systemId, base, some entity.name⟩)

end XmlBounds
