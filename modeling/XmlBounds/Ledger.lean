import XmlBounds.Counter
import XmlBounds.Dtd.EntityTable
import XmlBounds.Entity.ResourceId
import XmlBounds.Fault

/-!
# The ledger of a parse

What the checks of one parse share: the running total of entity text, the diagnostics that were
handed to the reporter, and a journal of what was done about entities and external resources.
A violation is reported first and then fails, whatever the reporter thinks of it.
-/

namespace XmlBounds

/-- The kinds of external resource, each gated by an allow-list. -/
inductive ResourceKind where
  /-- An external DTD subset or parameter entity. -/
  | dtd
  /-- An external general entity. -/
  | entity
  | schema
  deriving DecidableEq, Repr

/-- The kinds of reference to an entity. -/
inductive ReferenceKind where
  /-- In text and in attribute values. -/
  | general
  /-- Between the declarations of a DTD. -/
  | parameter
  deriving DecidableEq, Repr

/-- The kind of resource that the text of an external entity is, by how the entity is referred to.
-/
def ReferenceKind.resource : ReferenceKind → ResourceKind
  | general => .entity
  | parameter => .dtd

/-- An entry of the journal. -/
inductive Entry where
  /-- The gate let the system identifier pass. -/
  | permitted (kind : ResourceKind) (systemId : Option String)
  /-- The gate turned the system identifier away. -/
  | refused (kind : ResourceKind) (systemId : Option String)
  /-- A resolver was asked for the resource. -/
  | asked (id : ResourceId)
  /-- The system identifier was opened as a local file, at the path. -/
  | opened (systemId : String) (path : LocalPath)
  /-- The declaration of an internal entity came to be counted. -/
  | declared (name text : String)
  /-- Text of an entity was added to the total. -/
  | counted (name : String) (amount : Nat)
  /-- The stream of an external entity was read to its end, and gave so many units. -/
  | delivered (name : String) (units : Nat)
  /-- The expansion of an entity was counted and accepted, for a reference by the name. -/
  | expanded (kind : ReferenceKind) (name : String) (entity : Dtd.EntityDecl)
  deriving DecidableEq, Repr

/-- A diagnostic handed to a reporter, and whether that reporter keeps what it is handed. -/
structure Report where
  diagnostic : Diagnostic
  isKept : Bool
  deriving DecidableEq, Repr

/-- The account of one parse. -/
structure Ledger where
  /-- The entity text counted so far. -/
  total : Counter
  reports : List Report
  /-- The newest entry comes first. -/
  journal : List Entry
  deriving DecidableEq, Repr

namespace Ledger

def empty : Ledger := ⟨0, [], []⟩

/-- The diagnostics that a recording reporter has seen. -/
def seen (ledger : Ledger) : List Diagnostic :=
  (ledger.reports.filter (·.isKept)).map (·.diagnostic)

end Ledger

/-- The channel through which a parse reports: any answer to a diagnostic, given without memory. -/
structure Reporter where
  respond : Diagnostic → Except Fault Unit
  /-- Whether it keeps what it is handed. -/
  records : Bool

namespace Reporter

/-- Fails on a fatal diagnostic and accepts every other. -/
def failOnFatal (d : Diagnostic) : Except Fault Unit :=
  match d.severity with
  | .fatal => .error (.fatal d)
  | .warning | .error => .ok ()

def logging : Reporter := ⟨failOnFatal, false⟩

/-- A reporter that keeps every diagnostic it receives. -/
def recording : Reporter := ⟨failOnFatal, true⟩

end Reporter

/-- A computation that keeps the ledger, also when it fails. -/
abbrev Accounted := EStateM Fault Ledger

namespace Accounted

def report (reporter : Reporter) (d : Diagnostic) : Accounted Unit := do
  modify fun ledger => { ledger with reports := ledger.reports ++ [⟨d, reporter.records⟩] }
  match reporter.respond d with
  | .ok () => return
  | .error fault => throw fault

/-- Reports a diagnostic and fails: with the reporter's own fault if it has one, else with the
diagnostic. -/
def raise {α : Type} (reporter : Reporter) (d : Diagnostic) : Accounted α := do
  report reporter d
  throw (.fatal d)

/-- What is reported is on record whatever the reporter makes of it, and the fault is the reporter's
if it has one. -/
theorem raise_apply {α : Type} (reporter : Reporter) (d : Diagnostic) (ledger : Ledger) :
    (raise reporter d : Accounted α) ledger =
      .error (match reporter.respond d with
        | .ok () => .fatal d
        | .error fault => fault)
        { ledger with reports := ledger.reports ++ [⟨d, reporter.records⟩] } := by
  have h (answer : Except Fault Unit) (after : Ledger) :
      ((match answer with
        | .ok () => (pure () : Accounted Unit)
        | .error fault => throw fault).bind fun _ => (throw (Fault.fatal d) : Accounted α)) after =
      .error (match answer with
        | .ok () => .fatal d
        | .error fault => fault) after := by
    cases answer <;> rfl
  exact h _ _

/-- Raises the first of several diagnostics; the others are not reported. -/
def raiseFirst (reporter : Reporter) : List Diagnostic → Accounted Unit
  | [] => return
  | d :: _ => raise reporter d

/-- Raises the diagnostic of a check, if it found anything. -/
def raiseIf (reporter : Reporter) (found : Option Diagnostic) : Accounted Unit :=
  raiseFirst reporter found.toList

/-- Adds to the total of entity text, and gives the new total. -/
def count (amount : Nat) : Accounted Counter := do
  modify fun ledger => { ledger with total := ledger.total.add amount }
  return (← get).total

def note (e : Entry) : Accounted Unit :=
  modify fun ledger => { ledger with journal := e :: ledger.journal }

/-- Runs a step of a reading to the end, which an interruption does not end. Gives whether the step
was done. -/
def takenUp (x : Accounted Unit) : Accounted Bool := fun ledger =>
  match x ledger with
  | .ok () ledger => .ok true ledger
  | .error fault ledger =>
      if fault.isInterruption then .ok false ledger else .error fault ledger

theorem ok_of_takenUp {x : Accounted Unit} {done : Bool} {l l' : Ledger}
    (h : takenUp x l = .ok done l') :
    done = true ∧ x l = .ok () l' ∨
      done = false ∧ ∃ fault, fault.isInterruption = true ∧ x l = .error fault l' := by
  simp only [takenUp] at h
  split at h
  · next hx =>
      cases h
      exact .inl ⟨rfl, hx⟩
  · next fault _ hx =>
      split at h
      · next hinterruption =>
          cases h
          exact .inr ⟨rfl, fault, hinterruption, hx⟩
      · cases h

theorem error_of_takenUp {x : Accounted Unit} {fault : Fault} {l l' : Ledger}
    (h : takenUp x l = .error fault l') : x l = .error fault l' := by
  simp only [takenUp] at h
  split at h
  · cases h
  · next hx =>
      split at h
      · cases h
      · cases h
        exact hx

/-- Runs on the ledger inside a larger state; what else the state holds stays as it is. -/
def within {σ α : Type} (get : σ → Ledger) (put : σ → Ledger → σ) (x : Accounted α) :
    EStateM Fault σ α := fun s =>
  match x (get s) with
  | .ok a ledger => .ok a (put s ledger)
  | .error fault ledger => .error fault (put s ledger)

end Accounted

end XmlBounds
