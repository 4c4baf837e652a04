import XmlBounds.Message

/-!
# Diagnostics

What a violated limit, a refused access or a recursive reference is reported as.
-/

namespace XmlBounds

/-- How serious a diagnostic is. -/
inductive Severity where
  | warning
  | error
  | fatal
  deriving DecidableEq, Repr

/-- A diagnostic, as it is handed to a reporter. -/
structure Diagnostic where
  key : MessageKey
  args : List MessageArg
  severity : Severity
  /-- The system identifier of the entity being read, if known. -/
  systemId : Option String
  deriving DecidableEq, Repr

namespace Diagnostic

/-- A fatal diagnostic about no entity in particular. -/
def fatal (key : MessageKey) (args : List MessageArg) : Diagnostic :=
  ⟨key, args, .fatal, none⟩

def message (d : Diagnostic) : String := Message.render d.key d.args

/-- The domain under which the diagnostic is reported. -/
def domain (d : Diagnostic) : String := d.key.domain

/-- The last numeric argument, which for a limit's key is the limit. -/
def limit (d : Diagnostic) : Option Int :=
  d.args.reverse.findSome? fun
    | .number n => some n
    | .text _ => none

/-- The message, and the entity it is about. -/
def display (d : Diagnostic) : String :=
  match d.systemId with
  | some id => s!"{d.message}\n\nEntity: {id}"
  | none => d.message

end Diagnostic

end XmlBounds
