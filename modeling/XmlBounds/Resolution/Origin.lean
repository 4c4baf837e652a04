/-!
# Where effective values come from
-/

namespace XmlBounds

/-- The ranked sources of a value. -/
inductive Origin where
  /-- The caller's own limit policy. -/
  | callerPolicy
  /-- A property or feature that the caller has set. -/
  | callerProperty
  /-- The properties file of the installation. -/
  | deploymentFile
  /-- The properties of the process. -/
  | processProperty
  /-- Whether processing is secure. -/
  | secureProcessing
  | default
  deriving DecidableEq, Repr

namespace Origin

/-- Whether the value was given from outside. -/
def isExternal : Origin → Bool
  | callerPolicy | callerProperty | deploymentFile | processProperty => true
  | secureProcessing | default => false

def words : Origin → List String
  | callerPolicy => ["caller", "policy"]
  | callerProperty => ["caller", "property"]
  | deploymentFile => ["deployment", "file"]
  | processProperty => ["process", "property"]
  | secureProcessing => ["secure", "processing"]
  | default => ["default"]

def display (o : Origin) : String := " ".intercalate o.words

def identifier (o : Origin) : String := "-".intercalate o.words

end Origin

/-- A value and where it comes from. -/
structure Resolved (α : Type) where
  value : α
  origin : Origin
  deriving DecidableEq, Repr

namespace Resolved

variable {α β : Type}

/-- Whether the value was given from outside. -/
def isSpecified (r : Resolved α) : Bool := r.origin.isExternal

def map (f : α → β) (r : Resolved α) : Resolved β := ⟨f r.value, r.origin⟩

end Resolved

end XmlBounds
