import XmlBounds.Access
import XmlBounds.Diagnostic
import XmlBounds.Limit
import XmlBounds.PropertyValue
import XmlBounds.Setting

/-!
# Limit policies

A policy holds a value for each setting, and for each whether the caller owns it, that is, wrote
it through a public setter. Writing one setting leaves the others as they are.
-/

namespace XmlBounds

/-- A value and whether the caller owns it. -/
structure Owned (α : Type) where
  value : α
  isOwned : Bool
  deriving DecidableEq, Repr

/-- The limits and protocol lists of one parser. -/
structure Policy where
  entityExpansions : Owned Limit
  elementAttributes : Owned Limit
  elementDepth : Owned Limit
  maxOccurs : Owned Limit
  generalEntitySize : Owned Limit
  parameterEntitySize : Owned Limit
  totalEntitySize : Owned Limit
  externalDtd : Owned (Option String)
  externalSchema : Owned (Option String)
  deriving DecidableEq, Repr

namespace Policy

/-- The limits of a policy of which nobody has written anything. -/
def initial : Policy where
  entityExpansions := ⟨⟨100000, by decide⟩, false⟩
  elementAttributes := ⟨⟨10000, by decide⟩, false⟩
  elementDepth := ⟨.unlimited, false⟩
  maxOccurs := ⟨⟨3000, by decide⟩, false⟩
  generalEntitySize := ⟨.unlimited, false⟩
  parameterEntitySize := ⟨⟨1000000, by decide⟩, false⟩
  totalEntitySize := ⟨⟨50000000, by decide⟩, false⟩
  externalDtd := ⟨some accessAll, false⟩
  externalSchema := ⟨some accessAll, false⟩

def limitEntry (p : Policy) : LimitKind → Owned Limit
  | .entityExpansions => p.entityExpansions
  | .elementAttributes => p.elementAttributes
  | .elementDepth => p.elementDepth
  | .maxOccurs => p.maxOccurs
  | .generalEntitySize => p.generalEntitySize
  | .parameterEntitySize => p.parameterEntitySize
  | .totalEntitySize => p.totalEntitySize

def accessEntry (p : Policy) : AccessList → Owned (Option String)
  | .externalDtd => p.externalDtd
  | .externalSchema => p.externalSchema

def putLimit (p : Policy) (k : LimitKind) (e : Owned Limit) : Policy :=
  match k with
  | .entityExpansions => { p with entityExpansions := e }
  | .elementAttributes => { p with elementAttributes := e }
  | .elementDepth => { p with elementDepth := e }
  | .maxOccurs => { p with maxOccurs := e }
  | .generalEntitySize => { p with generalEntitySize := e }
  | .parameterEntitySize => { p with parameterEntitySize := e }
  | .totalEntitySize => { p with totalEntitySize := e }

/-- Writes the entry of a protocol list. -/
def putAccess (p : Policy) (a : AccessList) (e : Owned (Option String)) : Policy :=
  match a with
  | .externalDtd => { p with externalDtd := e }
  | .externalSchema => { p with externalSchema := e }

@[simp] theorem limitEntry_putLimit (p : Policy) (j k : LimitKind) (e : Owned Limit) :
    (p.putLimit k e).limitEntry j = if j = k then e else p.limitEntry j := by
  cases k <;> cases j <;> rfl

@[simp] theorem accessEntry_putLimit (p : Policy) (a : AccessList) (k : LimitKind)
    (e : Owned Limit) : (p.putLimit k e).accessEntry a = p.accessEntry a := by
  cases k <;> cases a <;> rfl

@[simp] theorem limitEntry_putAccess (p : Policy) (k : LimitKind) (a : AccessList)
    (e : Owned (Option String)) : (p.putAccess a e).limitEntry k = p.limitEntry k := by
  cases k <;> cases a <;> rfl

@[simp] theorem accessEntry_putAccess (p : Policy) (a b : AccessList)
    (e : Owned (Option String)) :
    (p.putAccess b e).accessEntry a = if a = b then e else p.accessEntry a := by
  cases a <;> cases b <;> rfl

/-- Two policies agree if all their entries do. -/
theorem ext_entries {p q : Policy} (hl : ∀ k, p.limitEntry k = q.limitEntry k)
    (ha : ∀ a, p.accessEntry a = q.accessEntry a) : p = q := by
  have h1 := hl .entityExpansions
  have h2 := hl .elementAttributes
  have h3 := hl .elementDepth
  have h4 := hl .maxOccurs
  have h5 := hl .generalEntitySize
  have h6 := hl .parameterEntitySize
  have h7 := hl .totalEntitySize
  have h8 := ha .externalDtd
  have h9 := ha .externalSchema
  cases p
  cases q
  simp only [limitEntry, accessEntry] at h1 h2 h3 h4 h5 h6 h7 h8 h9
  simp [h1, h2, h3, h4, h5, h6, h7, h8, h9]

/-- A policy with every numeric limit lifted. -/
def unlimited : Policy :=
  LimitKind.all.foldl (fun p k => p.putLimit k ⟨.unlimited, false⟩) initial

def limit (p : Policy) (k : LimitKind) : Limit := (p.limitEntry k).value

def access (p : Policy) (a : AccessList) : Option String := (p.accessEntry a).value

def value (p : Policy) : Setting → PropertyValue
  | .limit k => .int (p.limit k).toInt32
  | .access a => .ofText (p.access a)

def isOwned (p : Policy) : Setting → Bool
  | .limit k => (p.limitEntry k).isOwned
  | .access a => (p.accessEntry a).isOwned

def setLimit (p : Policy) (k : LimitKind) (n : Int32) : Policy :=
  p.putLimit k ⟨.normalize n, true⟩

/-- Sets a limit for the caller, whichever setting is named. A protocol list takes no number and is
left alone. -/
def setNumber (p : Policy) : Setting → Int32 → Policy
  | .limit k, n => p.setLimit k n
  | .access _, _ => p

/-- Sets a protocol list for the caller, as it is written. -/
def setAccess (p : Policy) (a : AccessList) (list : Option String) : Policy :=
  p.putAccess a ⟨list, true⟩

def setEntityExpansions (p : Policy) (n : Int32) : Policy := p.setLimit .entityExpansions n

def setElementAttributes (p : Policy) (n : Int32) : Policy := p.setLimit .elementAttributes n

def setElementDepth (p : Policy) (n : Int32) : Policy := p.setLimit .elementDepth n

def setMaxOccurs (p : Policy) (n : Int32) : Policy := p.setLimit .maxOccurs n

def setGeneralEntitySize (p : Policy) (n : Int32) : Policy := p.setLimit .generalEntitySize n

def setParameterEntitySize (p : Policy) (n : Int32) : Policy := p.setLimit .parameterEntitySize n

def setTotalEntitySize (p : Policy) (n : Int32) : Policy := p.setLimit .totalEntitySize n

def setExternalDtd (p : Policy) (list : Option String) : Policy := p.setAccess .externalDtd list

def setExternalSchema (p : Policy) (list : Option String) : Policy :=
  p.setAccess .externalSchema list

/-- The setter that goes by the name of a limit. -/
def limitSetter : LimitKind → Policy → Int32 → Policy
  | .entityExpansions => setEntityExpansions
  | .elementAttributes => setElementAttributes
  | .elementDepth => setElementDepth
  | .maxOccurs => setMaxOccurs
  | .generalEntitySize => setGeneralEntitySize
  | .parameterEntitySize => setParameterEntitySize
  | .totalEntitySize => setTotalEntitySize

/-- The setter that goes by the name of a protocol list. -/
def accessSetter : AccessList → Policy → Option String → Policy
  | .externalDtd => setExternalDtd
  | .externalSchema => setExternalSchema

/-- A setter sets what it is named for. -/
@[simp] theorem limitSetter_eq (k : LimitKind) (p : Policy) (n : Int32) :
    limitSetter k p n = p.setLimit k n := by cases k <;> rfl

@[simp] theorem accessSetter_eq (a : AccessList) (p : Policy) (list : Option String) :
    accessSetter a p list = p.setAccess a list := by cases a <;> rfl

/-- Sets a setting for the caller from a property value. -/
def setValue (p : Policy) (s : Setting) (v : PropertyValue) : Except ValueFault Policy :=
  match s with
  | .limit k => return p.setLimit k (← v.asLimit)
  | .access a => return p.setAccess a (← v.asText)

/-- Stores a resolved value: whose the setting is does not change. -/
def applyResolved (p : Policy) (s : Setting) (v : PropertyValue) : Except ValueFault Policy :=
  match s with
  | .limit k => return p.putLimit k ⟨.normalize (← v.asLimit), (p.limitEntry k).isOwned⟩
  | .access a => return p.putAccess a ⟨← v.asText, (p.accessEntry a).isOwned⟩

/-- Takes a setting from the caller: its value stays. -/
def disown (p : Policy) : Setting → Policy
  | .limit k => p.putLimit k ⟨p.limit k, false⟩
  | .access a => p.putAccess a ⟨p.access a, false⟩

def disownAll (p : Policy) : Policy := Setting.all.foldl disown p

def owned (p : Policy) : List Setting := Setting.all.filter p.isOwned

/-- Whether a quantity exceeds one of the limits. -/
def exceeds (p : Policy) (k : LimitKind) (observed : Nat) : Bool :=
  Limit.isExceeded (p.limit k).toNat observed

/-- A limit as the argument of a message. -/
def limitArg (p : Policy) (k : LimitKind) : MessageArg := .number (p.limit k).toNat

/-- Checks how many entities were expanded so far. -/
def checkExpansions (p : Policy) (count : Nat) : Option Diagnostic :=
  if p.exceeds .entityExpansions count then
    some (.fatal .entityExpansions [p.limitArg .entityExpansions])
  else none

/-- Checks how many attributes an element has. -/
def checkAttributes (p : Policy) (element : String) (count : Nat) : Option Diagnostic :=
  if p.exceeds .elementAttributes count then
    some (.fatal .elementAttributes [.text element, p.limitArg .elementAttributes])
  else none

/-- Checks how deep an element is nested. The depth that is reported has at most 63 bits. -/
def checkDepth (p : Policy) (element : String) (depth : Nat) : Option Diagnostic :=
  if p.exceeds .elementDepth depth then
    some (.fatal .elementDepth
      [.text element, .number (min depth 9223372036854775807), p.limitArg .elementDepth])
  else none

def checkOccurs (p : Policy) (occurs : Nat) : Option Diagnostic :=
  if p.exceeds .maxOccurs occurs then some (.fatal .maxOccurs [p.limitArg .maxOccurs]) else none

/-- Checks the size of one entity and the total of all, the total first. -/
def checkEntitySize (p : Policy) (size total : Nat) (isParameter : Bool) : List Diagnostic :=
  let check (k : LimitKind) (key : MessageKey) (observed : Nat) : List Diagnostic :=
    if p.exceeds k observed then [.fatal key [p.limitArg k]] else []
  check .totalEntitySize .totalEntitySize total ++
    if isParameter then check .parameterEntitySize .parameterEntitySize size
    else check .generalEntitySize .generalEntitySize size

@[simp] theorem exceeds_iff {p : Policy} {k : LimitKind} {observed : Nat} :
    p.exceeds k observed = true ↔ (p.limit k).toNat < observed := by
  simp [exceeds, Limit.isExceeded]

end Policy

end XmlBounds
