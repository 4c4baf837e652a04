/-!
# Settings and features

What a caller can configure. A setting is one of seven numeric limits or one of two lists of
allowed protocols; a feature is on or off. Each has one canonical name.
-/

namespace XmlBounds

/-- The numeric limits. -/
inductive LimitKind where
  | entityExpansions
  | elementAttributes
  | elementDepth
  | maxOccurs
  | generalEntitySize
  | parameterEntitySize
  | totalEntitySize
  deriving DecidableEq, Repr

namespace LimitKind

/-- The limits in the order in which they are resolved. -/
def all : List LimitKind :=
  [entityExpansions, elementAttributes, elementDepth, maxOccurs, generalEntitySize,
    parameterEntitySize, totalEntitySize]

theorem mem_all (k : LimitKind) : k ∈ all := by cases k <;> decide

/-- The name under which property sources hold the limit. -/
def propertyName : LimitKind → String
  | entityExpansions => "jdk.xml.entityExpansionLimit"
  | elementAttributes => "jdk.xml.elementAttributeLimit"
  | elementDepth => "jdk.xml.maxElementDepth"
  | maxOccurs => "jdk.xml.maxOccur"
  | generalEntitySize => "jdk.xml.maxGeneralEntitySizeLimit"
  | parameterEntitySize => "jdk.xml.maxParameterEntitySizeLimit"
  | totalEntitySize => "jdk.xml.totalEntitySizeLimit"

/-- Computes a value for each limit, in order. -/
def tabulateM {m : Type → Type} [Monad m] {α : Type} (f : LimitKind → m α) :
    m (LimitKind → α) := do
  let expansions ← f entityExpansions
  let attributes ← f elementAttributes
  let depth ← f elementDepth
  let occurs ← f maxOccurs
  let general ← f generalEntitySize
  let parameter ← f parameterEntitySize
  let total ← f totalEntitySize
  return fun
    | entityExpansions => expansions
    | elementAttributes => attributes
    | elementDepth => depth
    | maxOccurs => occurs
    | generalEntitySize => general
    | parameterEntitySize => parameter
    | totalEntitySize => total

/-- Where every value can be had outright, the table is the function itself. -/
@[simp] theorem tabulateM_pure {m : Type → Type} [Monad m] [LawfulMonad m] {α : Type}
    (f : LimitKind → α) : tabulateM (fun k => (pure (f k) : m α)) = pure f := by
  simp only [tabulateM, pure_bind]
  congr 1
  funext k
  cases k <;> rfl

end LimitKind

/-- The lists of protocols that external resources may use. -/
inductive AccessList where
  /-- For external DTDs and external entities. -/
  | externalDtd
  /-- For schema documents. -/
  | externalSchema
  deriving DecidableEq, Repr

namespace AccessList

/-- Both lists, in order. -/
def all : List AccessList := [externalDtd, externalSchema]

theorem mem_all (a : AccessList) : a ∈ all := by cases a <;> decide

/-- The name under which property sources hold the list. -/
def propertyName : AccessList → String
  | externalDtd => "javax.xml.accessExternalDTD"
  | externalSchema => "javax.xml.accessExternalSchema"

/-- Computes a value for each list, in order. -/
def tabulateM {m : Type → Type} [Monad m] {α : Type} (f : AccessList → m α) :
    m (AccessList → α) := do
  let dtd ← f externalDtd
  let schema ← f externalSchema
  return fun
    | externalDtd => dtd
    | externalSchema => schema

@[simp] theorem tabulateM_pure {m : Type → Type} [Monad m] [LawfulMonad m] {α : Type}
    (f : AccessList → α) : tabulateM (fun a => (pure (f a) : m α)) = pure f := by
  simp only [tabulateM, pure_bind]
  congr 1
  funext a
  cases a <;> rfl

end AccessList

/-- A value kept on a limit policy. -/
inductive Setting where
  | limit (kind : LimitKind)
  | access (list : AccessList)
  deriving DecidableEq, Repr

namespace Setting

/-- The limits, then the protocol lists. -/
def all : List Setting := LimitKind.all.map limit ++ AccessList.all.map access

theorem mem_all (s : Setting) : s ∈ all := by
  cases s with
  | limit kind => simp [all, LimitKind.mem_all]
  | access list => simp [all, AccessList.mem_all]

/-- The name under which property sources hold the setting. -/
def propertyName : Setting → String
  | limit kind => kind.propertyName
  | access list => list.propertyName

end Setting

/-- A switch of the parser. -/
inductive Feature where
  /-- Tightens the defaults of the gates below. -/
  | secureProcessing
  /-- Refuses every document that carries a DOCTYPE. -/
  | disallowDoctype
  | loadExternalDtd
  | externalGeneralEntities
  | externalParameterEntities
  deriving DecidableEq, Repr

namespace Feature

/-- The features in the order of their declaration. -/
def all : List Feature :=
  [secureProcessing, disallowDoctype, loadExternalDtd, externalGeneralEntities,
    externalParameterEntities]

/-- The features in the order in which they are resolved and reported. -/
def reported : List Feature :=
  [secureProcessing, loadExternalDtd, externalGeneralEntities, externalParameterEntities,
    disallowDoctype]

theorem mem_all (f : Feature) : f ∈ all := by cases f <;> decide

theorem mem_reported (f : Feature) : f ∈ reported := by cases f <;> decide

/-- The canonical name. -/
def uri : Feature → String
  | secureProcessing => "http://javax.xml.XMLConstants/feature/secure-processing"
  | disallowDoctype => "http://apache.org/xml/features/disallow-doctype-decl"
  | loadExternalDtd => "http://apache.org/xml/features/nonvalidating/load-external-dtd"
  | externalGeneralEntities => "http://xml.org/sax/features/external-general-entities"
  | externalParameterEntities => "http://xml.org/sax/features/external-parameter-entities"

end Feature

end XmlBounds
