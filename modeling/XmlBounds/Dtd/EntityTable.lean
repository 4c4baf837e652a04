import XmlBounds.Dtd.Event

/-!
# The entity table

The entities that a DTD declares, in the order of their first declaration, which is the one that
binds. General and parameter entities share the table; the name of a parameter entity carries its
percent sign.
-/

namespace XmlBounds.Dtd

/-- How the text of an entity is obtained. -/
inductive EntityKind where
  | internal (text : String)
  | external (publicId : Option String) (systemId : String) (base : Option String)
  | unparsed (systemId notationName : String)
  deriving DecidableEq, Repr

/-- A declared entity. -/
structure EntityDecl where
  name : String
  kind : EntityKind
  deriving DecidableEq, Repr

namespace EntityDecl

def isParameter (d : EntityDecl) : Bool := isParameterName d.name

def isExternal (d : EntityDecl) : Bool :=
  match d.kind with
  | .external .. => true
  | .internal _ | .unparsed .. => false

end EntityDecl

/-- What a DTD declares. -/
structure EntityTable where
  entities : List EntityDecl
  /-- The names of the declared elements. -/
  elements : List String
  /-- The names of the declared notations. -/
  notations : List String
  deriving DecidableEq, Repr

namespace EntityTable

def empty : EntityTable := ⟨[], [], []⟩

/-- The entity of a name, as it stands in the table. -/
def find? (t : EntityTable) (name : String) : Option EntityDecl :=
  t.entities.find? (·.name = name)

/-- The entity that a general reference names. -/
def general? (t : EntityTable) (name : String) : Option EntityDecl := t.find? name

/-- The entity that a parameter reference names, with or without its percent sign. -/
def parameter? (t : EntityTable) (name : String) : Option EntityDecl :=
  if isParameterName name then t.find? name else t.find? (parameterName name)

def size (t : EntityTable) : Nat := t.entities.length

/-- Adds a declaration, unless its name is declared already. -/
def declare (t : EntityTable) (d : EntityDecl) : EntityTable :=
  if (t.find? d.name).isSome then t else { t with entities := t.entities ++ [d] }

def declOf? : Event → Option EntityDecl
  | .internalEntity name text => some ⟨name, .internal text⟩
  | .externalEntity name publicId systemId base => some ⟨name, .external publicId systemId base⟩
  | .unparsedEntity name _ systemId notationName => some ⟨name, .unparsed systemId notationName⟩
  | _ => none

def handle (t : EntityTable) (e : Event) : EntityTable :=
  match declOf? e with
  | some d => t.declare d
  | none =>
      match e with
      | .element name _ => { t with elements := t.elements ++ [name] }
      | .notationDecl name _ _ => { t with notations := t.notations ++ [name] }
      | _ => t

theorem find?_declare (t : EntityTable) (d : EntityDecl) (name : String) :
    (t.declare d).find? name = (t.find? name).or (if d.name = name then some d else none) := by
  unfold declare
  split
  · next h =>
      by_cases hn : d.name = name
      · subst hn
        obtain ⟨x, hx⟩ := Option.isSome_iff_exists.mp h
        simp [hx]
      · simp [hn]
  · next h =>
      by_cases hn : d.name = name <;>
        simp [find?, List.find?_append, hn]

/-- A declaration once made is never changed by a later event. -/
theorem find?_handle_of_some {t : EntityTable} {name : String} {d : EntityDecl} (e : Event)
    (h : t.find? name = some d) : (t.handle e).find? name = some d := by
  unfold handle
  split
  · simp [find?_declare, h]
  · split <;> exact h

theorem mem_of_find? {t : EntityTable} {name : String} {d : EntityDecl}
    (h : t.find? name = some d) : d ∈ t.entities ∧ d.name = name := by
  unfold find? at h
  exact ⟨List.mem_of_find?_eq_some h, by simpa using List.find?_some h⟩

end EntityTable

end XmlBounds.Dtd
