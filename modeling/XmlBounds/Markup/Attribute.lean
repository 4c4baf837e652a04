import XmlBounds.Markup.Token

/-!
# The attributes of a tag

After the name of a tag stand attributes: a key, an equals sign that may have blanks around it, and
a value in quotes. Values stay as they are written. Reading stops at the first fault.
-/

namespace XmlBounds.Markup

/-- An attribute as it is written. -/
structure Attribute where
  key : String
  value : String
  deriving DecidableEq, Repr

/-- The attributes before the end of a tag or its first fault. -/
structure AttributeList where
  attributes : List Attribute
  fault : Option AttributeFault
  deriving DecidableEq, Repr

/-- The list with an attribute in front. -/
def AttributeList.cons (a : Attribute) (l : AttributeList) : AttributeList :=
  { l with attributes := a :: l.attributes }

/-- A place in the text of attributes. -/
structure AttributeCursor where
  rest : List Char
  position : Nat
  deriving DecidableEq, Repr

namespace AttributeCursor

/-- The place before the first character that fails a test, and what was passed. -/
def passWhile (test : Char → Bool) (c : AttributeCursor) : List Char × AttributeCursor :=
  let passed := c.rest.takeWhile test
  (passed, ⟨c.rest.drop passed.length, c.position + Text.byteLength passed⟩)

/-- The place after the blanks that stand here. -/
def afterSpace (c : AttributeCursor) : AttributeCursor := (c.passWhile Text.isSpace).2

theorem length_passWhile (test : Char → Bool) (c : AttributeCursor) :
    (c.passWhile test).2.rest.length ≤ c.rest.length := by simp [passWhile]

theorem length_afterSpace (c : AttributeCursor) : c.afterSpace.rest.length ≤ c.rest.length :=
  c.length_passWhile _

end AttributeCursor

/-- Whether a character goes on with a key. Only the first one may be an equals sign. -/
def isKeyChar (c : Char) : Bool := !(c == '=' || Text.isSpace c)

/-- Reads a key, which begins with the given character: the key, and the place after its equals
sign. -/
def readKey (first : Char) (c : AttributeCursor) :
    Except AttributeFault (String × AttributeCursor) :=
  let (more, c) := c.passWhile isKeyChar
  let c := c.afterSpace
  match c.rest with
  | '=' :: rest => .ok (String.ofList (first :: more), ⟨rest, c.position + 1⟩)
  | _ => .error (.expectedEquals c.position)

/-- Reads a value: the text between quotes, and the place after it. -/
def readValue (c : AttributeCursor) : Except AttributeFault (String × AttributeCursor) :=
  let c := c.afterSpace
  match c.rest with
  | [] => .error (.expectedValue c.position)
  | quote :: rest =>
      if quote = '"' ∨ quote = '\'' then
        let (value, c) := AttributeCursor.passWhile (· != quote) ⟨rest, c.position + 1⟩
        match c.rest with
        | [] => .error (.unclosedValue c.position quote)
        | _ :: rest => .ok (String.ofList value, ⟨rest, c.position + 1⟩)
      else .error (.unquotedValue c.position)

theorem length_readKey {first : Char} {c c' : AttributeCursor} {key : String}
    (h : readKey first c = .ok (key, c')) : c'.rest.length < c.rest.length := by
  unfold readKey at h
  have h1 := c.length_passWhile isKeyChar
  have h2 := (c.passWhile isKeyChar).2.length_afterSpace
  simp only at h
  split at h
  · next rest hr =>
      simp only [Except.ok.injEq, Prod.mk.injEq] at h
      rw [← h.2]
      simp only [hr, List.length_cons] at h2
      simp only
      omega
  · simp at h

theorem length_readValue {c c' : AttributeCursor} {value : String}
    (h : readValue c = .ok (value, c')) : c'.rest.length < c.rest.length := by
  unfold readValue at h
  have h1 := c.length_afterSpace
  simp only at h
  split at h
  · simp at h
  · next quote rest hq =>
      rw [hq, List.length_cons] at h1
      have h2 := AttributeCursor.length_passWhile (· != quote) ⟨rest, c.afterSpace.position + 1⟩
      split at h
      · split at h
        · simp at h
        · next r hr =>
            simp only [Except.ok.injEq, Prod.mk.injEq] at h
            rw [← h.2]
            simp only [hr, List.length_cons] at h2
            simp only
            omega
      · simp at h

/-- Reads on from a place, the earlier keys being known with their positions. A key that is there
already is a fault before its value is. -/
def attributesFrom (known : List (String × Nat)) (c : AttributeCursor) : AttributeList :=
  match _hr : c.afterSpace.rest with
  | [] => ⟨[], none⟩
  | first :: rest =>
      let start := c.afterSpace.position
      match _hk : readKey first ⟨rest, start + first.utf8Size⟩ with
      | .error fault => ⟨[], some fault⟩
      | .ok (key, c1) =>
          match known.lookup key with
          | some earlier => ⟨[], some (.duplicated start earlier)⟩
          | none =>
              match _hv : readValue c1 with
              | .error fault => ⟨[], some fault⟩
              | .ok (value, c2) =>
                  (attributesFrom (known ++ [(key, start)]) c2).cons ⟨key, value⟩
termination_by c.rest.length
decreasing_by
  have h1 := c.length_afterSpace
  have h2 := length_readKey _hk
  have h3 := length_readValue _hv
  rw [_hr, List.length_cons] at h1
  simp only at h2
  omega

/-- The attributes of a tag. Positions count from the tag's name. -/
def Tag.attributes (t : Tag) : AttributeList :=
  attributesFrom [] ⟨t.attributeText, Text.byteLength t.name.toList⟩

end XmlBounds.Markup
