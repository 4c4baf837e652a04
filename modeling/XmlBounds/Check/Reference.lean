import XmlBounds.Check.Pass

/-!
# Expanding general references

The references in text and in attribute values are expanded for their count and their size only;
the replacement text is searched for further references, but not read as markup. An entity that is
open cannot be entered again, so the expansion ends: each text entered leaves fewer entities to
enter.
-/

namespace XmlBounds

/-- A reference that is met in a text. -/
inductive Reference where
  | named (name : String)
  /-- An ampersand without a semicolon after it, in the text. -/
  | unterminated (text : String)
  deriving DecidableEq, Repr

/-- The references in what is left of a text. -/
def referencesFrom (text : String) (s : List Char) : List Reference :=
  match s with
  | [] => []
  | '&' :: rest =>
      match _h : rest.dropWhile (· != ';') with
      | [] => [.unterminated text]
      | _ :: rest' =>
          .named (String.ofList (rest.takeWhile (· != ';'))) :: referencesFrom text rest'
  | _ :: rest => referencesFrom text rest
termination_by s.length
decreasing_by
  · have := (List.dropWhile_sublist (l := rest) (· != ';')).length_le
    rw [_h, List.length_cons] at this
    simp only [List.length_cons]
    omega
  · simp

/-- The references in a text, in order. Nothing follows an unterminated one. -/
def references (text : String) : List Reference := referencesFrom text text.toList

/-- Whether a reference names one of the five predefined entities or a character. -/
def isBuiltIn (name : String) : Bool :=
  name.toList.head? == some '#' || name ∈ ["lt", "gt", "amp", "apos", "quot"]

namespace Dtd.EntityTable

/-- The number of declared entities that are not open. -/
def closedCount (t : EntityTable) (opened : List String) : Nat :=
  t.entities.countP fun d => decide (d.name ∉ opened)

/-- Entering an entity that is not open leaves fewer. -/
theorem closedCount_cons_lt {t : EntityTable} {opened : List String} {name : String}
    {d : EntityDecl} (hd : t.find? name = some d) (h : name ∉ opened) :
    t.closedCount (name :: opened) < t.closedCount opened := by
  obtain ⟨hmem, rfl⟩ := mem_of_find? hd
  unfold closedCount
  generalize t.entities = entities at hmem
  induction entities with
  | nil => simp at hmem
  | cons e entities ih =>
      have hle : entities.countP (fun x => decide (x.name ∉ d.name :: opened)) ≤
          entities.countP fun x => decide (x.name ∉ opened) :=
        List.countP_mono_left fun x _ hx => by simp_all
      rcases List.mem_cons.mp hmem with rfl | hmem
      · rw [List.countP_cons_of_neg (by simp), List.countP_cons_of_pos (by simpa using h)]
        omega
      · have := ih hmem
        simp only [List.countP_cons]
        by_cases he : e.name ∉ opened
        · split <;> split <;> first | omega | simp_all
        · split <;> split <;> first | omega | simp_all

end Dtd.EntityTable

namespace Checked

/-- What becomes of a reference to an entity that is not declared. External content that was left
out may have declared it. -/
def undeclared (name : String) : Checked Unit := do
  if (← get).skippedExternal then return
  else throw (.markup (.undeclaredEntity name))

theorem undeclared_apply (name : String) (pass : Pass) :
    undeclared name pass =
      if pass.skippedExternal then .ok () pass
      else .error (.markup (.undeclaredEntity name)) pass := by
  unfold undeclared
  rw [bind_get]
  split <;> rfl

/-- Whether an entity is external while external general entities are off. -/
def isLeftAlone (ctx : CheckContext) (decl : Dtd.EntityDecl) : Bool :=
  decl.isExternal && !ctx.isEnabled .externalGeneralEntities

/-- The replacement text of an entity, once its expansion is counted. -/
def replacement (ctx : CheckContext) (name : String) (decl : Dtd.EntityDecl) :
    Checked String := do
  match decl.kind with
  | .internal text =>
      countExpansion ctx .general name decl
      return text
  | .external publicId systemId base =>
      let (text, _) ← fetchEntity ctx .general name decl publicId systemId base
      return text
  | .unparsed .. => throw (.markup (.unparsedEntity name))

/-- Expands references, the given entities being open, the innermost first. -/
def expandAll (ctx : CheckContext) (table : Dtd.EntityTable) (opened : List String)
    (refs : List Reference) : Checked Unit :=
  match refs with
  | [] => return
  | .unterminated text :: _ => throw (.markup (.unterminatedReference text))
  | .named name :: rest => do
      (if isBuiltIn name then pure ()
      else
        match _hd : table.general? name with
        | none => undeclared name
        | some decl =>
            if isLeftAlone ctx decl then pure ()
            else if _ho : name ∈ opened then raiseRecursion ctx opened name
            else do
              let text ← replacement ctx name decl
              expandAll ctx table (name :: opened) (references text))
      expandAll ctx table opened rest
termination_by (table.closedCount opened, refs.length)
decreasing_by
  · exact Prod.Lex.left _ _ (Dtd.EntityTable.closedCount_cons_lt _hd _ho)
  · exact Prod.Lex.right _ (by simp)

/-- Expands the references of a text of the document. -/
def expandText (ctx : CheckContext) (text : String) : Checked Unit := do
  expandAll ctx (← get).table [] (references text)

end Checked

end XmlBounds
