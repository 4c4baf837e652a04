import Mathlib.Data.List.Forall2
import XmlBounds.Proofs.Check.Scopes

/-!
# Scopes that lose a namespace

If fewer prefixes stand for XML Schema, a check that goes through still does: fewer elements are
held to the limit of occurrences, and nothing else depends on the scopes.
-/

namespace XmlBounds

namespace Markup

/-- The scopes agree about every prefix, except that it may no longer stand for XML Schema. -/
def Loses (scope scope' : List (String × String)) : Prop :=
  ∀ pre, scope'.lookup pre = scope.lookup pre ∨
    ∃ uri, scope'.lookup pre = some uri ∧ uri ≠ schemaNamespace

theorem Loses.refl (scope : List (String × String)) : Loses scope scope := fun _ => .inl rfl

theorem forall₂_loses_refl (scopes : List (List (String × String))) :
    List.Forall₂ Loses scopes scopes := List.forall₂_same.mpr fun scope _ => .refl scope

theorem forall₂_loses_tail {scopes scopes' : List (List (String × String))}
    (h : List.Forall₂ Loses scopes scopes') : List.Forall₂ Loses scopes.tail scopes'.tail := by
  rw [← List.drop_one, ← List.drop_one]
  exact List.forall₂_drop 1 h

theorem namespaceOf?_of_loses {scopes scopes' : List (List (String × String))} {name : String}
    (h : List.Forall₂ Loses scopes scopes')
    (hschema : namespaceOf? scopes' name = some schemaNamespace) :
    namespaceOf? scopes name = some schemaNamespace := by
  unfold namespaceOf? at hschema ⊢
  rw [Option.filter_eq_some_iff] at hschema ⊢
  refine ⟨?_, hschema.2⟩
  replace hschema := hschema.1
  induction h with
  | nil => exact hschema
  | @cons scope scope' scopes scopes' hscope _ ih =>
      rw [List.findSome?_cons] at hschema ⊢
      rcases hscope (prefixOf name) with hsame | ⟨uri, huri, hne⟩
      · rw [hsame] at hschema
        cases hfound : scope.lookup (prefixOf name) with
        | some uri =>
            rw [hfound] at hschema
            exact hschema
        | none =>
            rw [hfound] at hschema
            exact ih hschema
      · rw [huri] at hschema
        exact absurd (Option.some.inj hschema) hne

/-- A declaration that does not name XML Schema takes nothing else away. -/
theorem loses_declarations {first later : List Attribute} {a a' : Attribute}
    (hkey : a'.key = a.key) (hvalue : a'.value ≠ schemaNamespace) :
    Loses (declarations (first ++ a :: later)) (declarations (first ++ a' :: later)) := by
  intro pre
  have hdeclared : a'.declaredPrefix? = a.declaredPrefix? := by
    rw [Attribute.declaredPrefix?, Attribute.declaredPrefix?, hkey]
  induction first with
  | nil =>
      rw [List.nil_append, List.nil_append, lookup_declarations_cons, lookup_declarations_cons,
        hdeclared]
      by_cases hpre : a.declaredPrefix? = some pre
      · exact .inr ⟨a'.value, by rw [if_pos hpre], hvalue⟩
      · exact .inl (by rw [if_neg hpre, if_neg hpre])
  | cons b first ih =>
      rw [List.cons_append, List.cons_append, lookup_declarations_cons, lookup_declarations_cons]
      by_cases hpre : b.declaredPrefix? = some pre
      · exact .inl (by rw [if_pos hpre, if_pos hpre])
      · rw [if_neg hpre, if_neg hpre]
        exact ih

/-- The tag of an element, replaced by another one. -/
def Token.withTag (tag : Tag) : Token → Token
  | .startTag _ => .startTag tag
  | .emptyTag _ => .emptyTag tag
  | t => t

theorem Token.withTag_eq {t : Token} {tag : Tag} (h : t.tag? = some tag) : t.withTag tag = t := by
  cases t with
  | startTag => cases h; rfl
  | emptyTag => cases h; rfl
  | _ => cases h

end Markup

/-! ## Going on in other scopes -/

namespace Checked

variable {ctx : CheckContext} {scopes : List (List (String × String))}

theorem ScopeFree.ok_withScopes {α : Type} {x : Checked α} (hx : ScopeFree x) {p q : Pass} {a : α}
    (h : x p = .ok a q) (scopes : List (List (String × String))) :
    x (p.withScopes scopes) = .ok a (q.withScopes scopes) := by
  have hsame : x (p.withScopes scopes) = shifted (Pass.withScopes scopes) (x p) := hx scopes p
  rw [hsame, h]
  rfl

/-- The tag is admitted wherever the other one is. -/
def AdmittedAs (ctx : CheckContext) (tag tag' : Markup.Tag) : Prop :=
  ∀ depth p q, admitElement ctx tag depth p = .ok () q → admitElement ctx tag' depth p = .ok () q

theorem AdmittedAs.scopeElement {tag tag' : Markup.Tag} (h : AdmittedAs ctx tag tag') {depth : Nat}
    {p q : Pass} (hok : scopeElement ctx tag depth p = .ok () q) :
    Checked.scopeElement ctx tag' depth (p.withScopes scopes) =
      .ok () (q.withScopes (Markup.declarations tag'.attributes.attributes :: scopes)) := by
  rw [scopeElement_eq] at hok
  obtain ⟨_, mid, hadmit, hopen⟩ := ok_of_bind hok
  cases hopen
  rw [scopeElement_eq,
    bind_of_ok ((scopeFree_admitElement tag' depth).ok_withScopes (h _ _ _ hadmit) scopes)]
  rfl

theorem AdmittedAs.beforeOccurs {tag tag' : Markup.Tag} (h : AdmittedAs ctx tag tag')
    {t : Markup.Token} (ht : t.tag? = some tag) {p q : Pass}
    (hok : beforeOccurs ctx t p = .ok () q) (scopes : List (List (String × String))) :
    Checked.beforeOccurs ctx (t.withTag tag') (p.withScopes scopes) =
      .ok () (q.withScopes (Markup.declarations tag'.attributes.attributes :: scopes)) := by
  cases t with
  | startTag tag =>
      cases ht
      have hopen : Checked.scopeElement ctx tag (p.depth + 1) { p with depth := p.depth + 1 } =
          .ok () q := hok
      exact h.scopeElement hopen
  | emptyTag tag =>
      cases ht
      have hopen : Checked.scopeElement ctx tag (p.depth + 1) p = .ok () q := hok
      exact h.scopeElement hopen
  | _ => cases ht

/-- Occurrences that pass still do where fewer names are in the namespace of XML Schema. -/
theorem checkOccurs_of_loses {name : String} {attributes attributes' : List Markup.Attribute}
    {p : Pass} (hok : checkOccurs ctx name attributes p = .ok () p)
    (hoccurs : Markup.maxOccurs? attributes' = Markup.maxOccurs? attributes)
    (hloses : List.Forall₂ Markup.Loses p.scopes scopes) :
    checkOccurs ctx name attributes' (p.withScopes scopes) = .ok () (p.withScopes scopes) := by
  unfold checkOccurs at hok ⊢
  rw [hoccurs]
  cases hvalue : Markup.maxOccurs? attributes with
  | none => rfl
  | some value =>
      rw [hvalue] at hok
      simp only [bind_get] at hok ⊢
      by_cases hschema : Markup.namespaceOf? scopes name = some schemaNamespace
      · rw [if_pos (Markup.namespaceOf?_of_loses hloses hschema)] at hok
        have hlost : (p.withScopes scopes).scopes = scopes := rfl
        rw [hlost, if_pos hschema, (eq_none_of_raiseIf hok).1]
        rfl
      · exact if_neg hschema ▸ rfl

/-- The tag can stand for another one in a check that goes through: it is admitted where that is,
says the same of occurrences, and loses at most the namespace of XML Schema. -/
structure StandsFor (ctx : CheckContext) (tag' tag : Markup.Tag) : Prop where
  name : tag'.name = tag.name
  admitted : AdmittedAs ctx tag tag'
  occurs : Markup.maxOccurs? tag'.attributes.attributes =
    Markup.maxOccurs? tag.attributes.attributes
  loses : Markup.Loses (Markup.declarations tag.attributes.attributes)
    (Markup.declarations tag'.attributes.attributes)

theorem StandsFor.refl (tag : Markup.Tag) : StandsFor ctx tag tag :=
  ⟨rfl, fun _ _ _ h => h, rfl, .refl _⟩

theorem StandsFor.exists_checkToken {tag tag' : Markup.Tag} (h : StandsFor ctx tag' tag)
    {t : Markup.Token} (ht : t.tag? = some tag) {p q : Pass} (hok : checkToken ctx t p = .ok () q)
    (hloses : List.Forall₂ Markup.Loses p.scopes scopes) : ∃ scopes',
      checkToken ctx (t.withTag tag') (p.withScopes scopes) = .ok () (q.withScopes scopes') ∧
      List.Forall₂ Markup.Loses q.scopes scopes' := by
  have ht' : (t.withTag tag').tag? = some tag' := by
    cases t with
    | startTag => rfl
    | emptyTag => rfl
    | _ => cases ht
  rw [checkToken_eq ht] at hok
  obtain ⟨_, mid, hbefore, hok⟩ := ok_of_bind hok
  obtain ⟨_, mid', hoccurs, hafter⟩ := ok_of_bind hok
  cases eq_of_checkOccurs hoccurs
  let scopes' := Markup.declarations tag'.attributes.attributes :: scopes
  have hbefore' := h.admitted.beforeOccurs ht hbefore scopes
  have hmid : List.Forall₂ Markup.Loses mid.scopes scopes' := by
    rw [scopes_of_beforeOccurs ht hbefore]
    exact .cons h.loses hloses
  have hoccurs' := checkOccurs_of_loses hoccurs h.occurs hmid
  rw [← h.name] at hoccurs'
  rw [checkToken_eq ht', bind_of_ok hbefore', bind_of_ok hoccurs']
  cases t with
  | startTag =>
      cases hafter
      exact ⟨scopes', rfl, hmid⟩
  | emptyTag =>
      cases hafter
      exact ⟨scopes, rfl, Markup.forall₂_loses_tail hmid⟩
  | _ => cases ht

theorem exists_checkToken {t : Markup.Token} {p q : Pass} (hok : checkToken ctx t p = .ok () q)
    (hloses : List.Forall₂ Markup.Loses p.scopes scopes) : ∃ scopes',
      checkToken ctx t (p.withScopes scopes) = .ok () (q.withScopes scopes') ∧
      List.Forall₂ Markup.Loses q.scopes scopes' := by
  have hfree (hx : ScopeFree (checkToken ctx t)) : ∃ scopes',
      checkToken ctx t (p.withScopes scopes) = .ok () (q.withScopes scopes') ∧
      List.Forall₂ Markup.Loses q.scopes scopes' :=
    ⟨scopes, hx.ok_withScopes hok scopes, by rwa [hx.scopes_eq hok]⟩
  cases t with
  | text content => exact hfree fun scopes => (coversTexts_withScopes scopes).expandText content
  | doctype content =>
      exact hfree fun scopes => (coversTexts_withScopes scopes).checkDoctype content
  | startTag tag => exact (StandsFor.refl tag).exists_checkToken rfl hok hloses
  | emptyTag tag => exact (StandsFor.refl tag).exists_checkToken rfl hok hloses
  | endTag =>
      cases hok
      exact ⟨scopes.tail, rfl, Markup.forall₂_loses_tail hloses⟩
  | ignored =>
      cases hok
      exact ⟨scopes, rfl, hloses⟩

theorem exists_checkTokens {tokens : List Markup.Token} {p q : Pass}
    (hok : checkTokens ctx tokens p = .ok () q)
    (hloses : List.Forall₂ Markup.Loses p.scopes scopes) : ∃ scopes',
      checkTokens ctx tokens (p.withScopes scopes) = .ok () (q.withScopes scopes') ∧
      List.Forall₂ Markup.Loses q.scopes scopes' := by
  -- What is kept from token to token is that scopes were only lost.
  induction tokens generalizing p scopes with
  | nil =>
      cases hok
      exact ⟨scopes, rfl, hloses⟩
  | cons t rest ih =>
      obtain ⟨_, mid, hfirst, hrest⟩ := ok_of_bind hok
      obtain ⟨scopes', hfirst', hloses'⟩ := exists_checkToken hfirst hloses
      obtain ⟨scopes'', hrest', hloses''⟩ := ih hrest hloses'
      exact ⟨scopes'', (bind_of_ok hfirst').trans hrest', hloses''⟩

end Checked

end XmlBounds
