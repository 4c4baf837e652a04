import XmlBounds.Proofs.Check.Independence
import XmlBounds.Proofs.Check.Occurrences
import XmlBounds.Proofs.Markup.Places

/-!
# The scopes of open elements

Where an element is checked for its occurrences, the scopes of the pass are the declarations of this
element and of those around it. What a prefix stands for is therefore what its innermost declaration
says; elements that are closed make no difference.
-/

namespace XmlBounds

/-! ## Open elements -/

namespace Markup

/-- Neither opens nor closes an element. -/
def Token.isLeaf : Token → Bool
  | .startTag _ => false
  | .endTag => false
  | _ => true

/-- Every element that is opened is closed in turn. -/
inductive Balanced : List Token → Prop where
  | nil : Balanced []
  | leaf {t : Token} {rest : List Token} : t.isLeaf = true → Balanced rest → Balanced (t :: rest)
  | element {tag : Tag} {inner rest : List Token} : Balanced inner → Balanced rest →
      Balanced (.startTag tag :: inner ++ .endTag :: rest)

/-- The elements that are still open after tokens, the innermost first. -/
inductive OpenAfter : List Token → List Tag → Prop where
  | outside {tokens : List Token} : Balanced tokens → OpenAfter tokens []
  | inside {tokens inner : List Token} {tag : Tag} {opened : List Tag} : OpenAfter tokens opened →
      Balanced inner → OpenAfter (tokens ++ .startTag tag :: inner) (tag :: opened)

/-- The elements that are open after one more token. -/
def Token.nest : List Tag → Token → List Tag
  | opened, .startTag tag => tag :: opened
  | opened, .endTag => opened.tail
  | opened, _ => opened

theorem Token.nest_of_isLeaf {t : Token} (h : t.isLeaf = true) (opened : List Tag) :
    t.nest opened = opened := by
  cases t with
  | startTag => cases h
  | endTag => cases h
  | _ => rfl

theorem Balanced.append {tokens rest : List Token} (h : Balanced tokens) (hrest : Balanced rest) :
    Balanced (tokens ++ rest) := by
  induction h with
  | nil => exact hrest
  | leaf ht _ ih => exact .leaf ht ih
  | @element tag inner later hinner _ _ ih =>
      rw [List.append_assoc, List.cons_append]
      exact .element hinner ih

theorem Balanced.foldl_nest {tokens : List Token} (h : Balanced tokens) (opened : List Tag) :
    tokens.foldl Token.nest opened = opened := by
  induction h generalizing opened with
  | nil => rfl
  | leaf ht _ ih => rw [List.foldl_cons, Token.nest_of_isLeaf ht, ih]
  | @element tag inner rest _ _ ihinner ih =>
      rw [List.foldl_append, List.foldl_cons, List.foldl_cons, ihinner, ih]
      rfl

/-- What is open is found by going through the tokens. -/
theorem OpenAfter.foldl_nest {tokens : List Token} {opened : List Tag} (h : OpenAfter tokens opened)
    (outer : List Tag) : tokens.foldl Token.nest outer = opened ++ outer := by
  induction h with
  | outside hbalanced => exact hbalanced.foldl_nest outer
  | inside _ hinner ih =>
      rw [List.foldl_append, ih, List.foldl_cons, hinner.foldl_nest]
      rfl

theorem OpenAfter.append {tokens rest : List Token} {opened : List Tag}
    (h : OpenAfter tokens opened) (hrest : Balanced rest) : OpenAfter (tokens ++ rest) opened := by
  cases h with
  | outside hbalanced => exact .outside (hbalanced.append hrest)
  | inside houter hinner =>
      rw [List.append_assoc, List.cons_append]
      exact .inside houter (hinner.append hrest)

/-- How many elements are open before a token and after it. -/
inductive Token.Turns : Token → Nat → Nat → Prop where
  | opens {tag : Tag} {n : Nat} : Turns (.startTag tag) n (n + 1)
  | closes {n : Nat} : Turns .endTag (n + 1) n
  | stays {t : Token} {n : Nat} : t.isLeaf = true → Turns t n n

/-- No more elements are closed than are open. -/
inductive Nested : Nat → List Token → Prop where
  | nil {n : Nat} : Nested n []
  | cons {t : Token} {n m : Nat} {rest : List Token} : t.Turns n m → Nested m rest →
      Nested n (t :: rest)

theorem OpenAfter.next {tokens : List Token} {opened : List Tag} {t : Token} {n : Nat}
    (h : OpenAfter tokens opened) (ht : t.Turns opened.length n) :
    ∃ opened', OpenAfter (tokens ++ [t]) opened' ∧ opened'.length = n := by
  generalize hlength : opened.length = m at ht
  cases ht with
  | opens => exact ⟨_, .inside h .nil, by rw [List.length_cons, hlength]⟩
  | stays hleaf => exact ⟨opened, h.append (.leaf hleaf .nil), hlength⟩
  | closes =>
      cases h with
      | outside => cases hlength
      | @inside outer inner tag opened houter hinner =>
          refine ⟨opened, ?_, by simpa using hlength⟩
          rw [List.append_assoc]
          exact houter.append (.element hinner .nil)

/-- The attribute declares a prefix, or the default namespace, as standing for a text. -/
structure Attribute.Declares (a : Attribute) (pre uri : String) : Prop where
  key : a.key = "xmlns" ∧ pre = "" ∨ a.key = "xmlns:" ++ pre
  value : a.value = uri

/-- What the innermost declaration of a prefix, or of the default namespace, says. -/
inductive Binds (pre : String) : List Tag → String → Prop where
  | here {tag : Tag} {outer : List Tag} {uri : String} {first later : List Attribute}
      {a : Attribute} : tag.attributes.attributes = first ++ a :: later → a.Declares pre uri →
      (∀ b ∈ first, ∀ other, ¬ b.Declares pre other) → Binds pre (tag :: outer) uri
  | outer {tag : Tag} {outer : List Tag} {uri : String} :
      (∀ a ∈ tag.attributes.attributes, ∀ other, ¬ a.Declares pre other) → Binds pre outer uri →
      Binds pre (tag :: outer) uri

/-- A qualified name has a prefix, which is empty if there is no colon. -/
inductive HasPrefix : String → String → Prop where
  | bare {name : String} : ':' ∉ name.toList → HasPrefix name ""
  | qualified {pre rest : String} : ':' ∉ pre.toList → HasPrefix (pre ++ ":" ++ rest) pre

/-- The declarations of open elements. -/
def scopesOf (opened : List Tag) : List (List (String × String)) :=
  opened.map fun tag => declarations tag.attributes.attributes

theorem isPrefixOf_toList {s t : String} : s.toList.isPrefixOf t.toList = true ↔
    t = s ++ String.ofList (t.toList.drop s.toList.length) := by
  rw [List.isPrefixOf_iff_prefix, ← String.toList_inj, String.toList_append, String.toList_ofList]
  exact List.prefix_iff_eq_append.trans eq_comm

theorem Attribute.declares_iff {a : Attribute} {pre uri : String} :
    a.Declares pre uri ↔ a.declaredPrefix? = some pre ∧ a.value = uri := by
  have hkey : a.key = "xmlns" ∧ pre = "" ∨ a.key = "xmlns:" ++ pre ↔
      a.declaredPrefix? = some pre := by
    unfold Attribute.declaredPrefix?
    have hdefault (rest : String) : "xmlns" ≠ "xmlns:" ++ rest := by
      intro heq
      have hchars := congrArg String.toList heq
      rw [String.toList_append] at hchars
      simp at hchars
    split
    · next hkey =>
        rw [hkey]
        simp [hdefault, eq_comm]
    · next hkey =>
        rw [or_iff_right fun h => hkey h.1]
        split
        · next hstarts =>
            have hwhole : a.key = "xmlns:" ++ String.ofList (a.key.toList.drop 6) :=
              isPrefixOf_toList.mp hstarts
            rw [Option.some.injEq]
            constructor
            · intro heq
              exact (String.append_right_inj _).mp (hwhole.symm.trans heq)
            · rintro rfl
              exact hwhole
        · next hstarts =>
            refine iff_of_false (fun heq => hstarts ?_) (fun h => by cases h)
            rw [heq, String.toList_append]
            exact List.isPrefixOf_iff_prefix.mpr (List.prefix_append _ _)
  exact ⟨fun h => ⟨hkey.mp h.key, h.value⟩, fun h => ⟨hkey.mpr h.1, h.2⟩⟩

theorem lookup_declarations_cons (a : Attribute) (rest : List Attribute) (pre : String) :
    (declarations (a :: rest)).lookup pre =
      if a.declaredPrefix? = some pre then some a.value else (declarations rest).lookup pre := by
  unfold declarations
  cases hdeclared : a.declaredPrefix? with
  | none => simp [hdeclared]
  | some other =>
      rw [List.filterMap_cons_some (b := (other, a.value)) (by rw [hdeclared]; rfl),
        List.lookup_cons]
      by_cases heq : pre = other
      · simp [heq]
      · have hne : (pre == other) = false := beq_eq_false_iff_ne.mpr heq
        rw [hne, if_neg (by simpa using Ne.symm heq)]

theorem lookup_declarations_eq_none {attributes : List Attribute} {pre : String} :
    (declarations attributes).lookup pre = none ↔
      ∀ a ∈ attributes, ∀ uri, ¬ a.Declares pre uri := by
  induction attributes with
  | nil => simp [declarations]
  | cons a rest ih =>
      have hhead : (∀ uri, ¬ a.Declares pre uri) ↔ a.declaredPrefix? ≠ some pre := by
        simp [Attribute.declares_iff]
      rw [lookup_declarations_cons, List.forall_mem_cons, ← ih, hhead]
      by_cases hdeclared : a.declaredPrefix? = some pre
      · rw [if_pos hdeclared]
        exact iff_of_false (Option.some_ne_none _) fun h => h.1 hdeclared
      · rw [if_neg hdeclared, and_iff_right hdeclared]

theorem lookup_declarations_eq_some {attributes : List Attribute} {pre uri : String} :
    (declarations attributes).lookup pre = some uri ↔
      ∃ first a later, attributes = first ++ a :: later ∧ a.Declares pre uri ∧
        ∀ b ∈ first, ∀ other, ¬ b.Declares pre other := by
  constructor
  · intro h
    induction attributes with
    | nil => cases h
    | cons a rest ih =>
        rw [lookup_declarations_cons] at h
        split at h
        · next hdeclared =>
            cases h
            exact ⟨[], a, rest, rfl, Attribute.declares_iff.mpr ⟨hdeclared, rfl⟩, by simp⟩
        · next hdeclared =>
            obtain ⟨first, b, later, rfl, hb, hfirst⟩ := ih h
            refine ⟨a :: first, b, later, rfl, hb, List.forall_mem_cons.mpr ⟨?_, hfirst⟩⟩
            exact fun other ha => hdeclared (Attribute.declares_iff.mp ha).1
  · rintro ⟨first, a, later, rfl, ha, hfirst⟩
    obtain ⟨hdeclared, rfl⟩ := Attribute.declares_iff.mp ha
    induction first with
    | nil => rw [List.nil_append, lookup_declarations_cons, if_pos hdeclared]
    | cons b first ih =>
        obtain ⟨hb, hfirst⟩ := List.forall_mem_cons.mp hfirst
        rw [List.cons_append, lookup_declarations_cons, if_neg, ih hfirst]
        exact fun hsame => hb b.value (Attribute.declares_iff.mpr ⟨hsame, rfl⟩)

theorem binds_iff {pre uri : String} {opened : List Tag} :
    Binds pre opened uri ↔ (scopesOf opened).findSome? (·.lookup pre) = some uri := by
  constructor
  · intro h
    induction h with
    | here hattributes ha hfirst =>
        have hlookup := lookup_declarations_eq_some.mpr ⟨_, _, _, hattributes, ha, hfirst⟩
        simp [scopesOf, hlookup]
    | outer hnone _ ih =>
        have hlookup := lookup_declarations_eq_none.mpr hnone
        simpa [scopesOf, hlookup] using ih
  · intro h
    induction opened with
    | nil => cases h
    | cons tag outer ih =>
        rw [scopesOf, List.map_cons, List.findSome?_cons] at h
        split at h
        · next found hlookup =>
            cases h
            obtain ⟨first, a, later, hattributes, ha, hfirst⟩ :=
              lookup_declarations_eq_some.mp hlookup
            exact .here hattributes ha hfirst
        · next hlookup => exact .outer (lookup_declarations_eq_none.mp hlookup) (ih h)

theorem hasPrefix_iff {name pre : String} : HasPrefix name pre ↔ prefixOf name = pre := by
  unfold prefixOf
  constructor
  · intro h
    cases h with
    | bare hno => rw [if_neg hno]
    | @qualified _ rest hno =>
        have hbefore : ∀ c ∈ pre.toList, (c != ':') = true := by
          intro c hc
          rw [bne_iff_ne]
          rintro rfl
          exact hno hc
        rw [if_pos (by simp), String.toList_append, String.toList_append, List.append_assoc,
          List.takeWhile_append_of_pos hbefore]
        simp
  · rintro rfl
    split
    · next hcolon =>
        -- The name is cut at its first colon.
        obtain ⟨before, after, hname, hno⟩ := List.eq_append_cons_of_mem hcolon
        have hcut : name.toList.takeWhile (· != ':') = before := by
          rw [hname, List.takeWhile_append_of_pos]
          · simp
          · intro c hc
            rw [bne_iff_ne]
            rintro rfl
            exact hno hc
        have hwhole : name = String.ofList before ++ ":" ++ String.ofList after := by
          rw [← String.toList_inj, hname]
          simp
        rw [hcut, hwhole]
        exact .qualified (by simpa using hno)
    · next hno => exact .bare hno

/-- The namespace of a name is the text of the innermost declaration of its prefix, if that is not
empty. -/
theorem namespaceOf?_eq_some {opened : List Tag} {name uri : String} :
    namespaceOf? (scopesOf opened) name = some uri ↔
      uri ≠ "" ∧ ∃ pre, HasPrefix name pre ∧ Binds pre opened uri := by
  unfold namespaceOf?
  simp only [hasPrefix_iff, binds_iff, Option.filter_eq_some_iff, decide_eq_true_eq]
  constructor
  · rintro ⟨hfound, hne⟩
    exact ⟨hne, _, rfl, hfound⟩
  · rintro ⟨hne, _, rfl, hfound⟩
    exact ⟨hfound, hne⟩

end Markup

/-! ## Steps that know nothing of scopes -/

def Pass.withScopes (scopes : List (List (String × String))) (p : Pass) : Pass := { p with scopes }

namespace Checked

variable {ctx : CheckContext} {α β : Type}

/-- The computation comes to the same in all scopes, and leaves them as they are. -/
def ScopeFree (x : Checked α) : Prop :=
  ∀ scopes, (commuting (Pass.withScopes scopes)).Always x

theorem ScopeFree.bind {x : Checked α} {f : α → Checked β} (hx : ScopeFree x)
    (hf : ∀ a, ScopeFree (f a)) : ScopeFree (x >>= f) :=
  fun scopes => (hx scopes).bind fun a => hf a scopes

theorem scopeFree_modify {f : Pass → Pass}
    (hf : ∀ scopes p, f (p.withScopes scopes) = (f p).withScopes scopes) :
    ScopeFree (modify f) := fun scopes p => congrArg (EStateM.Result.ok PUnit.unit) (hf scopes p)

theorem scopeFree_accounted (x : Accounted α) : ScopeFree (accounted x) := by
  intro scopes p
  have hgoal : accounted x (p.withScopes scopes) =
      shifted (Pass.withScopes scopes) (accounted x p) := by
    simp only [accounted, Accounted.within, Pass.withScopes]
    cases x p.ledger <;> rfl
  exact hgoal

theorem scopeFree_dispatch (e : Dtd.Event) : ScopeFree (dispatch ctx e) := by
  refine (scopeFree_accounted _).bind fun out scopes => ?_
  cases out with
  | none => exact Judgement.always_pure _
  | some e' => exact scopeFree_modify (fun _ _ => rfl) scopes

theorem scopeFree_countExpansion (kind : ReferenceKind) (name : String) (d : Dtd.EntityDecl) :
    ScopeFree (countExpansion ctx kind name d) := by
  intro scopes p
  exact ((scopeFree_accounted _).bind fun _ => scopeFree_accounted _) scopes
    { p with expansions := p.expansions + 1 }

theorem coversTexts_withScopes (scopes : List (List (String × String))) :
    (commuting (Pass.withScopes scopes)).CoversTexts ctx where
  entities := by
    rintro p _ rfl
    exact ⟨rfl, rfl⟩
  raise _ := scopeFree_accounted _ scopes
  dispatch e := scopeFree_dispatch e scopes
  expansion _ _ := scopeFree_countExpansion _ _ _ scopes
  entity _ _ _ _ _ :=
    ((scopeFree_countExpansion _ _ _).bind fun _ => scopeFree_accounted _) scopes
  subset _ _ _ := scopeFree_accounted _ scopes
  skip := scopeFree_modify (fun _ _ => rfl) scopes
  root _ := scopeFree_modify (fun _ _ => rfl) scopes

/-- What is done for an element before its declarations come into scope. -/
def admitElement (ctx : CheckContext) (tag : Markup.Tag) (depth : Nat) : Checked Unit := do
  countElement ctx tag.name depth
  let list := tag.attributes
  expandValues ctx list.attributes
  refuse tag.name list.fault
  raiseIf ctx (ctx.policy.checkAttributes tag.name list.attributes.length)

theorem scopeFree_countElement (name : String) (depth : Nat) :
    ScopeFree (countElement ctx name depth) :=
  (scopeFree_modify fun _ _ => rfl).bind fun _ => scopeFree_accounted _

theorem scopeFree_admitElement (tag : Markup.Tag) (depth : Nat) :
    ScopeFree (admitElement ctx tag depth) :=
  (scopeFree_countElement _ _).bind fun _ =>
    ScopeFree.bind (fun scopes => (coversTexts_withScopes scopes).expandValues _) fun _ =>
    ScopeFree.bind (fun _ => Judgement.CoversTexts.refuse _ _) fun _ => scopeFree_accounted _

theorem ScopeFree.scopes_eq {x : Checked α} (hx : ScopeFree x) {p q : Pass} {a : α}
    (h : x p = .ok a q) : q.scopes = p.scopes := by
  have hsame : x (p.withScopes p.scopes) = shifted (Pass.withScopes p.scopes) (x p) := hx _ p
  have hp : p.withScopes p.scopes = p := rfl
  rw [hp, h] at hsame
  have hq : q = q.withScopes p.scopes := by injection hsame
  rw [hq]
  rfl

/-! ## The scopes of a pass -/

open Markup (scopesOf OpenAfter)

theorem scopeElement_eq (tag : Markup.Tag) (depth : Nat) :
    scopeElement ctx tag depth = admitElement ctx tag depth >>= fun _ =>
      modify fun pass =>
        { pass with scopes := Markup.declarations tag.attributes.attributes :: pass.scopes } := by
  simp only [scopeElement, admitElement, bind_assoc]

theorem scopes_of_scopeElement {tag : Markup.Tag} {depth : Nat} {p q : Pass}
    (h : scopeElement ctx tag depth p = .ok () q) :
    q.scopes = Markup.declarations tag.attributes.attributes :: p.scopes := by
  rw [scopeElement_eq] at h
  obtain ⟨_, mid, hadmit, hopen⟩ := ok_of_bind h
  cases hopen
  exact congrArg (Markup.declarations tag.attributes.attributes :: ·)
    ((scopeFree_admitElement tag depth).scopes_eq hadmit)

theorem scopes_of_beforeOccurs {t : Markup.Token} {tag : Markup.Tag} {p q : Pass}
    (ht : t.tag? = some tag) (h : beforeOccurs ctx t p = .ok () q) :
    q.scopes = Markup.declarations tag.attributes.attributes :: p.scopes := by
  cases t with
  | startTag tag' =>
      cases ht
      exact scopes_of_scopeElement (p := { p with depth := p.depth + 1 }) h
  | emptyTag tag' =>
      cases ht
      exact scopes_of_scopeElement (p := p) h
  | _ => cases ht

/-- A check of occurrences that goes through leaves the pass as it is. -/
theorem eq_of_checkOccurs {name : String} {attributes : List Markup.Attribute} {p q : Pass}
    (h : checkOccurs ctx name attributes p = .ok () q) : q = p := by
  unfold checkOccurs at h
  cases hoccurs : Markup.maxOccurs? attributes with
  | none =>
      rw [hoccurs] at h
      cases h
      rfl
  | some value =>
      rw [hoccurs] at h
      simp only [bind_get] at h
      split at h
      · exact (eq_none_of_raiseIf h).2
      · cases h
        rfl

/-- A token opens and closes scopes just as it opens and closes elements. -/
theorem scopes_of_checkToken {t : Markup.Token} {opened : List Markup.Tag} {p q : Pass}
    (h : checkToken ctx t p = .ok () q) (hp : p.scopes = scopesOf opened) :
    q.scopes = scopesOf (t.nest opened) := by
  have htag {tag : Markup.Tag} (ht : t.tag? = some tag) : ∃ mid : Pass,
      mid.scopes = scopesOf (tag :: opened) ∧ afterOccurs t mid = .ok () q := by
    rw [checkToken_eq ht] at h
    obtain ⟨_, mid, hbefore, h⟩ := ok_of_bind h
    obtain ⟨_, mid', hoccurs, hafter⟩ := ok_of_bind h
    cases eq_of_checkOccurs hoccurs
    exact ⟨mid, by rw [scopes_of_beforeOccurs ht hbefore, hp]; rfl, hafter⟩
  cases t with
  | text content =>
      have hfree : ScopeFree (expandText ctx content) :=
        fun scopes => (coversTexts_withScopes scopes).expandText content
      rw [hfree.scopes_eq h, hp]
      rfl
  | doctype content =>
      have hfree : ScopeFree (checkDoctype ctx content) :=
        fun scopes => (coversTexts_withScopes scopes).checkDoctype content
      rw [hfree.scopes_eq h, hp]
      rfl
  | startTag tag =>
      obtain ⟨mid, hmid, hafter⟩ := htag rfl
      cases hafter
      exact hmid
  | emptyTag tag =>
      obtain ⟨mid, hmid, hafter⟩ := htag rfl
      cases hafter
      simp only [hmid]
      rfl
  | endTag =>
      cases h
      simp only [hp, scopesOf, Markup.Token.nest, List.map_tail]
  | ignored =>
      cases h
      exact hp

theorem scopes_of_checkTokens {tokens : List Markup.Token} {opened : List Markup.Tag} {p q : Pass}
    (h : checkTokens ctx tokens p = .ok () q) (hp : p.scopes = scopesOf opened) :
    q.scopes = scopesOf (tokens.foldl Markup.Token.nest opened) := by
  induction tokens generalizing opened p with
  | nil =>
      cases h
      exact hp
  | cons t rest ih =>
      obtain ⟨_, mid, hfirst, hrest⟩ := ok_of_bind h
      exact ih hrest (scopes_of_checkToken hfirst hp)

/-- A check has come to where it is decided whether the occurrences of an element are looked at,
with nothing at fault before; the tokens before and after that of the element are given. -/
structure ComesTo (ctx : CheckContext) (document : Markup.Document) (ledger : Ledger)
    (before : List Markup.Token) (t : Markup.Token) (after : List Markup.Token)
    (tag : Markup.Tag) (pass : Pass) : Prop where
  tokens : document.tokens = before ++ t :: after
  isTag : t.tag? = some tag
  comes : (do
    checkTokens ctx before
    beforeOccurs ctx t) (.start ledger) = .ok () pass

namespace ComesTo

variable {document : Markup.Document} {ledger : Ledger} {before after : List Markup.Token}
  {t : Markup.Token} {tag : Markup.Tag} {pass : Pass}

theorem scopes_eq (h : ComesTo ctx document ledger before t after tag pass) :
    pass.scopes = scopesOf (tag :: before.foldl Markup.Token.nest []) := by
  obtain ⟨_, mid, hbefore, ht⟩ := ok_of_bind h.comes
  have hmid : mid.scopes = scopesOf (before.foldl Markup.Token.nest []) :=
    scopes_of_checkTokens hbefore rfl
  rw [scopes_of_beforeOccurs h.isTag ht, hmid]
  rfl

/-- What is left to do is to look at the occurrences, and to go on. -/
theorem checkDocument_eq (h : ComesTo ctx document ledger before t after tag pass) :
    checkDocument ctx document (.start ledger) = (do
      checkOccurs ctx tag.name tag.attributes.attributes
      afterOccurs t
      checkDocument ctx { document with tokens := after }) pass := by
  rw [checkDocument, h.tokens, checkTokens_append, checkTokens, checkToken_eq h.isTag]
  simp only [bind_assoc]
  rw [← bind_assoc, bind_of_ok h.comes]
  rfl

end ComesTo

/-- Nothing is at fault with the tag of an element at a depth, nor is there anything to expand. -/
structure IsSound (ctx : CheckContext) (tag : Markup.Tag) (depth : Nat) : Prop where
  depth : ctx.policy.checkDepth tag.name depth = none
  values : ∀ a ∈ tag.attributes.attributes, references a.value = []
  fault : tag.attributes.fault = none
  number : ctx.policy.checkAttributes tag.name tag.attributes.attributes.length = none

theorem IsSound.scopeElement_eq {tag : Markup.Tag} {depth : Nat} (h : IsSound ctx tag depth)
    (p : Pass) : scopeElement ctx tag depth p = .ok () { p with
      elements := p.elements + 1
      maxDepth := max p.maxDepth depth
      scopes := Markup.declarations tag.attributes.attributes :: p.scopes } := by
  let counted : Pass := { p with elements := p.elements + 1, maxDepth := max p.maxDepth depth }
  have hadmit : countElement ctx tag.name depth p = .ok () counted := by
    unfold countElement
    rw [h.depth]
    rfl
  have hexpand : expandValues ctx tag.attributes.attributes counted = .ok () counted :=
    expandValues_of_references_nil h.values counted
  unfold scopeElement
  rw [bind_of_ok hadmit]
  simp only [h.fault, h.number]
  rw [bind_of_ok hexpand]
  rfl

end Checked

namespace Scopes

end Scopes

end XmlBounds
