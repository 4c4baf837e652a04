import Mathlib.Data.List.Induction
import XmlBounds.Proofs.Check.Scopes
import XmlBounds.Proofs.Markup.Respelling

/-!
# How a document is spelled

A value is taken as it is written: a character that is spelled as a reference counts as the
characters of the reference. So a document that is refused for its occurrences may pass in another
spelling, but only if that is a spelling of what the refused element says of occurrences, or of the
declaration that its prefix hangs on.
-/

namespace XmlBounds

/-! ## Who speaks of occurrences -/

/-- What was reported meanwhile says something of occurrences. -/
def Ledger.TellsOccurs (l l' : Ledger) : Prop :=
  ∃ new, l'.reports = l.reports ++ new ∧ ∃ report ∈ new, report.diagnostic.key = .maxOccurs

theorem Ledger.TellsOccurs.not_silentOn {l l' : Ledger} (h : l.TellsOccurs l') :
    ¬ l.SilentOn .maxOccurs l' := by
  rintro ⟨new', hnew', hsilent⟩
  obtain ⟨new, hnew, report, hmem, hkey⟩ := h
  obtain rfl := List.append_cancel_left (hnew.symm.trans hnew')
  exact hsilent report hmem hkey

/-- Nothing is reported of occurrences. -/
def silent : Outcomes Ledger where
  success := Ledger.SilentOn .maxOccurs
  failure _ := Ledger.SilentOn .maxOccurs

instance : silent.Composes where
  refl _ := .of_eq rfl
  trans := .trans
  stop _ _ := .of_eq rfl
  after := .trans

namespace Checked

variable {ctx : CheckContext}

theorem coversSteps_silent : silent.judgement.CoversSteps ctx :=
  Outcomes.coversSteps .of_eq (fun l hd => .of_report hd.2 l) (fun _ _ _ => .of_eq rfl) fun _ => id

/-- What is not about occurrences does not speak of them. -/
def Silent {α : Type} (x : Checked α) : Prop :=
  (silent.along fun p : Pass => p.ledger).judgement.Always x

theorem coversTexts_silent : (silent.along fun p : Pass => p.ledger).judgement.CoversTexts ctx where
  entities := by
    rintro p _ rfl
    exact ⟨rfl, rfl⟩
  raise hd := Outcomes.liftsTo.accounted (Outcomes.always_raise (.of_report hd))
  dispatch := coversSteps_silent.dispatch Outcomes.liftsTo
  expansion _ _ := coversSteps_silent.countExpansion Outcomes.liftsTo _ _ _
  entity _ _ := coversSteps_silent.fetchEntity Outcomes.liftsTo _ _ _
  subset _ _ _ := Outcomes.liftsTo.accounted (coversSteps_silent.fetch _ _)
  skip := Outcomes.liftsTo.aside fun _ _ => rfl
  root _ := Outcomes.liftsTo.aside fun _ _ => rfl

theorem silent_scopeElement (tag : Markup.Tag) (depth : Nat) :
    Silent (scopeElement ctx tag depth) := by
  refine (coversSteps_silent.countElement Outcomes.liftsTo _ _).bind fun _ =>
    (coversTexts_silent.expandValues _).bind fun _ =>
    (Judgement.CoversTexts.refuse _ _).bind fun _ =>
    (coversSteps_silent.raiseIf Outcomes.liftsTo ?_).bind fun _ =>
    Outcomes.liftsTo.aside fun _ _ => rfl
  intro d hd
  unfold Policy.checkAttributes at hd
  split at hd
  · cases hd
    exact ⟨nofun, nofun⟩
  · cases hd

theorem silent_beforeOccurs (t : Markup.Token) : Silent (beforeOccurs ctx t) := by
  cases t with
  | startTag tag =>
      refine Judgement.Always.bind (Outcomes.liftsTo.aside fun _ _ => rfl) fun _ => ?_
      exact Judgement.always_read (fun _ _ halike => by rw [halike])
        fun _ => silent_scopeElement _ _
  | emptyTag tag =>
      exact Judgement.always_read (fun _ _ halike => by rw [halike])
        fun _ => silent_scopeElement _ _
  | _ => exact Judgement.always_pure _

theorem silent_afterOccurs (t : Markup.Token) : Silent (afterOccurs t) := by
  cases t with
  | emptyTag tag => exact Outcomes.liftsTo.aside fun _ _ => rfl
  | _ => exact Judgement.always_pure _

/-- What does not belong to the tag of an element does not speak of occurrences. -/
theorem silent_checkToken {t : Markup.Token} (ht : t.tag? = none) : Silent (checkToken ctx t) := by
  cases t with
  | text content => exact coversTexts_silent.expandText content
  | doctype content => exact coversTexts_silent.checkDoctype content
  | startTag tag => cases ht
  | emptyTag tag => cases ht
  | endTag =>
      exact Judgement.Always.bind (Outcomes.liftsTo.aside fun _ _ => rfl) fun _ =>
        Outcomes.liftsTo.aside fun _ _ => rfl
  | ignored => exact Judgement.always_pure _

/-- A check has come to what an element of XML Schema says of occurrences, and it is too much. -/
structure RefusesOccurs (ctx : CheckContext) (document : Markup.Document) (ledger : Ledger)
    (before : List Markup.Token) (t : Markup.Token) (after : List Markup.Token)
    (tag : Markup.Tag) (pass : Pass) : Prop
    extends ComesTo ctx document ledger before t after tag pass where
  inSchema : Markup.namespaceOf? pass.scopes tag.name = some schemaNamespace
  tooMany : ∃ value, ⟨"maxOccurs", value⟩ ∈ tag.attributes.attributes ∧
    ctx.policy.checkOccursText (Text.trimmed value) ≠ none

theorem tooMany_of_checkOccurs {name : String} {attributes : List Markup.Attribute} {fault : Fault}
    {p q : Pass} (h : checkOccurs ctx name attributes p = .error fault q) :
    Markup.namespaceOf? p.scopes name = some schemaNamespace ∧
      ∃ value, ⟨"maxOccurs", value⟩ ∈ attributes ∧
        ctx.policy.checkOccursText (Text.trimmed value) ≠ none := by
  unfold checkOccurs at h
  cases hoccurs : Markup.maxOccurs? attributes with
  | none =>
      rw [hoccurs] at h
      cases h
  | some value =>
      rw [hoccurs] at h
      simp only [bind_get] at h
      obtain ⟨a, ha, rfl⟩ := Option.map_eq_some_iff.mp hoccurs
      have hkey : a.key = "maxOccurs" := by simpa using List.find?_some ha
      split at h
      · next hschema =>
          refine ⟨hschema, a.value, hkey ▸ List.mem_of_find?_eq_some ha, fun hnone => ?_⟩
          rw [hnone] at h
          cases h
      · cases h

theorem silentOn_of_checkToken {t : Markup.Token} {p q : Pass} (h : checkToken ctx t p = .ok () q) :
    p.ledger.SilentOn .maxOccurs q.ledger := by
  cases htag : t.tag? with
  | none => exact (silent_checkToken htag p).1 h
  | some tag =>
      rw [checkToken_eq htag] at h
      obtain ⟨_, mid, hbefore, h⟩ := ok_of_bind h
      obtain ⟨_, mid', hoccurs, hafter⟩ := ok_of_bind h
      cases eq_of_checkOccurs hoccurs
      exact ((silent_beforeOccurs t p).1 hbefore).trans ((silent_afterOccurs t mid).1 hafter)

theorem silentOn_of_checkTokens {tokens : List Markup.Token} {p q : Pass}
    (h : checkTokens ctx tokens p = .ok () q) : p.ledger.SilentOn .maxOccurs q.ledger := by
  induction tokens generalizing p with
  | nil =>
      cases h
      exact .of_eq rfl
  | cons t rest ih =>
      obtain ⟨_, mid, hfirst, hrest⟩ := ok_of_bind h
      exact (silentOn_of_checkToken hfirst).trans (ih hrest)

theorem ComesTo.silentOn {document : Markup.Document} {ledger : Ledger}
    {before after : List Markup.Token} {t : Markup.Token} {tag : Markup.Tag} {pass : Pass}
    (h : ComesTo ctx document ledger before t after tag pass) :
    ledger.SilentOn .maxOccurs pass.ledger := by
  obtain ⟨_, mid, hbefore, ht⟩ := ok_of_bind h.comes
  exact (silentOn_of_checkTokens hbefore).trans ((silent_beforeOccurs t mid).1 ht)

/-- A check that fails and speaks of occurrences has failed at those of an element. -/
theorem exists_refused {tokens : List Markup.Token} {fault : Fault} {p q : Pass}
    (h : checkTokens ctx tokens p = .error fault q)
    (hnot : ¬ p.ledger.SilentOn .maxOccurs q.ledger) :
    ∃ before t after tag mid, tokens = before ++ t :: after ∧ t.tag? = some tag ∧
      (do
        checkTokens ctx before
        beforeOccurs ctx t) p = .ok () mid ∧
      checkOccurs ctx tag.name tag.attributes.attributes mid = .error fault q := by
  induction tokens generalizing p with
  | nil => cases h
  | cons t rest ih =>
      rw [checkTokens] at h
      -- Of the first token, only the occurrences of its element can speak of occurrences.
      rcases error_of_bind h with hfails | ⟨_, mid, hfirst, hrest⟩
      · cases htag : t.tag? with
        | none => exact absurd ((silent_checkToken htag p).2 hfails) hnot
        | some tag =>
            rw [checkToken_eq htag] at hfails
            rcases error_of_bind hfails with hfails | ⟨_, mid, hbefore, hfails⟩
            · exact absurd ((silent_beforeOccurs t p).2 hfails) hnot
            rcases error_of_bind hfails with hfails | ⟨_, mid', hoccurs, hfails⟩
            · exact ⟨[], t, rest, tag, mid, rfl, htag, hbefore, hfails⟩
            · cases eq_of_checkOccurs hoccurs
              have hmid := (silent_beforeOccurs t p).1 hbefore
              exact absurd (hmid.trans ((silent_afterOccurs t mid).2 hfails)) hnot
      · obtain ⟨before, t', after, tag, mid', rfl, htag, hcomes, hfails⟩ :=
          ih hrest fun hlater => hnot ((silentOn_of_checkToken hfirst).trans hlater)
        refine ⟨t :: before, t', after, tag, mid', rfl, htag, ?_, hfails⟩
        rw [checkTokens, bind_assoc, bind_of_ok hfirst]
        exact hcomes

theorem exists_refusesOccurs {document : Markup.Document} {ledger : Ledger} {fault : Fault}
    {q : Pass} (h : checkDocument ctx document (.start ledger) = .error fault q)
    (htells : ledger.TellsOccurs q.ledger) :
    ∃ before t after tag pass, RefusesOccurs ctx document ledger before t after tag pass := by
  rcases error_of_bind h with hfails | ⟨_, mid, hok, hfails⟩
  · obtain ⟨before, t, after, tag, pass, htokens, htag, hcomes, hoccurs⟩ :=
      exists_refused hfails htells.not_silentOn
    obtain ⟨hschema, hmany⟩ := tooMany_of_checkOccurs hoccurs
    exact ⟨before, t, after, tag, pass, ⟨htokens, htag, hcomes⟩, hschema, hmany⟩
  · have hsilent := silentOn_of_checkTokens hok
    cases hfault : document.fault with
    | none =>
        rw [hfault] at hfails
        cases hfails
    | some =>
        rw [hfault] at hfails
        cases hfails
        exact absurd hsilent htells.not_silentOn

/-- A check that goes through comes to every element, and finds nothing there. -/
theorem occurs_of_ok {before after : List Markup.Token} {t : Markup.Token} {tag : Markup.Tag}
    {p q : Pass} (h : checkTokens ctx (before ++ t :: after) p = .ok () q)
    (ht : t.tag? = some tag) : ∃ mid,
      (do
        checkTokens ctx before
        beforeOccurs ctx t) p = .ok () mid ∧
      checkOccurs ctx tag.name tag.attributes.attributes mid = .ok () mid := by
  rw [checkTokens_append, checkTokens, checkToken_eq ht] at h
  simp only [bind_assoc] at h
  obtain ⟨_, p', hfirst, h⟩ := ok_of_bind h
  obtain ⟨_, mid, hbefore, h⟩ := ok_of_bind h
  obtain ⟨_, mid', hoccurs, -⟩ := ok_of_bind h
  cases eq_of_checkOccurs hoccurs
  exact ⟨mid, (bind_of_ok hfirst).trans hbefore, hoccurs⟩

theorem checkOccursText_of_ok {tag : Markup.Tag} {value : String} {p q : Pass}
    (h : checkOccurs ctx tag.name tag.attributes.attributes p = .ok () q)
    (hvalue : ⟨"maxOccurs", value⟩ ∈ tag.attributes.attributes)
    (hschema : Markup.namespaceOf? p.scopes tag.name = some schemaNamespace) :
    ctx.policy.checkOccursText (Text.trimmed value) = none := by
  rw [checkOccurs, Markup.maxOccurs?_of_mem hvalue] at h
  simp only [bind_get, if_pos hschema] at h
  exact (eq_none_of_raiseIf h).1

end Checked

/-! ## What decides -/

namespace Markup

/-- Either the element whose tag comes before is still open, or it no longer matters what its tag
was. -/
theorem openAfter_or_closed (tokens : List Token) :
    (∃ inner, OpenAfter tokens inner) ∨ ∀ tag tag' outer,
      tokens.foldl Token.nest (tag :: outer) = tokens.foldl Token.nest (tag' :: outer) := by
  induction tokens using List.reverseRecOn with
  | nil => exact .inl ⟨[], .outside .nil⟩
  | append_singleton tokens t ih =>
      rcases ih with ⟨inner, hinner⟩ | hclosed
      · have hnext {n : Nat} (ht : t.Turns inner.length n) :
            ∃ inner, OpenAfter (tokens ++ [t]) inner :=
          (hinner.next ht).imp fun _ h => h.1
        cases t with
        | startTag => exact .inl (hnext .opens)
        | endTag =>
            cases inner with
            | nil =>
                -- It is the element itself that is closed.
                right
                intro tag tag' outer
                rw [List.foldl_append, List.foldl_append, hinner.foldl_nest, hinner.foldl_nest]
                rfl
            | cons => exact .inl (hnext .closes)
        | _ => exact .inl (hnext (.stays rfl))
      · right
        intro tag tag' outer
        rw [List.foldl_append, List.foldl_append, hclosed tag tag']

/-- Where the first attributes come before it in its tag, and the inner tags are inside of that, an
attribute is what says what a prefix stands for. -/
structure Governs (pre : String) (inner : List Tag) (first : List Attribute) (a : Attribute) :
    Prop where
  declares : a.Declares pre a.value
  isFirst : ∀ b ∈ first, ∀ other, ¬ b.Declares pre other
  isInnermost : ∀ tag ∈ inner, ∀ b ∈ tag.attributes.attributes, ∀ other, ¬ b.Declares pre other

/-- An attribute that does not govern a prefix makes no difference to it. -/
theorem namespaceOf?_congr (inner : List Tag) {outer : List Tag} {tag tag' : Tag}
    {first later : List Attribute} {a a' : Attribute} {name pre : String}
    (htag : tag.attributes.attributes = first ++ a :: later)
    (htag' : tag'.attributes.attributes = first ++ a' :: later) (hkey : a'.key = a.key)
    (hname : HasPrefix name pre) (hnot : ¬ Governs pre inner first a) :
    namespaceOf? (scopesOf (inner ++ tag' :: outer)) name =
      namespaceOf? (scopesOf (inner ++ tag :: outer)) name := by
  unfold namespaceOf?
  rw [hasPrefix_iff.mp hname]
  congr 1
  rw [scopesOf, scopesOf, List.map_append, List.map_append, List.findSome?_append,
    List.findSome?_append, List.map_cons, List.map_cons, List.findSome?_cons, List.findSome?_cons]
  cases hinner : (inner.map fun tag => declarations tag.attributes.attributes).findSome?
      (·.lookup pre) with
  | some => rfl
  | none =>
      have hinnermost : ∀ tag ∈ inner, ∀ b ∈ tag.attributes.attributes, ∀ other,
          ¬ b.Declares pre other := by
        intro tag hmem
        rw [List.findSome?_eq_none_iff] at hinner
        exact lookup_declarations_eq_none.mp (hinner _ (List.mem_map_of_mem hmem))
      have hsame : (declarations tag'.attributes.attributes).lookup pre =
          (declarations tag.attributes.attributes).lookup pre := by
        rw [htag, htag', declarations, declarations, List.filterMap_append, List.filterMap_append,
          List.lookup_append, List.lookup_append]
        cases hfirst : (declarations first).lookup pre with
        | some =>
            rw [declarations] at hfirst
            rw [hfirst]
            rfl
        | none =>
            have hother : a.declaredPrefix? ≠ some pre := fun hdeclared =>
              hnot ⟨Attribute.declares_iff.mpr ⟨hdeclared, rfl⟩,
                lookup_declarations_eq_none.mp hfirst, hinnermost⟩
            have hother' : a'.declaredPrefix? ≠ some pre := by
              rwa [Attribute.declaredPrefix?, hkey]
            have hlater := lookup_declarations_cons a later pre
            have hlater' := lookup_declarations_cons a' later pre
            rw [if_neg hother] at hlater
            rw [if_neg hother', ← hlater] at hlater'
            exact congrArg _ hlater'
      rw [hsame]

/-- The place is where it is decided whether the occurrences of an element are held to the limit:
in what the element says of them, or in the declaration of its prefix. The tokens before the tag of
the element are given. -/
inductive ValuePlace.Decides (P : ValuePlace) (c : Char) : List Token → Tag → Prop where
  | occurs : P.key = "maxOccurs" → P.Decides c P.tokens (P.tag [c])
  | own {pre : String} : HasPrefix (P.tag [c]).name pre →
      Governs pre [] P.attributes ⟨P.key, P.value [c]⟩ → P.Decides c P.tokens (P.tag [c])
  | around {mid : List Token} {inner : List Tag} {tag : Tag} {pre : String} :
      P.isEmptyTag = false → OpenAfter mid inner → HasPrefix tag.name pre →
      Governs pre (tag :: inner) P.attributes ⟨P.key, P.value [c]⟩ →
      P.Decides c (P.tokens ++ P.token [c] :: mid) tag

namespace ValuePlace

variable {P : ValuePlace} {c : Char} {spelling : List Char}

theorem tag?_token (P : ValuePlace) (spelling : List Char) :
    (P.token spelling).tag? = some (P.tag spelling) := by
  unfold token
  split
  · rfl
  · rfl

theorem Holds.character_notMem (h : P.Holds c) : P.quote ∉ [c] :=
  fun hmem => h.character (List.mem_singleton.mp hmem)

theorem foldl_nest_startTag (hopen : P.isEmptyTag = false) (s : List Char) (mid : List Token)
    (outer : List Tag) :
    (P.token s :: mid).foldl Token.nest outer = mid.foldl Token.nest (P.tag s :: outer) := by
  simp only [token, hopen, Bool.false_eq_true, if_false, List.foldl_cons]
  rfl

theorem foldl_nest_open (hopen : P.isEmptyTag = false) {mid : List Token} {inner : List Tag}
    (hinner : OpenAfter mid inner) (s : List Char) (outer : List Tag) :
    (P.token s :: mid).foldl Token.nest outer = inner ++ P.tag s :: outer := by
  rw [foldl_nest_startTag hopen, hinner.foldl_nest]

/-- What is open after the tag does not hang on the spelling, unless the element is. -/
theorem foldl_nest_token (P : ValuePlace) (c : Char) (spelling : List Char) (mid : List Token)
    (outer : List Tag) :
    (P.token spelling :: mid).foldl Token.nest outer = (P.token [c] :: mid).foldl Token.nest outer ∨
      P.isEmptyTag = false ∧ ∃ inner, OpenAfter mid inner := by
  cases hempty : P.isEmptyTag with
  | true =>
      left
      simp only [token, hempty, if_true, List.foldl_cons]
      rfl
  | false =>
      rcases openAfter_or_closed mid with hopen | hclosed
      · exact .inr ⟨rfl, hopen⟩
      · left
        rw [foldl_nest_startTag hempty, foldl_nest_startTag hempty,
          hclosed (P.tag spelling) (P.tag [c])]

/-- In another spelling a document has the same elements, and unless the place decides, the same is
said of their occurrences, and their names are in the same namespaces. -/
theorem Holds.exists_respelled (h : P.Holds c) (hspelling : P.quote ∉ spelling)
    {before after : List Token} {t : Token} {tag : Tag}
    (htokens : P.tokens ++ P.token [c] :: P.after = before ++ t :: after)
    (htag : t.tag? = some tag) : ∃ before' t' after' tag',
      P.tokens ++ P.token spelling :: P.after = before' ++ t' :: after' ∧
      t'.tag? = some tag' ∧ tag'.name = tag.name ∧
      (¬ P.Decides c before tag →
        (∀ value, ⟨"maxOccurs", value⟩ ∈ tag.attributes.attributes →
          ⟨"maxOccurs", value⟩ ∈ tag'.attributes.attributes) ∧
        namespaceOf? (scopesOf (tag' :: before'.foldl Token.nest [])) tag.name =
          namespaceOf? (scopesOf (tag :: before.foldl Token.nest [])) tag.name) := by
  have hplace : before = P.tokens ∧ t = P.token [c] ∨ (∃ mid, P.tokens = before ++ t :: mid) ∨
      ∃ mid, before = P.tokens ++ P.token [c] :: mid ∧ P.after = mid ++ t :: after := by
    rcases List.append_eq_append_iff.mp htokens with ⟨mid, hbefore, hmid⟩ | ⟨mid, hbefore, hmid⟩
    · rcases List.cons_eq_append_iff.mp hmid with ⟨rfl, ht⟩ | ⟨mid', rfl, hafter⟩
      · exact .inl ⟨by rw [hbefore, List.append_nil], (List.cons.inj ht).1⟩
      · exact .inr (.inr ⟨mid', hbefore, hafter⟩)
    · rcases List.cons_eq_append_iff.mp hmid with ⟨rfl, ht⟩ | ⟨mid', rfl, -⟩
      · exact .inl ⟨by rw [hbefore, List.append_nil], (List.cons.inj ht).1.symm⟩
      · exact .inr (.inl ⟨mid', hbefore⟩)
  have hattributes := attributes_tag h hspelling
  have hattributes' := attributes_tag h h.character_notMem
  rcases hplace with ⟨rfl, rfl⟩ | ⟨mid, hbefore⟩ | ⟨mid, rfl, hafter⟩
  · -- The place is in the tag of the element.
    cases (P.tag?_token [c]).symm.trans htag
    refine ⟨P.tokens, P.token spelling, P.after, P.tag spelling, rfl, P.tag?_token spelling, rfl,
      fun hnot => ⟨fun value hvalue => ?_, ?_⟩⟩
    · rw [hattributes', List.mem_append, List.mem_cons] at hvalue
      rw [hattributes, List.mem_append, List.mem_cons]
      refine hvalue.imp_right fun hlater => hlater.imp_left fun hsame => ?_
      cases hnot (.occurs (congrArg Attribute.key hsame).symm)
    · exact namespaceOf?_congr [] hattributes' hattributes rfl (hasPrefix_iff.mpr rfl)
        fun hgoverns => hnot (.own (hasPrefix_iff.mpr rfl) hgoverns)
  · -- The element comes before the place.
    exact ⟨before, t, mid ++ P.token spelling :: P.after, tag, by simp [hbefore], htag, rfl,
      fun _ => ⟨fun _ hvalue => hvalue, rfl⟩⟩
  · -- The element comes after the place.
    refine ⟨P.tokens ++ P.token spelling :: mid, t, after, tag, by simp [hafter], htag, rfl,
      fun hnot => ⟨fun _ hvalue => hvalue, ?_⟩⟩
    rw [List.foldl_append, List.foldl_append]
    rcases P.foldl_nest_token c spelling mid (P.tokens.foldl Token.nest []) with
      hsame | ⟨hopen, inner, hinner⟩
    · rw [hsame]
    · rw [foldl_nest_open hopen hinner, foldl_nest_open hopen hinner]
      exact namespaceOf?_congr (tag :: inner) hattributes' hattributes rfl
        (hasPrefix_iff.mpr rfl) fun hgoverns =>
          hnot (.around hopen hinner (hasPrefix_iff.mpr rfl) hgoverns)

end ValuePlace

end Markup

namespace Checked

variable {ctx : CheckContext} {P : Markup.ValuePlace} {c : Char} {spelling : List Char}

/-- In a document that is refused for its occurrences, a place that does not decide makes no
difference to that. -/
theorem not_ok_of_not_decides (h : P.Holds c) (hspelling : P.quote ∉ spelling) {ledger : Ledger}
    {before after : List Markup.Token} {t : Markup.Token} {tag : Markup.Tag} {pass : Pass}
    (hrefused : RefusesOccurs ctx (Markup.read (P.text [c])) ledger before t after tag pass)
    (hnot : ¬ P.Decides c before tag) {q : Pass} :
    checkTokens ctx (Markup.read (P.text spelling)).tokens (.start ledger) ≠ .ok () q := by
  intro hok
  have htokens := hrefused.tokens
  rw [P.tokens_read h h.character_notMem] at htokens
  obtain ⟨before', t', after', tag', htokens', htag', hname, hsame⟩ :=
    h.exists_respelled hspelling htokens hrefused.isTag
  obtain ⟨hattributes, hnamespace⟩ := hsame hnot
  -- To go through, the check would have to find nothing at this element.
  rw [P.tokens_read h hspelling, htokens'] at hok
  obtain ⟨pass', hcomes, hoccurs⟩ := occurs_of_ok hok htag'
  have hcomesTo : ComesTo ctx (Markup.read (P.text spelling)) ledger before' t' after' tag' pass' :=
    ⟨by rw [P.tokens_read h hspelling, htokens'], htag', hcomes⟩
  have hschema : Markup.namespaceOf? pass'.scopes tag'.name = some schemaNamespace := by
    rw [hcomesTo.scopes_eq, hname, hnamespace, ← hrefused.scopes_eq]
    exact hrefused.inSchema
  obtain ⟨value, hvalue, hmany⟩ := hrefused.tooMany
  exact hmany (checkOccursText_of_ok hoccurs (hattributes value hvalue) hschema)

end Checked

end XmlBounds
