import XmlBounds.Proofs.Check.CharReferences
import XmlBounds.Proofs.Check.ScopeLoss
import XmlBounds.Proofs.Check.Spelling
import XmlBounds.Proofs.Markup.ValuePlaces

/-!
# Spellings that evade a check

Where it is decided whether the occurrences of an element are held to the limit, a character that is
spelled as a reference to it is enough for the check to go on: what is said of occurrences is no
number any more, or the namespace is not that of XML Schema.
-/

namespace XmlBounds

namespace Markup

/-! ## What a prefix hangs on -/

theorem Governs.of_key {pre : String} {inner : List Tag} {first : List Attribute}
    {a a' : Attribute} (h : Governs pre inner first a) (hkey : a'.key = a.key) :
    Governs pre inner first a' := ⟨⟨hkey ▸ h.declares.key, rfl⟩, h.isFirst, h.isInnermost⟩

theorem Attribute.Declares.key_ne {a : Attribute} {pre uri : String} (h : a.Declares pre uri) :
    a.key ≠ "maxOccurs" := by
  intro hkey
  have hsome := (declares_iff.mp h).1
  have hnone : Attribute.declaredPrefix? ⟨"maxOccurs", ""⟩ = none := by decide +kernel
  rw [declaredPrefix?, hkey] at hsome
  cases hnone.symm.trans hsome

theorem maxOccurs?_append_cons {a : Attribute} (h : a.key ≠ "maxOccurs")
    (first later : List Attribute) :
    maxOccurs? (first ++ a :: later) = maxOccurs? (first ++ later) := by
  rw [maxOccurs?, maxOccurs?, List.find?_append, List.find?_append,
    List.find?_cons_of_neg (by simpa using h)]

theorem Governs.binds {pre : String} {inner outer : List Tag} {tag : Tag}
    {first later : List Attribute} {a : Attribute} (h : Governs pre inner first a)
    (htag : tag.attributes.attributes = first ++ a :: later) :
    Binds pre (inner ++ tag :: outer) a.value := by
  obtain ⟨hdeclares, hfirst, hinner⟩ := h
  induction inner with
  | nil => exact .here htag hdeclares hfirst
  | cons t inner ih =>
      rw [List.forall_mem_cons] at hinner
      exact .outer hinner.1 (ih hinner.2)

theorem Governs.namespaceOf?_eq {pre name : String} {inner outer : List Tag} {tag : Tag}
    {first later : List Attribute} {a : Attribute} (h : Governs pre inner first a)
    (htag : tag.attributes.attributes = first ++ a :: later) (hname : HasPrefix name pre)
    (hschema : namespaceOf? (scopesOf (inner ++ tag :: outer)) name = some schemaNamespace) :
    a.value = schemaNamespace := by
  obtain ⟨-, pre', hname', hbinds⟩ := namespaceOf?_eq_some.mp hschema
  cases (hasPrefix_iff.mp hname).symm.trans (hasPrefix_iff.mp hname')
  have hfound := binds_iff.mp (@Governs.binds _ _ outer _ _ _ _ h htag)
  exact Option.some.inj (hfound.symm.trans (binds_iff.mp hbinds))

/-- A reference does not close the value in which it stands. -/
theorem ValuePlace.Holds.quote_notMem {P : ValuePlace} {c : Char} {spelling : List Char}
    (h : P.Holds c) (hspelling : Dtd.IsReferenceTo c spelling) : P.quote ∉ spelling := by
  rcases h.quote with hquote | hquote
  · rw [hquote]
    exact hspelling.not_mem (by decide) (by decide) (by decide)
  · rw [hquote]
    exact hspelling.not_mem (by decide) (by decide) (by decide)

theorem ValuePlace.withTag_token (P : ValuePlace) (s s' : List Char) :
    (P.token s).withTag (P.tag s') = P.token s' := by
  unfold token
  split
  · rfl
  · rfl

end Markup

namespace Checked

variable {ctx : CheckContext}

/-! ## Places that decide -/

variable {P : Markup.ValuePlace} {c : Char} {spelling : List Char}

theorem eq_none_of_refuse {name : String} {fault : Option Markup.AttributeFault} {p q : Pass}
    (h : refuse name fault p = .ok () q) : fault = none := by
  cases fault with
  | none => rfl
  | some => cases h

theorem expandValues_append (first later : List Markup.Attribute) :
    expandValues ctx (first ++ later) = (do
      expandValues ctx first
      expandValues ctx later) := by
  induction first with
  | nil => rfl
  | cons a first ih => simp only [List.cons_append, expandValues, ih, bind_assoc]

/-- What is admitted with a character in a value is admitted with a spelling of it that comes to the
same expansions. -/
theorem admittedAs_tag (h : P.Holds c) (hspelling : P.quote ∉ spelling)
    (hexpand : expandText ctx (P.value spelling) = expandText ctx (P.value [c])) :
    AdmittedAs ctx (P.tag [c]) (P.tag spelling) := by
  intro depth p q hok
  obtain ⟨hattributes, hfault⟩ := Markup.ValuePlace.attributeList_tag h h.character_notMem
  obtain ⟨hattributes', hfault'⟩ := Markup.ValuePlace.attributeList_tag h hspelling
  have hname : (P.tag spelling).name = (P.tag [c]).name := rfl
  have hvalues : expandValues ctx (P.tag spelling).attributes.attributes =
      expandValues ctx (P.tag [c]).attributes.attributes := by
    rw [hattributes, hattributes', expandValues_append, expandValues_append, expandValues,
      expandValues, hexpand]
  have hlength : (P.tag spelling).attributes.attributes.length =
      (P.tag [c]).attributes.attributes.length := by
    rw [hattributes, hattributes', List.length_append, List.length_append, List.length_cons,
      List.length_cons]
  have hnone : (P.tag [c]).attributes.fault = none := by
    obtain ⟨_, _, -, hok⟩ := ok_of_bind hok
    obtain ⟨_, _, -, hok⟩ := ok_of_bind hok
    obtain ⟨_, _, hrefuse, -⟩ := ok_of_bind hok
    exact eq_none_of_refuse hrefuse
  have hnone' := hfault'.mpr (hfault.mp hnone)
  have hsame : admitElement ctx (P.tag spelling) depth = admitElement ctx (P.tag [c]) depth := by
    simp only [admitElement, hname, hvalues, hlength, hnone, hnone']
  rw [hsame, hok]

theorem ampersand_mem_value (h : Dtd.IsReferenceTo c spelling) :
    '&' ∈ (P.value spelling).toList := by
  simp [Markup.ValuePlace.value, h.ampersand_mem]

theorem expandText_value (h : Dtd.IsReferenceTo c spelling) (hplain : '&' ∉ (P.value [c]).toList) :
    expandText ctx (P.value spelling) = expandText ctx (P.value [c]) := by
  funext p
  have hparts : '&' ∉ P.left ∧ '&' ∉ P.right := by
    rw [Markup.ValuePlace.value, String.toList_ofList, List.mem_append, List.mem_append] at hplain
    tauto
  rw [expandText_of_references_nil (referencesFrom_eq_nil _ hplain), Markup.ValuePlace.value,
    expandText_of_isReferenceTo h hparts.1 hparts.2]

theorem checkOccurs_of_not_schema {name : String} {attributes : List Markup.Attribute} {p : Pass}
    (h : Markup.namespaceOf? p.scopes name ≠ some schemaNamespace) :
    checkOccurs ctx name attributes p = .ok () p := by
  unfold checkOccurs
  cases Markup.maxOccurs? attributes with
  | none => rfl
  | some value =>
      simp only [bind_get]
      rw [if_neg h]
      rfl

theorem checkOccurs_of_ampersand {tag : Markup.Tag} {value : String} {p : Pass}
    (hvalue : ⟨"maxOccurs", value⟩ ∈ tag.attributes.attributes) (h : '&' ∈ value.toList) :
    checkOccurs ctx tag.name tag.attributes.attributes p = .ok () p := by
  have htrimmed := Text.mem_trimmed (by decide) h
  rw [checkOccurs, Markup.maxOccurs?_of_mem hvalue]
  simp only [bind_get, Policy.checkOccursText_of_ampersand htrimmed]
  split
  · rfl
  · rfl

variable {ledger : Ledger} {t : Markup.Token} {tag : Markup.Tag} {pass : Pass}
  {mid after : List Markup.Token}

theorem exists_comesTo_place (h : P.Holds c) (hspelling : P.quote ∉ spelling)
    (hadmitted : AdmittedAs ctx (P.tag [c]) (P.tag spelling))
    (hcomes : ComesTo ctx (Markup.read (P.text [c])) ledger P.tokens t after tag pass) :
    ∃ pass', ComesTo ctx (Markup.read (P.text spelling)) ledger P.tokens (P.token spelling) after
      (P.tag spelling) pass' := by
  have htokens := hcomes.tokens
  rw [P.tokens_read h h.character_notMem, List.append_cancel_left_eq, List.cons.injEq] at htokens
  obtain ⟨rfl, rfl⟩ := htokens
  obtain ⟨_, p, hbefore, hplace⟩ := ok_of_bind hcomes.comes
  have hplace' := hadmitted.beforeOccurs (P.tag?_token [c]) hplace p.scopes
  rw [P.withTag_token] at hplace'
  exact ⟨_, P.tokens_read h hspelling, P.tag?_token spelling, (bind_of_ok hbefore).trans hplace'⟩

/-- In another spelling a check comes to the elements after the place again. -/
theorem exists_comesTo_after (h : P.Holds c) (hspelling : P.quote ∉ spelling)
    (hstands : StandsFor ctx (P.tag spelling) (P.tag [c]))
    (hcomes : ComesTo ctx (Markup.read (P.text [c])) ledger (P.tokens ++ P.token [c] :: mid) t after
      tag pass) :
    ∃ pass', ComesTo ctx (Markup.read (P.text spelling)) ledger
      (P.tokens ++ P.token spelling :: mid) t after tag pass' := by
  have htokens := hcomes.tokens
  rw [P.tokens_read h h.character_notMem, List.append_assoc, List.append_cancel_left_eq,
    List.cons_append, List.cons.injEq, and_iff_right rfl] at htokens
  obtain ⟨_, q, hrun, ht⟩ := ok_of_bind hcomes.comes
  rw [checkTokens_append, checkTokens] at hrun
  obtain ⟨_, p, hbefore, hrun⟩ := ok_of_bind hrun
  obtain ⟨_, p', hplace, hmid⟩ := ok_of_bind hrun
  obtain ⟨scopes, hplace', hloses⟩ := hstands.exists_checkToken (P.tag?_token [c]) hplace
    (Markup.forall₂_loses_refl p.scopes)
  obtain ⟨scopes', hmid', hloses'⟩ := exists_checkTokens hmid hloses
  have ht' := (StandsFor.refl tag).admitted.beforeOccurs hcomes.isTag ht scopes'
  rw [Markup.Token.withTag_eq hcomes.isTag] at ht'
  rw [P.withTag_token] at hplace'
  have hrun' : checkTokens ctx (P.tokens ++ P.token spelling :: mid) (.start ledger) =
      .ok () (q.withScopes scopes') := by
    rw [checkTokens_append, bind_of_ok hbefore]
    exact (bind_of_ok hplace').trans hmid'
  refine ⟨_, ?_, hcomes.isTag, (bind_of_ok hrun').trans ht'⟩
  rw [P.tokens_read h hspelling, htokens, List.append_assoc, List.cons_append]

theorem value_of_governs (h : P.Holds c) (hspelling : P.quote ∉ spelling) {pre name : String}
    (inner : List Markup.Tag) {outer : List Markup.Tag} (hname : Markup.HasPrefix name pre)
    (hgoverns : Markup.Governs pre inner P.attributes ⟨P.key, P.value spelling⟩)
    (hschema : Markup.namespaceOf? (Markup.scopesOf (inner ++ P.tag spelling :: outer)) name =
      some schemaNamespace) : P.value spelling = schemaNamespace :=
  hgoverns.namespaceOf?_eq (P.attributes_tag h hspelling) hname hschema

theorem value_ne_schema (h : Dtd.IsReferenceTo c spelling) :
    P.value spelling ≠ schemaNamespace := by
  intro hsame
  have hmem : '&' ∈ (P.value spelling).toList := ampersand_mem_value h
  rw [hsame] at hmem
  exact absurd hmem (by decide)

theorem mem_attributes_tag (h : P.Holds c) (hspelling : P.quote ∉ spelling)
    (hkey : P.key = "maxOccurs") :
    ⟨"maxOccurs", P.value spelling⟩ ∈ (P.tag spelling).attributes.attributes := by
  rw [P.attributes_tag h hspelling, hkey]
  simp

/-- What too many occurrences are refused for is a number. -/
theorem RefusesOccurs.ampersand_notMem {document : Markup.Document} {before : List Markup.Token}
    {value : String} (h : RefusesOccurs ctx document ledger before t after tag pass)
    (hvalue : ⟨"maxOccurs", value⟩ ∈ tag.attributes.attributes) : '&' ∉ value.toList := by
  intro hampersand
  obtain ⟨value', hvalue', hmany⟩ := h.tooMany
  have hsame := Markup.maxOccurs?_of_mem hvalue
  rw [Markup.maxOccurs?_of_mem hvalue', Option.some.injEq] at hsame
  rw [hsame] at hmany
  exact hmany (Policy.checkOccursText_of_ampersand (Text.mem_trimmed (by decide) hampersand))

/-- Where an element is refused for its occurrences, a character of what decides can be spelled as a
reference for the check to go on with the element. -/
theorem exists_evading (h : P.Holds c) (hspelling : Dtd.IsReferenceTo c spelling)
    {before : List Markup.Token}
    (hrefused : RefusesOccurs ctx (Markup.read (P.text [c])) ledger before t after tag pass)
    (hdecides : P.Decides c before tag) : ∃ before' t' tag' pass',
      ComesTo ctx (Markup.read (P.text spelling)) ledger before' t' after tag' pass' ∧
      checkOccurs ctx tag'.name tag'.attributes.attributes pass' = .ok () pass' := by
  have hquote := h.quote_notMem hspelling
  have hother : P.value spelling ≠ schemaNamespace := value_ne_schema hspelling
  have hplain (hschema : P.value [c] = schemaNamespace) : '&' ∉ (P.value [c]).toList := by
    rw [hschema]
    decide
  cases hdecides with
  | occurs hkey =>
      -- The number is none any more.
      have hnumber := hrefused.ampersand_notMem (mem_attributes_tag h h.character_notMem hkey)
      obtain ⟨pass', hcomes⟩ := exists_comesTo_place h hquote
        (admittedAs_tag h hquote (expandText_value hspelling hnumber)) hrefused.toComesTo
      exact ⟨_, _, _, pass', hcomes, checkOccurs_of_ampersand (mem_attributes_tag h hquote hkey)
        (ampersand_mem_value hspelling)⟩
  | own hname hgoverns =>
      -- The element is not one of XML Schema any more.
      have hschema := hrefused.inSchema
      rw [hrefused.scopes_eq] at hschema
      have hvalue := value_of_governs h h.character_notMem [] hname hgoverns hschema
      obtain ⟨pass', hcomes⟩ := exists_comesTo_place h hquote
        (admittedAs_tag h hquote (expandText_value hspelling (hplain hvalue))) hrefused.toComesTo
      refine ⟨_, _, _, pass', hcomes, checkOccurs_of_not_schema fun hschema' => hother ?_⟩
      rw [hcomes.scopes_eq] at hschema'
      exact value_of_governs h hquote [] hname (hgoverns.of_key rfl) hschema'
  | @around mid inner _ _ hopen hinner hname hgoverns =>
      -- Nor is it here, and the check goes through the elements between in the same way.
      have hschema := hrefused.inSchema
      rw [hrefused.scopes_eq, List.foldl_append, P.foldl_nest_open hopen hinner] at hschema
      have hvalue := value_of_governs h h.character_notMem (tag :: inner) hname hgoverns hschema
      have hkey : P.key ≠ "maxOccurs" := hgoverns.declares.key_ne
      have hstands : StandsFor ctx (P.tag spelling) (P.tag [c]) := by
        refine ⟨rfl, admittedAs_tag h hquote (expandText_value hspelling (hplain hvalue)), ?_, ?_⟩
        · rw [P.attributes_tag h hquote, P.attributes_tag h h.character_notMem,
            Markup.maxOccurs?_append_cons hkey, Markup.maxOccurs?_append_cons hkey]
        · rw [P.attributes_tag h hquote, P.attributes_tag h h.character_notMem]
          exact Markup.loses_declarations rfl hother
      obtain ⟨pass', hcomes⟩ := exists_comesTo_after h hquote hstands hrefused.toComesTo
      refine ⟨_, _, _, pass', hcomes, checkOccurs_of_not_schema fun hschema' => hother ?_⟩
      rw [hcomes.scopes_eq, List.foldl_append, P.foldl_nest_open hopen hinner] at hschema'
      exact value_of_governs h hquote (tag :: inner) hname (hgoverns.of_key rfl) hschema'

theorem RefusesOccurs.exists_raise {before : List Markup.Token}
    {document : Markup.Document} (h : RefusesOccurs ctx document ledger before t after tag pass) :
    ∃ d, d.key = .maxOccurs ∧ checkDocument ctx document (.start ledger) = raise ctx d pass := by
  obtain ⟨value, hvalue, hmany⟩ := h.tooMany
  obtain ⟨d, hd⟩ := Option.ne_none_iff_exists'.mp hmany
  have hkey : d.key = .maxOccurs := by
    unfold Policy.checkOccursText Policy.checkOccurs at hd
    split at hd
    · cases hd
    · split at hd
      · split at hd
        · cases hd
          rfl
        · cases hd
      · cases hd
  have hoccurs : checkOccurs ctx tag.name tag.attributes.attributes pass = raise ctx d pass := by
    rw [checkOccurs, Markup.maxOccurs?_of_mem hvalue]
    simp only [bind_get]
    rw [if_pos h.inSchema, hd, raiseIf_some]
  refine ⟨d, hkey, ?_⟩
  rw [h.checkDocument_eq]
  rw [raise_apply] at hoccurs ⊢
  exact bind_of_error hoccurs

end Checked

/-! ## Documents -/

namespace DocumentReader

variable {files : Files} {r : DocumentReader}

/-- The check of a text fails, and what it reports is about occurrences. -/
def RejectsOccurs (files : Files) (text : String) (r : DocumentReader) : Prop :=
  ∃ fault r', checkText files text r = (.error fault, r') ∧
    r.configuration.startParse.ledger.TellsOccurs r'.configuration.ledger

/-- A document is rejected for occurrences just if one of its elements is refused for them. -/
theorem rejectsOccurs_iff {text : String} : r.RejectsOccurs files text ↔
    ∃ before t after tag pass, Checked.RefusesOccurs (r.context files) (Markup.read text)
      r.configuration.startParse.ledger before t after tag pass := by
  constructor
  · rintro ⟨fault, r', hcheck, htells⟩
    obtain ⟨pass, hfails, hledger⟩ := failure_of_checkText hcheck
    rw [hledger] at htells
    exact Checked.exists_refusesOccurs hfails htells
  · rintro ⟨before, t, after, tag, pass, hrefused⟩
    obtain ⟨d, hkey, hraise⟩ := hrefused.exists_raise
    obtain ⟨older, hreports, _⟩ := hrefused.silentOn
    have hcheck := checkText_eq files text r
    rw [hraise, Checked.raise_apply] at hcheck
    refine ⟨_, _, hcheck, older ++ [⟨d, r.configuration.reporter.records⟩], ?_, _,
      List.mem_append_right older (List.mem_singleton_self _), hkey⟩
    exact (congrArg (· ++ _) hreports).trans (List.append_assoc _ _ _)

/-- What another spelling of a character makes of a document that is rejected for its occurrences.
-/
def HangsOn (files : Files) (r : DocumentReader) (P : Markup.ValuePlace) (c : Char)
    (spelling : List Char) : Prop :=
  ∃ before t after tag pass,
    Checked.RefusesOccurs (r.context files) (Markup.read (P.text [c]))
      r.configuration.startParse.ledger before t after tag pass ∧
    (¬ P.Decides c before tag →
      ∀ report r', checkText files (P.text spelling) r ≠ (.ok report, r')) ∧
    (P.Decides c before tag → ∃ before' t' tag' pass',
      Checked.ComesTo (r.context files) (Markup.read (P.text spelling))
        r.configuration.startParse.ledger before' t' after tag' pass' ∧
      Checked.checkDocument (r.context files) (Markup.read (P.text spelling))
          (.start r.configuration.startParse.ledger) = (do
        Checked.afterOccurs t'
        Checked.checkDocument (r.context files)
          { Markup.read (P.text spelling) with tokens := after }) pass')

theorem hangsOn_of_rejects {P : Markup.ValuePlace} {c : Char} {spelling : List Char}
    (h : P.Holds c) (hspelling : Dtd.IsReferenceTo c spelling)
    (hrejects : r.RejectsOccurs files (P.text [c])) : r.HangsOn files P c spelling := by
  obtain ⟨before, t, after, tag, pass, hrefused⟩ := rejectsOccurs_iff.mp hrejects
  refine ⟨before, t, after, tag, pass, hrefused, ?_, ?_⟩
  · intro hnot report r' hcheck
    obtain ⟨pass', hpasses, -⟩ := of_checkText hcheck
    obtain ⟨_, mid, htokens, -⟩ := ok_of_bind hpasses
    exact Checked.not_ok_of_not_decides h (h.quote_notMem hspelling) hrefused hnot htokens
  · intro hdecides
    obtain ⟨before', t', tag', pass', hcomes, hoccurs⟩ :=
      Checked.exists_evading h hspelling hrefused hdecides
    refine ⟨before', t', tag', pass', hcomes, ?_⟩
    rw [hcomes.checkDocument_eq, bind_of_ok hoccurs]

/-- Where a document is rejected for the occurrences of an element, spell a character of some value
as a reference to it. If that is in what decides about this element, the check goes on with what
comes after it; otherwise the document is not accepted. -/
theorem spelling_of_checkText {P : Markup.ValuePlace} {c : Char} {spelling : List Char}
    (h : P.Holds c) (hspelling : Dtd.IsReferenceTo c spelling)
    (hrejects : r.RejectsOccurs files (P.text [c])) : ∃ before t after tag pass,
      Checked.RefusesOccurs (r.context files) (Markup.read (P.text [c]))
        r.configuration.startParse.ledger before t after tag pass ∧
      (¬ P.Decides c before tag →
        ∀ report r', checkText files (P.text spelling) r ≠ (.ok report, r')) ∧
      (P.Decides c before tag → ∃ before' t' tag' pass',
        Checked.ComesTo (r.context files) (Markup.read (P.text spelling))
          r.configuration.startParse.ledger before' t' after tag' pass' ∧
        Checked.checkDocument (r.context files) (Markup.read (P.text spelling))
            (.start r.configuration.startParse.ledger) = (do
          Checked.afterOccurs t'
          Checked.checkDocument (r.context files)
            { Markup.read (P.text spelling) with tokens := after }) pass') :=
  hangsOn_of_rejects h hspelling hrejects

/-- So it is with every character of every value that is read of a document, unless there are quotes
in the names before it in its tag. -/
theorem exists_hangsOn_of_read {text : String} {before after : List Markup.Token}
    {t : Markup.Token} {tag : Markup.Tag} {first later : List Markup.Attribute}
    {a : Markup.Attribute} {left right spelling : List Char} {c : Char}
    (htokens : (Markup.read text).tokens = before ++ t :: after)
    (ht : t = .startTag tag ∨ t = .emptyTag tag)
    (hattributes : tag.attributes.attributes = first ++ a :: later)
    (hvalue : a.value.toList = left ++ c :: right) (hname : Markup.IsUnquoted tag.name.toList)
    (hkeys : ∀ b ∈ first ++ [a], Markup.IsUnquoted b.key.toList)
    (hspelling : Dtd.IsReferenceTo c spelling) (hrejects : r.RejectsOccurs files text) :
    ∃ P : Markup.ValuePlace, P.text [c] = text ∧ P.tokens = before ∧ P.attributes = first ∧
      P.key = a.key ∧ P.left = left ∧ P.right = right ∧ r.HangsOn files P c spelling := by
  obtain ⟨P, hplace, rfl, hbefore, hfirst, hkey, hleft, hright⟩ :=
    Markup.exists_valuePlace htokens ht hattributes hvalue hname hkeys
  exact ⟨P, rfl, hbefore, hfirst, hkey, hleft, hright,
    hangsOn_of_rejects hplace hspelling hrejects⟩

end DocumentReader

namespace Spellings

open Markup (ValuePlace)

/-- A place in the value of the default namespace, which the prefixed element does not need. -/
def namespacePlace : ValuePlace where
  passed := []
  tokens := []
  names := []
  name := ['x', ':', 'e']
  attributes := []
  earlier := []
  key := "xmlns"
  head := [' ', 'x', 'm', 'l', 'n', 's', '=']
  quote := '"'
  left := []
  right := []
  rest := (" xmlns:x=\"" ++ schemaNamespace ++ "\" maxOccurs=\"3001\"/>").toList

/-- The place of the last digit of what an element says of occurrences. -/
def occursPlace : ValuePlace where
  passed := []
  tokens := []
  names := []
  name := ['x', ':', 'e']
  attributes := []
  earlier := []
  key := "maxOccurs"
  head := [' ', 'm', 'a', 'x', 'O', 'c', 'c', 'u', 'r', 's', '=']
  quote := '"'
  left := ['3', '0', '0']
  right := []
  rest := (" xmlns:x=\"" ++ schemaNamespace ++ "\"/>").toList

theorem holds_namespace : namespacePlace.Holds 'a' where
  reads := .here
  isTag := by
    rintro _ ⟨⟩
    decide
  name := by simp [namespacePlace, Text.isSpace]
  gap := by
    rintro _ ⟨⟩
    rfl
  earlier := .nil
  head := @Markup.WritesKey.mk 'x' ['m', 'l', 'n', 's'] [' '] [] []
    (List.all_eq_true.mp (by decide)) (by decide) (List.all_eq_true.mp (by decide)) (by simp)
    (by simp)
  distinct := by decide
  quote := .inl rfl
  left := by decide
  character := by decide
  right := by decide
  isOpen := by decide
  isQuoted := by decide

theorem holds_occurs : occursPlace.Holds '1' where
  reads := .here
  isTag := by
    rintro _ ⟨⟩
    decide
  name := by simp [occursPlace, Text.isSpace]
  gap := by
    rintro _ ⟨⟩
    rfl
  earlier := .nil
  head := @Markup.WritesKey.mk 'm' ['a', 'x', 'O', 'c', 'c', 'u', 'r', 's'] [' '] [] []
    (List.all_eq_true.mp (by decide)) (by decide) (List.all_eq_true.mp (by decide)) (by simp)
    (by simp)
  distinct := by decide
  quote := .inl rfl
  left := by decide
  character := by decide
  right := by decide
  isOpen := by decide
  isQuoted := by decide

/-- How a check stands at the occurrences of a first element, if it is empty. -/
def tagPass (tag : Markup.Tag) : Pass :=
  { Pass.start .empty with
    elements := 1
    maxDepth := 1
    scopes := [Markup.declarations tag.attributes.attributes] }

theorem refuses_tag {text : String} {tag : Markup.Tag}
    (hread : (Markup.read text).tokens = [.emptyTag tag])
    (hsound : Checked.IsSound Plain.offline tag 1)
    (hschema : Markup.namespaceOf? (tagPass tag).scopes tag.name = some schemaNamespace)
    (hvalue : ⟨"maxOccurs", "3001"⟩ ∈ tag.attributes.attributes) :
    Checked.RefusesOccurs Plain.offline (Markup.read text) .empty [] (.emptyTag tag) [] tag
      (tagPass tag) where
  tokens := hread
  isTag := rfl
  comes := hsound.scopeElement_eq (.start .empty)
  inSchema := hschema
  tooMany := ⟨"3001", hvalue, by decide +kernel⟩

theorem refuses_namespace : Checked.RefusesOccurs Plain.offline
    (Markup.read (namespacePlace.text ['a'])) .empty [] (.emptyTag (namespacePlace.tag ['a'])) []
    (namespacePlace.tag ['a']) (tagPass (namespacePlace.tag ['a'])) :=
  refuses_tag (by decide +kernel) ⟨rfl, by decide +kernel, by decide +kernel, by decide +kernel⟩
    (by decide +kernel) (by decide +kernel)

theorem refuses_occurs : Checked.RefusesOccurs Plain.offline
    (Markup.read (occursPlace.text ['1'])) .empty [] (.emptyTag (occursPlace.tag ['1'])) []
    (occursPlace.tag ['1']) (tagPass (occursPlace.tag ['1'])) :=
  refuses_tag (by decide +kernel) ⟨rfl, by decide +kernel, by decide +kernel, by decide +kernel⟩
    (by decide +kernel) (by decide +kernel)

/-- Too many occurrences are not accepted for the spelling of a namespace that is not in use. -/
theorem rejected_respelled :
    namespacePlace.text ['&', '#', '9', '7', ';'] =
        "<x:e xmlns=\"&#97;\" xmlns:x=\"http://www.w3.org/2001/XMLSchema\" maxOccurs=\"3001\"/>" ∧
      ∀ report r', DocumentReader.checkText Plain.noFiles
        (namespacePlace.text ['&', '#', '9', '7', ';']) (.plain (fun _ => false) none) ≠
          (.ok report, r') := by
  refine ⟨by decide +kernel, ?_⟩
  have hspelling : Dtd.IsReferenceTo 'a' ['&', '#', '9', '7', ';'] :=
    @Dtd.IsReferenceTo.mk 'a' ⟨10, ['9', '7']⟩ (.inl rfl) (by simp) (by decide +kernel)
  have hrejects : (DocumentReader.plain (fun _ => false) none).RejectsOccurs Plain.noFiles
      (namespacePlace.text ['a']) :=
    DocumentReader.rejectsOccurs_iff.mpr ⟨_, _, _, _, _, refuses_namespace⟩
  obtain ⟨before, t, after, tag, pass, -, hstays, -⟩ :=
    DocumentReader.spelling_of_checkText holds_namespace hspelling hrejects
  refine hstays fun hdecides => ?_
  cases hdecides with
  | occurs hkey => exact absurd hkey (by decide)
  | own hname hgoverns =>
      have hx : Markup.prefixOf (namespacePlace.tag ['a']).name = "x" := by decide +kernel
      rw [← Markup.hasPrefix_iff.mp hname, hx] at hgoverns
      have hkey : namespacePlace.key = "xmlns" ∧ "x" = "" ∨ namespacePlace.key = "xmlns:" ++ "x" :=
        hgoverns.declares.key
      exact absurd hkey (by decide)
  | around hopen => exact absurd hopen (by decide +kernel)

/-- But too many are accepted where a digit of theirs is spelled out. -/
theorem not_forall_respelled_rejected :
    ¬ ∀ (files : Files) (P : ValuePlace) (c : Char) (spelling : List Char) (r : DocumentReader),
      P.Holds c → Dtd.IsReferenceTo c spelling →
        (P.key = "maxOccurs" ∨ ∃ pre, Markup.Attribute.Declares ⟨P.key, P.value [c]⟩ pre
          (P.value [c])) →
        r.RejectsOccurs files (P.text [c]) →
        ∀ report r', DocumentReader.checkText files (P.text spelling) r ≠ (.ok report, r') := by
  intro hall
  have hspelling : Dtd.IsReferenceTo '1' ['&', '#', '4', '9', ';'] :=
    @Dtd.IsReferenceTo.mk '1' ⟨10, ['4', '9']⟩ (.inl rfl) (by simp) (by decide +kernel)
  have hrejects : (DocumentReader.plain (fun _ => false) none).RejectsOccurs Plain.noFiles
      (occursPlace.text ['1']) :=
    DocumentReader.rejectsOccurs_iff.mpr ⟨_, _, _, _, _, refuses_occurs⟩
  obtain ⟨before, t, tag, pass, hcomes, hoccurs⟩ :=
    Checked.exists_evading holds_occurs hspelling refuses_occurs (.occurs rfl)
  have hfault : (Markup.read (occursPlace.text ['&', '#', '4', '9', ';'])).fault = none := by
    decide +kernel
  obtain ⟨q, hafter⟩ : ∃ q, Checked.afterOccurs t pass = .ok () q := by
    cases t with
    | emptyTag => exact ⟨_, rfl⟩
    | _ => exact ⟨pass, rfl⟩
  have hpasses : Checked.checkDocument Plain.offline
      (Markup.read (occursPlace.text ['&', '#', '4', '9', ';'])) (.start .empty) = .ok () q := by
    rw [hcomes.checkDocument_eq, bind_of_ok hoccurs, bind_of_ok hafter, Checked.checkDocument,
      hfault]
    rfl
  have hcheck := DocumentReader.checkText_eq Plain.noFiles
    (occursPlace.text ['&', '#', '4', '9', ';']) (.plain (fun _ => false) none)
  have hrun : Checked.checkDocument
      ((DocumentReader.plain (fun _ => false) none).context Plain.noFiles)
      (Markup.read (occursPlace.text ['&', '#', '4', '9', ';']))
      (.start (DocumentReader.plain (fun _ => false) none).configuration.startParse.ledger) =
        .ok () q := hpasses
  rw [hrun] at hcheck
  exact hall _ _ _ _ _ holds_occurs hspelling (.inl rfl) hrejects _ _ hcheck

end Spellings

end XmlBounds
