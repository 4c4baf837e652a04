import XmlBounds.Proofs.Check.Bounds
import XmlBounds.Proofs.Text.Numerals

/-!
# What `maxOccurs` may say

The occurrences that an element of XML Schema allows are checked as a number if they are written in
decimal, however long the text. The number is held to the limit as long as it has 64 bits; what is
larger is passed over as if it were none.
-/

namespace XmlBounds

/-- A number that a text denotes is held to the limit, if it has 64 bits. -/
theorem Policy.checkOccursText_of_denotes {policy : Policy} {value : String} {n : Nat}
    (h : Text.Denotes value.toList n) :
    policy.checkOccursText value =
      if 18446744073709551615 < n then none else policy.checkOccurs n := by
  have hnumber : value ≠ "unbounded" := by
    rintro rfl
    exact absurd (h.digits 'u' (by decide)) (by decide)
  rw [checkOccursText, if_neg hnumber, h.readNat_eq]
  by_cases hlarge : 18446744073709551615 < n
  · simp only [if_pos hlarge]
  · simp only [if_neg hlarge]

/-- What is raised for a number of occurrences that is too large. -/
def Policy.occursDiagnostic (policy : Policy) : Diagnostic :=
  .fatal .maxOccurs [policy.limitArg .maxOccurs]

/-! ## Attributes -/

theorem Text.mem_trim {c : Char} {s : List Char} (hc : isBlank c = false) (hmem : c ∈ s) :
    c ∈ trim s := by
  have hdrop {l : List Char} (hl : c ∈ l) : c ∈ l.dropWhile isBlank := by
    rw [← List.takeWhile_append_dropWhile (p := isBlank) (l := l)] at hl
    refine (List.mem_append.mp hl).resolve_left fun htake => ?_
    have hblank := List.all_eq_true.mp (List.all_takeWhile (p := isBlank) (l := l)) c htake
    rw [hc] at hblank
    cases hblank
  exact List.mem_reverse.mpr (hdrop (List.mem_reverse.mpr (hdrop hmem)))

theorem referencesFrom_eq_nil (text : String) {s : List Char} (h : '&' ∉ s) :
    referencesFrom text s = [] := by
  induction s with
  | nil => rw [referencesFrom]
  | cons c s ih =>
      have hc : c ≠ '&' := fun heq => h (heq ▸ List.mem_cons_self)
      rw [referencesFrom]
      · exact ih fun hmem => h (List.mem_cons_of_mem c hmem)
      · exact hc

/-- What denotes a number refers to nothing. -/
theorem references_of_denotes {value : String} {n : Nat}
    (h : Text.Denotes (Text.trim value.toList) n) : references value = [] := by
  refine referencesFrom_eq_nil value fun hmem => ?_
  exact absurd (h.digits '&' (Text.mem_trim (by decide) hmem)) (by decide)

namespace Markup

/-- No key is read twice, nor one that is known. -/
theorem keys_attributesFrom (known : List (String × Nat)) (c : AttributeCursor) :
    (∀ a ∈ (attributesFrom known c).attributes, known.lookup a.key = none) ∧
      (attributesFrom known c).attributes.Pairwise fun a b => a.key ≠ b.key := by
  fun_induction attributesFrom known c with
  | case5 known c first rest _ start key _ _ hnew value after _ ih =>
      -- An attribute is read; its key is known to all that are read later.
      obtain ⟨hknown, hdistinct⟩ := ih
      have hlater : ∀ a ∈ (attributesFrom (known ++ [(key, start)]) after).attributes,
          known.lookup a.key = none ∧ key ≠ a.key := by
        intro a ha
        have hnone := hknown a ha
        rw [List.lookup_append, Option.or_eq_none_iff] at hnone
        refine ⟨hnone.1, ?_⟩
        rintro rfl
        simp at hnone
      constructor
      · intro a ha
        rcases List.mem_cons.mp ha with rfl | ha
        · exact hnew
        · exact (hlater a ha).1
      · exact List.pairwise_cons.mpr ⟨fun a ha => (hlater a ha).2, hdistinct⟩
  | _ => simp

/-- What an attribute of the key says is what counts, since there is no other of the key. -/
theorem maxOccurs?_of_mem {tag : Tag} {value : String}
    (h : ⟨"maxOccurs", value⟩ ∈ tag.attributes.attributes) :
    maxOccurs? tag.attributes.attributes = some (Text.trimmed value) := by
  have hdistinct : tag.attributes.attributes.Pairwise fun a b => a.key ≠ b.key :=
    (keys_attributesFrom [] _).2
  generalize tag.attributes.attributes = attributes at h hdistinct
  unfold maxOccurs?
  induction hdistinct with
  | nil => cases h
  | @cons a rest hrest _ ih =>
      rcases List.mem_cons.mp h with rfl | hmem
      · simp
      · have hkey : a.key ≠ "maxOccurs" := hrest _ hmem
        rw [List.find?_cons_of_neg (by simpa using hkey)]
        exact ih hmem

end Markup

/-! ## The check -/

namespace Checked

variable {ctx : CheckContext}

/-- A text without references has nothing to expand. -/
theorem expandText_of_references_nil {text : String} (h : references text = []) (pass : Pass) :
    expandText ctx text pass = .ok () pass := by
  rw [expandText, bind_get, h, expandAll]
  rfl

theorem expandValues_of_references_nil {attributes : List Markup.Attribute}
    (h : ∀ a ∈ attributes, references a.value = []) (pass : Pass) :
    expandValues ctx attributes pass = .ok () pass := by
  induction attributes with
  | nil => rfl
  | cons a rest ih =>
      rw [expandValues, bind_of_ok (expandText_of_references_nil (h a List.mem_cons_self) pass)]
      exact ih fun b hb => h b (List.mem_cons_of_mem a hb)

/-- What is done for the tag of an element before its occurrences are looked at. -/
def scopeElement (ctx : CheckContext) (tag : Markup.Tag) (depth : Nat) : Checked Unit := do
  countElement ctx tag.name depth
  let list := tag.attributes
  expandValues ctx list.attributes
  refuse tag.name list.fault
  raiseIf ctx (ctx.policy.checkAttributes tag.name list.attributes.length)
  modify fun pass => { pass with scopes := Markup.declarations list.attributes :: pass.scopes }

/-- What is done for a token before the occurrences of its element are looked at. -/
def beforeOccurs (ctx : CheckContext) : Markup.Token → Checked Unit
  | .startTag tag => do
      modify fun pass => { pass with depth := pass.depth + 1 }
      scopeElement ctx tag (← get).depth
  | .emptyTag tag => do scopeElement ctx tag ((← get).depth + 1)
  | _ => return

/-- What is done for a token after the occurrences of its element were looked at. -/
def afterOccurs : Markup.Token → Checked Unit
  | .emptyTag _ => closeScope
  | _ => return

theorem checkToken_eq {t : Markup.Token} {tag : Markup.Tag} (h : t.tag? = some tag) :
    checkToken ctx t = (do
      beforeOccurs ctx t
      checkOccurs ctx tag.name tag.attributes.attributes
      afterOccurs t) := by
  cases t with
  | startTag tag' =>
      cases h
      simp only [checkToken, openElement, startElement, beforeOccurs, scopeElement, afterOccurs,
        bind_assoc, bind_pure_unit]
  | emptyTag tag' =>
      cases h
      simp only [checkToken, emptyElement, startElement, beforeOccurs, scopeElement, afterOccurs,
        bind_assoc]
  | _ => cases h

theorem checkTokens_append (before after : List Markup.Token) :
    checkTokens ctx (before ++ after) = (do
      checkTokens ctx before
      checkTokens ctx after) := by
  induction before with
  | nil => rfl
  | cons t before ih =>
      simp only [List.cons_append, checkTokens, ih, bind_assoc]

/-- A check has come to the occurrences that an element of XML Schema allows, with nothing at fault
before; the tokens before and after that of the element are given. -/
structure ReachesOccurs (ctx : CheckContext) (document : Markup.Document) (ledger : Ledger)
    (before : List Markup.Token) (t : Markup.Token) (after : List Markup.Token)
    (tag : Markup.Tag) (pass : Pass) : Prop where
  tokens : document.tokens = before ++ t :: after
  isTag : t.tag? = some tag
  reaches : (do
    checkTokens ctx before
    beforeOccurs ctx t) (.start ledger) = .ok () pass
  inSchema : Markup.namespaceOf? pass.scopes tag.name = some schemaNamespace

/-- A number that is too large is raised, and any other makes no difference to the check. -/
theorem ReachesOccurs.checkDocument_eq {document : Markup.Document} {ledger : Ledger}
    {before after : List Markup.Token} {t : Markup.Token} {tag : Markup.Tag} {pass : Pass}
    {value : String} {n : Nat} (h : ReachesOccurs ctx document ledger before t after tag pass)
    (hvalue : ⟨"maxOccurs", value⟩ ∈ tag.attributes.attributes)
    (hn : Text.Denotes (Text.trim value.toList) n) :
    checkDocument ctx document (.start ledger) =
      if (ctx.policy.limit .maxOccurs).toNat < n ∧ n ≤ 18446744073709551615 then
        raise ctx ctx.policy.occursDiagnostic pass
      else (do
        afterOccurs t
        checkDocument ctx { document with tokens := after }) pass := by
  have hoccurs : checkOccurs ctx tag.name tag.attributes.attributes pass =
      raiseIf ctx (ctx.policy.checkOccursText (Text.trimmed value)) pass := by
    rw [checkOccurs, Markup.maxOccurs?_of_mem hvalue]
    simp only [bind_get, h.inSchema, if_true]
  have htext : Text.Denotes (Text.trimmed value).toList n := by
    rwa [Text.trimmed, String.toList_ofList]
  have hdocument : checkDocument ctx document (.start ledger) =
      (checkOccurs ctx tag.name tag.attributes.attributes >>= fun _ => do
        afterOccurs t
        checkDocument ctx { document with tokens := after }) pass := by
    rw [checkDocument, h.tokens, checkTokens_append, checkTokens, checkToken_eq h.isTag]
    simp only [bind_assoc]
    rw [← bind_assoc, bind_of_ok h.reaches]
    rfl
  have hfound : ctx.policy.checkOccursText (Text.trimmed value) =
      if (ctx.policy.limit .maxOccurs).toNat < n ∧ n ≤ 18446744073709551615 then
        some ctx.policy.occursDiagnostic
      else none := by
    rw [Policy.checkOccursText_of_denotes htext, Policy.checkOccurs, Policy.occursDiagnostic]
    simp only [Policy.exceeds_iff]
    by_cases hlarge : 18446744073709551615 < n
    · rw [if_pos hlarge, if_neg (by omega)]
    · simp only [if_neg hlarge, Nat.not_lt.mp hlarge, and_true]
  rw [hdocument]
  split
  · next hlarge =>
      rw [if_pos hlarge] at hfound
      rw [hfound, raiseIf_some, raise_apply] at hoccurs
      rw [raise_apply]
      exact bind_of_error hoccurs
  · next hpassed =>
      rw [if_neg hpassed] at hfound
      have hpass : checkOccurs ctx tag.name tag.attributes.attributes pass = .ok () pass := by
        rw [hoccurs, hfound]
        rfl
      exact bind_of_ok hpass

end Checked

/-! ## Documents -/

namespace DocumentReader

/-- In every check that comes to the occurrences that an element of XML Schema allows, where they
are written in decimal: a number beyond the limit is raised if it has 64 bits, and the check ends
with that. If it is within the limit, or has more bits, the check goes on as if nothing had been
said about occurrences; nor are there references in what is said. -/
theorem occurs_of_checkText {files : Files} {text value : String} {r : DocumentReader}
    {before after : List Markup.Token} {t : Markup.Token} {tag : Markup.Tag} {pass : Pass} {n : Nat}
    (h : Checked.ReachesOccurs (r.context files) (Markup.read text)
      r.configuration.startParse.ledger before t after tag pass)
    (hvalue : ⟨"maxOccurs", value⟩ ∈ tag.attributes.attributes)
    (hn : Text.Denotes (Text.trim value.toList) n) :
    ((r.configuration.policy.limit .maxOccurs).toNat < n → n ≤ 18446744073709551615 →
      ∃ r', checkText files text r =
          (.error (r.configuration.reporter.verdict r.configuration.policy.occursDiagnostic), r') ∧
        r'.configuration.ledger = { pass.ledger with
          reports := pass.ledger.reports ++
            [⟨r.configuration.policy.occursDiagnostic, r.configuration.reporter.records⟩] }) ∧
    (n ≤ (r.configuration.policy.limit .maxOccurs).toNat ∨ 18446744073709551615 < n →
      Checked.checkDocument (r.context files) (Markup.read text)
          (.start r.configuration.startParse.ledger) = (do
        Checked.afterOccurs t
        Checked.checkDocument (r.context files)
          { Markup.read text with tokens := after }) pass) ∧
    ∀ pass', Checked.expandText (r.context files) value pass' = .ok () pass' := by
  have hrun := h.checkDocument_eq hvalue hn
  refine ⟨?_, ?_, ?_⟩
  · intro hlarge hbits
    have hlimit : ((r.context files).policy.limit .maxOccurs).toNat < n := hlarge
    have hcheck := checkText_eq files text r
    rw [hrun, if_pos ⟨hlimit, hbits⟩, Checked.raise_apply] at hcheck
    exact ⟨_, hcheck, rfl⟩
  · intro hpassed
    have hlimit : ¬ (((r.context files).policy.limit .maxOccurs).toNat < n ∧
        n ≤ 18446744073709551615) := by
      rintro ⟨hlt, hle⟩
      rcases hpassed with hsmall | hlarge
      · exact Nat.not_lt.mpr hsmall hlt
      · exact Nat.not_lt.mpr hle hlarge
    rw [hrun, if_neg hlimit]
  · exact Checked.expandText_of_references_nil (references_of_denotes hn)

end DocumentReader

namespace Occurrences

/-- A document of one element of XML Schema, with what it says of occurrences. -/
def schemaText (value : String) : String :=
  "<x:e xmlns:x=\"" ++ schemaNamespace ++ "\" maxOccurs=\"" ++ value ++ "\"/>"

def schemaTag (value : String) : Markup.Tag :=
  ⟨"x:e", (" xmlns:x=\"" ++ schemaNamespace ++ "\" maxOccurs=\"" ++ value ++ "\"").toList⟩

/-- How a check stands where it comes to the occurrences of the element. -/
def schemaPass : Pass :=
  { Pass.start .empty with elements := 1, maxDepth := 1, scopes := [[("x", schemaNamespace)]] }

theorem reaches_schema {value : String}
    (hread : Markup.read (schemaText value) = ⟨[.emptyTag (schemaTag value)], none⟩)
    (hattributes : (schemaTag value).attributes =
      ⟨[⟨"xmlns:x", schemaNamespace⟩, ⟨"maxOccurs", value⟩], none⟩)
    (hreferences : references value = []) :
    Checked.ReachesOccurs Plain.offline (Markup.read (schemaText value)) .empty []
      (.emptyTag (schemaTag value)) [] (schemaTag value) schemaPass where
  tokens := by rw [hread]; rfl
  isTag := rfl
  reaches := by
    have hcount : Checked.countElement Plain.offline (schemaTag value).name 1 (.start .empty) =
        .ok () { Pass.start .empty with elements := 1, maxDepth := 1 } := rfl
    have hvalues : Checked.expandValues Plain.offline
        [⟨"xmlns:x", schemaNamespace⟩, ⟨"maxOccurs", value⟩]
        { Pass.start .empty with elements := 1, maxDepth := 1 } =
          .ok () { Pass.start .empty with elements := 1, maxDepth := 1 } := by
      refine Checked.expandValues_of_references_nil ?_ _
      have hschema : references schemaNamespace = [] := by decide +kernel
      simp [hschema, hreferences]
    have hdeclarations : Markup.declarations
        [⟨"xmlns:x", schemaNamespace⟩, ⟨"maxOccurs", value⟩] = [("x", schemaNamespace)] := by
      have hx : Markup.Attribute.declaredPrefix? ⟨"xmlns:x", schemaNamespace⟩ = some "x" := by
        decide +kernel
      have hno : Markup.Attribute.declaredPrefix? ⟨"maxOccurs", ""⟩ = none := by decide +kernel
      have hmax : Markup.Attribute.declaredPrefix? ⟨"maxOccurs", value⟩ = none := hno
      simp only [Markup.declarations, List.filterMap_cons, List.filterMap_nil, hx, hmax,
        Option.map_some, Option.map_none]
    have hscope : Checked.scopeElement Plain.offline (schemaTag value) 1 (.start .empty) =
        .ok () schemaPass := by
      simp only [Checked.scopeElement, hattributes, hdeclarations]
      exact (bind_of_ok hcount).trans ((bind_of_ok hvalues).trans rfl)
    exact hscope
  inSchema := by
    have hx : Markup.namespaceOf? [[("x", schemaNamespace)]] "x:e" = some schemaNamespace := by
      decide
    exact hx

/-- One occurrence more than the limit is too many. -/
theorem occurs_beyond_limit :
    (Policy.initial.limit .maxOccurs).toNat < 3001 ∧
      ∃ r', DocumentReader.checkText Plain.noFiles (schemaText "3001")
        (.plain (fun _ => false) none) = (.error (.fatal Policy.initial.occursDiagnostic), r') := by
  have hattributes : (schemaTag "3001").attributes =
      ⟨[⟨"xmlns:x", schemaNamespace⟩, ⟨"maxOccurs", "3001"⟩], none⟩ := by decide +kernel
  have hdenotes : Text.Denotes (Text.trim "3001".toList) 3001 :=
    ⟨by decide, List.all_eq_true.mp (by decide +kernel), by decide +kernel⟩
  have hreaches := reaches_schema (by decide +kernel) hattributes (references_of_denotes hdenotes)
  have hmem : ⟨"maxOccurs", "3001"⟩ ∈ (schemaTag "3001").attributes.attributes := by
    rw [hattributes]
    simp
  have hoccurs := DocumentReader.occurs_of_checkText hreaches hmem hdenotes
  obtain ⟨r', hcheck, _⟩ := hoccurs.1 (by decide) (by decide)
  exact ⟨by decide, r', hcheck⟩

/-- But so many that 64 bits do not hold the number pass. -/
theorem not_forall_occurs_bounded :
    ¬ ∀ (files : Files) (text value : String) (r : DocumentReader)
      (before after : List Markup.Token) (t : Markup.Token) (tag : Markup.Tag) (pass : Pass)
      (n : Nat),
      Checked.ReachesOccurs (r.context files) (Markup.read text)
          r.configuration.startParse.ledger before t after tag pass →
        ⟨"maxOccurs", value⟩ ∈ tag.attributes.attributes →
        Text.Denotes (Text.trim value.toList) n →
        (r.configuration.policy.limit .maxOccurs).toNat < n →
        ∃ r', DocumentReader.checkText files text r = (.error
          (r.configuration.reporter.verdict r.configuration.policy.occursDiagnostic), r') := by
  intro hall
  have hattributes : (schemaTag "18446744073709551616").attributes =
      ⟨[⟨"xmlns:x", schemaNamespace⟩, ⟨"maxOccurs", "18446744073709551616"⟩], none⟩ := by
    decide +kernel
  have hmem : ⟨"maxOccurs", "18446744073709551616"⟩ ∈
      (schemaTag "18446744073709551616").attributes.attributes := by
    rw [hattributes]
    simp
  have hdenotes : Text.Denotes (Text.trim "18446744073709551616".toList) 18446744073709551616 :=
    ⟨by decide, List.all_eq_true.mp (by decide +kernel), by decide +kernel⟩
  have hread : Markup.read (schemaText "18446744073709551616") =
      ⟨[.emptyTag (schemaTag "18446744073709551616")], none⟩ := by decide +kernel
  have hreaches := reaches_schema hread hattributes (references_of_denotes hdenotes)
  obtain ⟨r', hcheck⟩ := hall Plain.noFiles _ _ (.plain (fun _ => false) none) _ _ _ _ _ _ hreaches
    hmem hdenotes (by decide)
  obtain ⟨pass, hfails, _⟩ := DocumentReader.failure_of_checkText hcheck
  have hpasses : Checked.checkDocument Plain.offline
      (Markup.read (schemaText "18446744073709551616")) (.start .empty) =
        .ok () { schemaPass with scopes := [] } := by
    rw [hreaches.checkDocument_eq hmem hdenotes, if_neg (by decide), hread]
    rfl
  have hsame := hfails.symm.trans hpasses
  cases hsame

end Occurrences

end XmlBounds
