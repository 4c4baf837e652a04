import XmlBounds.Proofs.Check.Plain
import XmlBounds.Proofs.Ledger.History

/-!
# Documents within the limits

A document that passes the check is within every limit: what was counted for the report, what its
elements carry, and what its entities hold, wherever their text came from.
-/

namespace XmlBounds

/-! ## Expansions and depth -/

/-- Successes keep the count of expansions and the depth within their limits. -/
def Contract.restrains (ctx : CheckContext) : Contract Pass where
  success p q :=
    (p.expansions ≤ (ctx.policy.limit .entityExpansions).toNat →
      q.expansions ≤ (ctx.policy.limit .entityExpansions).toNat) ∧
    (p.maxDepth ≤ (ctx.policy.limit .elementDepth).toNat →
      q.maxDepth ≤ (ctx.policy.limit .elementDepth).toNat)
  failure _ _ := True

namespace Contract

variable {ctx : CheckContext} {α : Type}

instance : (restrains ctx).Composes where
  refl _ := ⟨id, id⟩
  trans h h' := ⟨fun hp => h'.1 (h.1 hp), fun hp => h'.2 (h.2 hp)⟩
  stop _ := trivial
  after _ _ := trivial

theorem restrains_of_eq {p q : Pass} (hexpansions : q.expansions = p.expansions)
    (hdepth : q.maxDepth = p.maxDepth) : (restrains ctx).success p q := by
  constructor
  · intro hp
    rw [hexpansions]
    exact hp
  · intro hp
    rw [hdepth]
    exact hp

theorem restrains_accounted (x : Accounted α) : (restrains ctx).Holds (Checked.accounted x) where
  of_ok h := by
    simp only [Checked.accounted, Accounted.within] at h
    split at h
    · cases h
      exact restrains_of_eq rfl rfl
    · cases h
  of_error _ := trivial

theorem restrains_countExpansion (kind : ReferenceKind) (name : String)
    (entity : Dtd.EntityDecl) :
    (restrains ctx).Holds (Checked.countExpansion ctx kind name entity) where
  of_ok {p _ q} h := by
    have hcount := Checked.expansions_of_countExpansion h
    have hdepth : q.maxDepth = p.maxDepth := by
      rw [Checked.countExpansion_apply] at h
      obtain ⟨_, mid, hraise, hnote⟩ := ok_of_bind h
      obtain ⟨_, rfl⟩ := Checked.eq_none_of_raiseIf hraise
      cases hnote
      rfl
    refine ⟨fun _ => hcount.2, ?_⟩
    intro hp
    rw [hdepth]
    exact hp
  of_error _ := trivial

theorem restrains_countElement (name : String) (depth : Nat) :
    (restrains ctx).Holds (Checked.countElement ctx name depth) where
  of_ok h := by
    obtain ⟨_, mid, hset, hraise⟩ := ok_of_bind h
    cases hset
    obtain ⟨hfound, rfl⟩ := Checked.eq_none_of_raiseIf hraise
    have hdepth : depth ≤ (ctx.policy.limit .elementDepth).toNat := by
      simpa [Policy.checkDepth] using hfound
    exact ⟨id, fun hp => Nat.max_le.mpr ⟨hp, hdepth⟩⟩
  of_error _ := trivial

theorem restrains_covers (ctx : CheckContext) : (restrains ctx).Covers ctx where
  raise d := restrains_accounted _
  dispatch e := by
    refine (restrains_accounted _).bind fun out => ?_
    cases out with
    | none => exact holds_pure _
    | some e' => exact holds_modify fun _ => restrains_of_eq rfl rfl
  expansion _ _ := restrains_countExpansion _ _ _
  entity _ _ _ _ _ := (restrains_countExpansion _ _ _).bind fun _ => restrains_accounted _
  subset _ _ _ := restrains_accounted _
  element := restrains_countElement
  aside _ hexpansions hdepth := restrains_of_eq hexpansions hdepth

/-! ## The total of entity text -/

theorem bounds_coversLedger (ctx : CheckContext) (hreporter : ctx.reporter.NeverInterrupts) :
    (bounds (ctx.policy.limit .totalEntitySize).toNat).CoversLedger ctx where
  raise := bounds_raise _
  monitor := bounds_sizeMonitor
  expansion _ _ := bounds_note _
  entity _ _ _ _ _ := (bounds_note _).bind fun _ => bounds_fetch hreporter
  subset _ _ _ := bounds_fetch hreporter

end Contract

/-! ## Entities -/

/-- What was delivered for a named entity is within the limit for its kind. -/
def DeliversWithin (policy : Policy) (new : List Entry) : Prop :=
  ∀ name units, .delivered name units ∈ new → units ≤ policy.sizeLimit name

/-- The text of every external entity was delivered before the next entity was expanded. -/
def DeliversExternal (new : List Entry) : Prop :=
  ∀ newer older kind name entity, new = newer ++ .expanded kind name entity :: older →
    entity.isExternal = true → ∃ later units between,
      newer = later ++ .delivered entity.name units :: between ∧
        ∀ e ∈ between, e.isExpansion = false

theorem deliversExternal_nil : DeliversExternal [] := by
  intro newer older kind name entity h
  simp at h

theorem DeliversExternal.append {older newer : List Entry} (h : DeliversExternal older)
    (h' : DeliversExternal newer) : DeliversExternal (newer ++ older) := by
  intro after before kind name entity hsplit hexternal
  rcases List.append_eq_append_iff.mp hsplit with ⟨rest, rfl, hrest⟩ | ⟨rest, rfl, hrest⟩
  · obtain ⟨later, units, between, rfl, hbetween⟩ := h rest before kind name entity hrest hexternal
    exact ⟨newer ++ later, units, between, by simp, hbetween⟩
  · cases rest with
    | nil =>
        obtain ⟨later, units, between, hnil, _⟩ := h [] before kind name entity hrest.symm hexternal
        simp at hnil
    | cons e rest =>
        cases hrest
        exact h' after rest kind name entity rfl hexternal

theorem deliversExternal_snoc {kind : ReferenceKind} {name : String} {entity : Dtd.EntityDecl}
    {new : List Entry} (hnew : ∀ e ∈ new, e.isExpansion = false)
    (hends : entity.isExternal = true → ∃ units rest, new = .delivered entity.name units :: rest) :
    DeliversExternal (new ++ [.expanded kind name entity]) := by
  intro after before kind' name' entity' hsplit hexternal
  have hlast : after = new ∧ entity' = entity := by
    rcases List.append_eq_append_iff.mp hsplit with ⟨rest, rfl, hrest⟩ | ⟨rest, rfl, hrest⟩
    · cases rest with
      | nil =>
          cases hrest
          exact ⟨by simp, rfl⟩
      | cons e rest => simp at hrest
    · cases rest with
      | nil =>
          cases hrest
          exact ⟨by simp, rfl⟩
      | cons e rest =>
          cases hrest
          have hexpansion := hnew (.expanded kind' name' entity') (by simp)
          cases hexpansion
  obtain ⟨rfl, rfl⟩ := hlast
  obtain ⟨units, rest, rfl⟩ := hends hexternal
  exact ⟨[], units, rest, rfl, fun e he => hnew e (List.mem_cons_of_mem _ he)⟩

/-- What holds of the entities of a document that passes. -/
structure EntitiesWithin (policy : Policy) (new : List Entry) : Prop where
  declared : DeclaresWithin policy new
  delivered : DeliversWithin policy new
  external : DeliversExternal new

namespace EntitiesWithin

variable {policy : Policy} {older newer new : List Entry}

theorem nil : EntitiesWithin policy [] where
  declared _ _ h := by cases h
  delivered _ _ h := by cases h
  external := deliversExternal_nil

theorem append (h : EntitiesWithin policy older) (h' : EntitiesWithin policy newer) :
    EntitiesWithin policy (newer ++ older) where
  declared name text hmem := by
    rcases List.mem_append.mp hmem with hmem | hmem
    · exact h'.declared name text hmem
    · exact h.declared name text hmem
  delivered name units hmem := by
    rcases List.mem_append.mp hmem with hmem | hmem
    · exact h'.delivered name units hmem
    · exact h.delivered name units hmem
  external := h.external.append h'.external

instance : Additive (EntitiesWithin policy) fun _ => True where
  nil := nil
  append := append
  stop := trivial
  appendFailure _ _ := trivial

theorem of_no_expansion (hnew : ∀ e ∈ new, e.isExpansion = false)
    (hdeclared : DeclaresWithin policy new) (hdelivered : DeliversWithin policy new) :
    EntitiesWithin policy new where
  declared := hdeclared
  delivered := hdelivered
  external := by
    rintro after before kind name entity rfl _
    have hexpansion := hnew (.expanded kind name entity) (by simp)
    cases hexpansion

theorem of_fetched {directory : String} {kind : ResourceKind} {id : ResourceId}
    (h : Fetched policy directory kind id new) :
    EntitiesWithin policy new ∧ ∀ e ∈ new, e.isExpansion = false := by
  have hexpansion : Entry.All (·.isExpansion = false) new :=
    h.all rfl rfl (fun _ _ => rfl) (fun _ _ => rfl) fun _ _ _ => rfl
  have hdeclared : Entry.All (fun e => ∀ name text, e ≠ .declared name text) new :=
    h.all (by simp) (by simp) (by simp) (by simp) (by simp)
  have hdelivered : Entry.All
      (fun e => ∀ name units, e = .delivered name units → units ≤ policy.sizeLimit name) new := by
    refine h.all (by simp) (by simp) (by simp) (by simp) ?_
    intro name units hunits name' units' he
    cases he
    exact hunits
  refine ⟨of_no_expansion hexpansion ?_ ?_, hexpansion⟩
  · intro name text hmem
    exact absurd rfl (hdeclared _ hmem name text)
  · intro name units hmem
    exact hdelivered _ hmem name units rfl

theorem snoc {kind : ReferenceKind} {name : String} {entity : Dtd.EntityDecl}
    (h : EntitiesWithin policy new) (hnew : ∀ e ∈ new, e.isExpansion = false)
    (hends : entity.isExternal = true →
      ∃ units rest, new = .delivered entity.name units :: rest) :
    EntitiesWithin policy (new ++ [.expanded kind name entity]) where
  declared name text hmem := h.declared name text (by simpa using hmem)
  delivered name units hmem := h.delivered name units (by simpa using hmem)
  external := deliversExternal_snoc hnew hends

theorem coversEntries (ctx : CheckContext) :
    Contract.CoversEntries (EntitiesWithin ctx.policy) (fun _ => True) ctx where
  declared := by
    rintro new (_ | _) hwithin
    · exact nil
    · refine of_no_expansion ?_ hwithin ?_
      · simp [Entry.isExpansion]
      · intro name units hmem
        simp at hmem
  undeclared _ := trivial
  expanded {kind name entity} _ hinternal := by
    refine nil.snoc (fun e he => by cases he) fun hexternal => ?_
    rw [hinternal] at hexternal
    cases hexternal
  entity _ _ hname hfetched hends := by
    obtain ⟨hwithin, hnone⟩ := of_fetched hfetched
    exact hwithin.snoc hnone fun _ => hends _ hname
  entityFailing _ _ _ _ := trivial
  subset _ _ hfetched := (of_fetched hfetched).1
  subsetFailing _ _ _ := trivial

end EntitiesWithin

/-! ## Attributes -/

def Markup.Token.tag? : Markup.Token → Option Markup.Tag
  | .startTag tag | .emptyTag tag => some tag
  | _ => none

namespace Checked

variable {ctx : CheckContext} {pass pass' : Pass}

theorem attributes_le_of_startElement {tag : Markup.Tag} {depth : Nat}
    (h : startElement ctx tag depth pass = .ok () pass') :
    tag.attributes.attributes.length ≤ (ctx.policy.limit .elementAttributes).toNat := by
  obtain ⟨_, _, _, h⟩ := ok_of_bind h
  obtain ⟨_, _, _, h⟩ := ok_of_bind h
  obtain ⟨_, _, _, h⟩ := ok_of_bind h
  obtain ⟨_, _, hraise, _⟩ := ok_of_bind h
  have hnone := (eq_none_of_raiseIf hraise).1
  simpa [Policy.checkAttributes] using hnone

theorem attributes_le_of_checkToken {t : Markup.Token} {tag : Markup.Tag}
    (htag : t.tag? = some tag) (h : checkToken ctx t pass = .ok () pass') :
    tag.attributes.attributes.length ≤ (ctx.policy.limit .elementAttributes).toNat := by
  cases t with
  | startTag tag' =>
      cases htag
      obtain ⟨_, _, _, h⟩ := ok_of_bind h
      obtain ⟨_, _, _, h⟩ := ok_of_bind h
      exact attributes_le_of_startElement h
  | emptyTag tag' =>
      cases htag
      obtain ⟨_, _, _, h⟩ := ok_of_bind h
      obtain ⟨_, _, hstart, _⟩ := ok_of_bind h
      exact attributes_le_of_startElement hstart
  | _ => cases htag

theorem attributes_le_of_checkTokens {tokens : List Markup.Token} {t : Markup.Token}
    {tag : Markup.Tag} (hmem : t ∈ tokens) (htag : t.tag? = some tag)
    (h : checkTokens ctx tokens pass = .ok () pass') :
    tag.attributes.attributes.length ≤ (ctx.policy.limit .elementAttributes).toNat := by
  induction tokens generalizing pass with
  | nil => cases hmem
  | cons first rest ih =>
      obtain ⟨_, mid, hfirst, hrest⟩ := ok_of_bind h
      rcases List.mem_cons.mp hmem with rfl | hmem
      · exact attributes_le_of_checkToken htag hfirst
      · exact ih hmem hrest

/-- A document that passes was read to its end, and its tokens pass. -/
theorem tokens_of_checkDocument {document : Markup.Document}
    (h : checkDocument ctx document pass = .ok () pass') :
    document.fault = none ∧ checkTokens ctx document.tokens pass = .ok () pass' := by
  obtain ⟨_, mid, htokens, h⟩ := ok_of_bind h
  cases hfault : document.fault with
  | none =>
      rw [hfault] at h
      cases h
      exact ⟨rfl, htokens⟩
  | some fault =>
      rw [hfault] at h
      cases h

end Checked

/-! ## The check -/

/-- A document and the account of its check are within the limits of a policy. -/
structure WithinLimits (policy : Policy) (document : Markup.Document) (report : CheckReport)
    (new : List Entry) : Prop where
  complete : document.fault = none
  expansions : report.expansions ≤ (policy.limit .entityExpansions).toNat
  depth : report.maxDepth ≤ (policy.limit .elementDepth).toNat
  attributes : ∀ t ∈ document.tokens, ∀ tag, t.tag? = some tag →
    tag.attributes.attributes.length ≤ (policy.limit .elementAttributes).toNat
  entities : EntitiesWithin policy new

/-- A document that passes the check is within the limits, and so is each entity that was declared
or fetched for it. Only one who interrupts the reading of an entity when the violation is reported
can let the total pass. -/
theorem withinLimits_of_checkText {files : Files} {text : String} {r r' : DocumentReader}
    {report : CheckReport} (h : DocumentReader.checkText files text r = (.ok report, r')) :
    ∃ new, r'.configuration.ledger.journal = new ++ r.configuration.ledger.journal ∧
      WithinLimits r.configuration.policy (Markup.read text) report new ∧
      (r.configuration.reporter.NeverInterrupts →
        report.entityText ≤ (r.configuration.policy.limit .totalEntitySize).toNat) := by
  -- The journal, the counters of the pass and the total are each kept by a contract of its own.
  obtain ⟨new, hgrows, hentities, _⟩ :=
    DocumentReader.exists_entries_of_checkText (EntitiesWithin.coversEntries _) h
  obtain ⟨pass, hpass, rfl, hledger⟩ := DocumentReader.of_checkText h
  have hcounts :=
    (Contract.restrains_covers (r.context files)).checkDocument (Markup.read text)
  obtain ⟨hfault, htokens⟩ := Checked.tokens_of_checkDocument hpass
  refine ⟨new, hgrows.journal, ?_, fun hreporter => ?_⟩
  · constructor
    · exact hfault
    · exact (hcounts.of_ok hpass).1 (Nat.zero_le _)
    · exact (hcounts.of_ok hpass).2 (Nat.zero_le _)
    · intro t hmem tag htag
      exact Checked.attributes_le_of_checkTokens hmem htag htokens
    · exact hentities pass.report rfl
  · have htotal := (Contract.bounds_coversLedger (r.context files) hreporter).covers.checkDocument
      (Markup.read text)
    exact htotal.of_ok hpass (Nat.zero_le _)

/-- A document that declares an entity and refers to it passes within the initial limits. -/
theorem withinLimits_declared_reference :
    ∃ report r', DocumentReader.checkText Plain.noFiles "<!DOCTYPE a [<!ENTITY e 'x'>]><a>&e;</a>"
        (.plain (fun _ => false) none) = (.ok report, r') ∧
      report.expansions = 1 ∧ report.entityText = 1 ∧
      ∃ new, r'.configuration.ledger.journal = new ++ [] ∧
        WithinLimits .initial (Markup.read "<!DOCTYPE a [<!ENTITY e 'x'>]><a>&e;</a>") report new ∧
        report.entityText ≤ (Policy.initial.limit .totalEntitySize).toNat := by
  have hread : Markup.read "<!DOCTYPE a [<!ENTITY e 'x'>]><a>&e;</a>" =
      ⟨[.doctype "a [<!ENTITY e 'x'>]", .startTag ⟨"a", []⟩, .text "&e;", .endTag], none⟩ := by
    decide +kernel
  obtain ⟨r', hcheck, _⟩ := Plain.checkText_plain "<!ENTITY e 'x'>" "e" hread
    (by decide +kernel) (by decide +kernel) (by decide +kernel) (by decide +kernel)
    (by decide +kernel)
  obtain ⟨new, hjournal, hwithin, htotal⟩ := withinLimits_of_checkText hcheck
  exact ⟨_, r', hcheck, rfl, rfl, new, hjournal, hwithin,
    htotal (Reporter.neverInterrupts_failOnFatal false)⟩

/-- The reading of an entity goes on after an interruption, though it was for the total. -/
theorem not_forall_entityText_le :
    ¬ ∀ (files : Files) (text : String) (r r' : DocumentReader) (report : CheckReport),
      DocumentReader.checkText files text r = (.ok report, r') →
        report.entityText ≤ (r.configuration.policy.limit .totalEntitySize).toNat := by
  intro h
  obtain ⟨report, r', hcheck, htotal, _⟩ : ∃ report r', DocumentReader.checkText Plain.noFiles
      Interrupting.text (Interrupting.reader Interrupting.strict) = (.ok report, r') ∧
        report.entityText = 3 ∧ report.expansions = 1 :=
    Interrupting.exists_checkText (by decide +kernel)
  have hle := h _ _ _ _ _ hcheck
  rw [htotal] at hle
  exact absurd hle (by decide)

end XmlBounds
