import XmlBounds.Proofs.Check.Plain
import XmlBounds.Proofs.Ledger.History

/-!
# What a resource is fetched for

A resolver is asked for the external subset, or for the entity that was expanded last. The feature
that must be on is that of the reference, and so is the kind of entity that the reference finds,
but for one thing: a reference in text finds a parameter entity if it names the percent sign.
-/

namespace XmlBounds

/-- An expansion is of an entity that the reference finds. A resolver is asked for the external
subset, or for the entity that was expanded last, with the feature on that goes with it. -/
def Licensed (ctx : CheckContext) : Entry → List Entry → Prop
  | .asked id, older =>
      id.entityName = none ∧ ctx.isEnabled .loadExternalDtd = true ∨
        ∃ kind name entity, Newest (·.isExpansion) (.expanded kind name entity) older ∧
          kind.Finds name entity ∧ id.entityName = some entity.name ∧
          ctx.isEnabled kind.feature = true
  | .expanded kind name entity, _ => kind.Finds name entity
  | _, _ => True

namespace Licensed

variable {ctx : CheckContext} {new : List Entry}

instance : Lasting (Licensed ctx) where
  append {e older} more h := by
    cases e with
    | asked id =>
        rcases h with hsubset | ⟨kind, name, entity, hnewest, hrest⟩
        · exact .inl hsubset
        · exact .inr ⟨kind, name, entity, hnewest.append more, hrest⟩
    | expanded kind name entity => exact h
    | _ => trivial

/-- Entries of a fetch are no expansions, and ask for nothing but the resource. -/
def AsksOnly (id : ResourceId) (e : Entry) : Prop :=
  e.isExpansion = false ∧ ∀ id', e = .asked id' → id' = id

theorem asksOnly_of_fetched {policy : Policy} {directory : String} {kind : ResourceKind}
    {id : ResourceId} (h : Fetched policy directory kind id new) :
    Entry.All (AsksOnly id) new := by
  refine h.all ⟨rfl, by simp⟩ ⟨rfl, ?_⟩ ?_ ?_ ?_
  · intro id' hid
    cases hid
    rfl
  · exact fun _ _ => ⟨rfl, by simp⟩
  · exact fun _ _ => ⟨rfl, by simp⟩
  · exact fun _ _ _ => ⟨rfl, by simp⟩

theorem asksOnly_of_fails {kind : ResourceKind} {id : ResourceId}
    (h : FailsToFetch ctx kind id new) : Entry.All (AsksOnly id) new := by
  rcases h with h | ⟨rfl, _⟩
  · exact asksOnly_of_fetched h
  · exact Entry.all_singleton ⟨rfl, by simp⟩

theorem follows_entity {kind : ReferenceKind} {name : String} {entity : Dtd.EntityDecl}
    {id : ResourceId} (hfinds : kind.Finds name entity)
    (hon : ctx.isEnabled kind.feature = true) (hname : id.entityName = some entity.name)
    (h : Entry.All (AsksOnly id) new) :
    Follows (Licensed ctx) (new ++ [.expanded kind name entity]) := by
  -- The expansion stays the newest one, since a fetch expands nothing.
  induction new with
  | nil => exact ⟨hfinds, trivial⟩
  | cons e new ih =>
      have hrest : Entry.All (AsksOnly id) new := fun d hd => h d (List.mem_cons_of_mem e hd)
      refine ⟨?_, ih hrest⟩
      obtain ⟨hexpansion, hasks⟩ := h e List.mem_cons_self
      cases e with
      | asked id' =>
          rw [hasks id' rfl]
          have hnewest : Newest (·.isExpansion) (.expanded kind name entity)
              (new ++ [.expanded kind name entity]) :=
            (newest_cons []).after fun d hd => (hrest d hd).1
          exact .inr ⟨kind, name, entity, hnewest, hfinds, hname, hon⟩
      | expanded kind' name' entity' => cases hexpansion
      | _ => trivial

theorem follows_subset {id : ResourceId} (hon : ctx.isEnabled .loadExternalDtd = true)
    (hname : id.entityName = none) (h : Entry.All (AsksOnly id) new) :
    Follows (Licensed ctx) new := by
  refine follows_of_all fun e he older => ?_
  obtain ⟨hexpansion, hasks⟩ := h e he
  cases e with
  | asked id' =>
      rw [hasks id' rfl]
      exact .inl ⟨hname, hon⟩
  | expanded kind name entity => cases hexpansion
  | _ => trivial

theorem follows_declares (h : Declares new) : Follows (Licensed ctx) new := by
  cases h with
  | nothing => trivial
  | entity => exact ⟨trivial, trivial, trivial⟩

theorem coversEntries (ctx : CheckContext) :
    Contract.CoversEntries (Follows (Licensed ctx)) (Follows (Licensed ctx)) ctx where
  declared hnew _ := follows_declares hnew
  undeclared hnew := follows_declares hnew
  expanded hfinds _ := ⟨hfinds, trivial⟩
  entity hfinds hon hname hfetched _ :=
    follows_entity hfinds hon hname (asksOnly_of_fetched hfetched)
  entityFailing hfinds hon hname hfails :=
    follows_entity hfinds hon hname (asksOnly_of_fails hfails)
  subset hon hname hfetched := follows_subset hon hname (asksOnly_of_fetched hfetched)
  subsetFailing hon hname hfails := follows_subset hon hname (asksOnly_of_fails hfails)

theorem exists_of_checkText {files : Files} {text : String} {r r' : DocumentReader}
    {result : Except Fault CheckReport}
    (h : DocumentReader.checkText files text r = (result, r')) :
    ∃ new, r.configuration.startParse.ledger.Grows r'.configuration.ledger new ∧
      Follows (Licensed (r.context files)) new :=
  DocumentReader.exists_allowed_of_checkText (coversEntries (r.context files)) h

theorem finds_of_mem {kind : ReferenceKind} {name : String} {entity : Dtd.EntityDecl}
    (h : Follows (Licensed ctx) new) (hmem : .expanded kind name entity ∈ new) :
    kind.Finds name entity := by
  obtain ⟨newer, older, rfl⟩ := List.append_of_mem hmem
  exact h.split

/-- Without the features that want external resources, no resolver is asked. -/
theorem not_asked (h : Follows (Licensed ctx) new)
    (hsubset : ctx.isEnabled .loadExternalDtd = false)
    (hgeneral : ctx.isEnabled .externalGeneralEntities = false)
    (hparameter : ctx.isEnabled .externalParameterEntities = false) (id : ResourceId) :
    .asked id ∉ new := by
  intro hasked
  obtain ⟨newer, older, rfl⟩ := List.append_of_mem hasked
  rcases h.split with ⟨_, hon⟩ | ⟨kind, _, _, _, _, _, hon⟩
  · rw [hsubset] at hon
    cases hon
  · cases kind with
    | general =>
        have hcontra := hgeneral.symm.trans hon
        cases hcontra
    | parameter =>
        have hcontra := hparameter.symm.trans hon
        cases hcontra

end Licensed

/-- A reference in text expands a parameter entity if and only if it names the percent sign, and a
reference in a DTD expands nothing else. While external parameter entities are off, a resolver is
asked for one only on behalf of a reference in text, and only while external general entities are
on. -/
theorem expanded_kinds_of_checkText {files : Files} {text : String} {r r' : DocumentReader}
    {result : Except Fault CheckReport}
    (h : DocumentReader.checkText files text r = (result, r')) :
    ∃ new, r'.configuration.ledger.journal = new ++ r.configuration.ledger.journal ∧
      (∀ name entity, .expanded .general name entity ∈ new →
        (entity.isParameter = true ↔ Dtd.isParameterName name = true)) ∧
      (∀ name entity, .expanded .parameter name entity ∈ new → entity.isParameter = true) ∧
      (r.configuration.isEnabled .externalParameterEntities = false →
        ∀ newer id older name, new = newer ++ .asked id :: older → id.entityName = some name →
          Dtd.isParameterName name = true →
          r.configuration.isEnabled .externalGeneralEntities = true ∧
            ∃ entity, Newest (·.isExpansion) (.expanded .general name entity) older) := by
  obtain ⟨new, hgrows, hfollows⟩ := Licensed.exists_of_checkText h
  refine ⟨new, hgrows.journal, ?_, ?_, ?_⟩
  · intro name entity hmem
    have hname : entity.name = name := Licensed.finds_of_mem hfollows hmem
    rw [Dtd.EntityDecl.isParameter, hname]
  · intro name entity hmem
    exact Licensed.finds_of_mem hfollows hmem
  · rintro hoff newer id older name rfl hname hparameter
    rcases hfollows.split with ⟨hnone, _⟩ | ⟨kind, ref, entity, hnewest, hfinds, hentity, hon⟩
    · rw [hname] at hnone
      cases hnone
    · rw [hname] at hentity
      cases hentity
      cases kind with
      | parameter =>
          have hcontra : r.configuration.isEnabled .externalParameterEntities = true := hon
          rw [hoff] at hcontra
          cases hcontra
      | general =>
          have href : entity.name = ref := hfinds
          rw [href]
          exact ⟨hon, entity, hnewest⟩

theorem exists_check_percent : ∃ r', DocumentReader.checkText Plain.noFiles
      "<!DOCTYPE a [<!ENTITY % p 'x'>]><a>&%p;</a>" (.plain (fun _ => false) none) =
        (.ok (Plain.expandedPass "%p").report, r') ∧
    r'.configuration.ledger = (Plain.expandedPass "%p").ledger := by
  have hread : Markup.read "<!DOCTYPE a [<!ENTITY % p 'x'>]><a>&%p;</a>" =
      ⟨[.doctype "a [<!ENTITY % p 'x'>]", .startTag ⟨"a", []⟩, .text "&%p;", .endTag], none⟩ := by
    decide +kernel
  exact Plain.checkText_plain "<!ENTITY % p 'x'>" "%p" hread (by decide +kernel)
    (by decide +kernel) (by decide +kernel) (by decide +kernel) (by decide +kernel)

/-- Of the expansions of that check, the parameter entity's is one, for a name with the sign. -/
theorem expanded_percent_reference :
    ∃ r', DocumentReader.checkText Plain.noFiles "<!DOCTYPE a [<!ENTITY % p 'x'>]><a>&%p;</a>"
        (.plain (fun _ => false) none) = (.ok (Plain.expandedPass "%p").report, r') ∧
      ∃ new, r'.configuration.ledger.journal = new ++ [] ∧
        .expanded .general "%p" ⟨"%p", .internal "x"⟩ ∈ new ∧
        ∀ name entity, .expanded .general name entity ∈ new →
          (entity.isParameter = true ↔ Dtd.isParameterName name = true) := by
  obtain ⟨r', hcheck, hledger⟩ := exists_check_percent
  obtain ⟨new, hjournal, hgeneral, _⟩ := expanded_kinds_of_checkText hcheck
  refine ⟨r', hcheck, new, hjournal, ?_, hgeneral⟩
  have hnew : (Plain.expandedPass "%p").ledger.journal = new ++ [] := by
    rw [← hledger]
    exact hjournal
  rw [List.append_nil] at hnew
  rw [← hnew]
  exact List.mem_cons_self

/-- References in text do not keep to general entities. -/
theorem not_forall_expanded_general :
    ¬ ∀ (files : Files) (text : String) (r r' : DocumentReader)
        (result : Except Fault CheckReport) (new : List Entry),
      DocumentReader.checkText files text r = (result, r') →
        r'.configuration.ledger.journal = new ++ r.configuration.ledger.journal →
          ∀ name entity, .expanded .general name entity ∈ new → entity.isParameter = false := by
  intro h
  obtain ⟨r', hcheck, hledger⟩ := exists_check_percent
  have hjournal : r'.configuration.ledger.journal =
      (Plain.expandedPass "%p").ledger.journal ++ [] := by rw [hledger, List.append_nil]
  have hgeneral := h _ _ _ _ _ _ hcheck hjournal "%p" ⟨"%p", .internal "x"⟩ List.mem_cons_self
  have hparameter : (⟨"%p", .internal "x"⟩ : Dtd.EntityDecl).isParameter = true := by decide
  rw [hparameter] at hgeneral
  cases hgeneral

end XmlBounds
