import XmlBounds.Check.Document
import XmlBounds.Proofs.Judgement

/-!
# Contracts of a pass

A pass is put together from few kinds of step: it raises diagnostics, dispatches events, counts
expansions and elements, and fetches external resources. A contract that composes and that these
keep to is kept by the whole pass, however deep its references go.
-/

namespace XmlBounds

/-- The switch that lets the external entities of a kind be fetched. -/
def ReferenceKind.feature : ReferenceKind → Feature
  | general => .externalGeneralEntities
  | parameter => .externalParameterEntities

/-- How the name of a declaration fits a reference to it. -/
def ReferenceKind.Finds : ReferenceKind → String → Dtd.EntityDecl → Prop
  | general, name, d => d.name = name
  | parameter, _, d => d.isParameter = true

theorem Dtd.EntityTable.finds_general {t : EntityTable} {name : String} {d : EntityDecl}
    (h : t.general? name = some d) : ReferenceKind.general.Finds name d :=
  (mem_of_find? h).2

theorem Dtd.EntityTable.finds_parameter {t : EntityTable} {name : String} {d : EntityDecl}
    (h : t.parameter? name = some d) : ReferenceKind.parameter.Finds name d := by
  unfold parameter? at h
  split at h
  · next hp =>
      obtain ⟨_, rfl⟩ := mem_of_find? h
      exact hp
  · have hd : d.name = parameterName name := (mem_of_find? h).2
    simp [ReferenceKind.Finds, EntityDecl.isParameter, hd, isParameterName, parameterName]

namespace Checked

/-- What is done for one reference, the given entities being open. -/
def expandReference (ctx : CheckContext) (table : Dtd.EntityTable) (opened : List String)
    (name : String) : Checked Unit :=
  if isBuiltIn name then pure ()
  else
    match table.general? name with
    | none => undeclared name
    | some d =>
        if isLeftAlone ctx d then pure ()
        else if name ∈ opened then raiseRecursion ctx opened name
        else do
          let text ← replacement ctx name d
          expandAll ctx table (name :: opened) (references text)

/-- References are expanded one after the other. -/
theorem expandAll_named (ctx : CheckContext) (table : Dtd.EntityTable) (opened : List String)
    (name : String) (rest : List Reference) :
    expandAll ctx table opened (.named name :: rest) = (do
      expandReference ctx table opened name
      expandAll ctx table opened rest) := by
  rw [expandAll, expandReference]
  by_cases hbuiltIn : isBuiltIn name = true
  · rw [if_pos hbuiltIn, if_pos hbuiltIn]
  · rw [if_neg hbuiltIn, if_neg hbuiltIn]
    split
    · next hd => rw [hd]
    · next d hd =>
        rw [hd]
        by_cases ho : name ∈ opened
        · simp only [dif_pos ho, if_pos ho]
        · simp only [dif_neg ho, if_neg ho]

theorem runFrames_nil (ctx : CheckContext) : runFrames ctx [] = (pure () : Checked Unit) := by
  funext pass
  rw [runFrames]
  rfl

theorem runFrames_leave (ctx : CheckContext) (entity : Option String) (outer : List Frame) :
    runFrames ctx (⟨entity, []⟩ :: outer) = runFrames ctx outer := by
  funext pass
  rw [runFrames]

/-- What a reference leads to is run before the other events. -/
theorem runFrames_step (ctx : CheckContext) (entity : Option String) (e : Dtd.Event)
    (events : List Dtd.Event) (outer : List Frame) :
    runFrames ctx (⟨entity, e :: events⟩ :: outer) = (do
      match ← step ctx (Frame.opened (⟨entity, e :: events⟩ :: outer)) e with
      | none => runFrames ctx (⟨entity, events⟩ :: outer)
      | some inner => runFrames ctx (inner :: ⟨entity, events⟩ :: outer) : Checked Unit) := by
  funext pass
  rw [runFrames]
  cases hstep : step ctx (Frame.opened (⟨entity, e :: events⟩ :: outer)) e pass with
  | error fault mid => simp only [Bind.bind, EStateM.bind, hstep]
  | ok outcome mid =>
      rw [bind_of_ok hstep]
      cases outcome <;> rfl

end Checked

/-- The change has nothing to do with the ledger, nor with what is held against a limit. -/
structure Pass.Aside (f : Pass → Pass) : Prop where
  ledger (p : Pass) (ledger : Ledger) : f { p with ledger } = { f p with ledger }
  expansions (p : Pass) : (f p).expansions = p.expansions
  maxDepth (p : Pass) : (f p).maxDepth = p.maxDepth

/-- A change that treats all ledgers the same leaves them alone. -/
theorem Pass.ledger_of_outside {f : Pass → Pass}
    (hf : ∀ (p : Pass) (ledger : Ledger), f { p with ledger } = { f p with ledger }) (p : Pass) :
    (f p).ledger = p.ledger := by
  have hsame : f p = { f p with ledger := p.ledger } := hf p p.ledger
  rw [hsame]

namespace Judgement

open Checked

/-- The steps that a pass takes for references and declarations are judged so. -/
structure CoversTexts (J : Judgement Pass) (ctx : CheckContext) : Prop where
  /-- Passes that are alike know the same entities. -/
  entities : ∀ {p q : Pass}, J.alike p q →
    q.table = p.table ∧ q.skippedExternal = p.skippedExternal
  raise : ∀ {α : Type} {d : Diagnostic}, d.key ≠ .maxOccurs → J.Always (raise ctx d : Checked α)
  dispatch : ∀ e, J.Always (dispatch ctx e)
  expansion : ∀ {kind name entity}, kind.Finds name entity → entity.isExternal = false →
    J.Always (countExpansion ctx kind name entity)
  entity : ∀ {kind name entity}, kind.Finds name entity → ctx.isEnabled kind.feature = true →
    ∀ publicId systemId base,
      J.Always (fetchEntity ctx kind name entity publicId systemId base)
  subset : ctx.isEnabled .loadExternalDtd = true → ∀ publicId systemId,
    J.Always (accounted (fetch ctx .dtd ⟨publicId, some systemId, ctx.systemId, none⟩))
  skip : J.Always skipExternal
  root : ∀ name, J.Always (modify fun pass => { pass with doctype := some name })

/-- The steps of a pass are judged so. -/
structure Covers (J : Judgement Pass) (ctx : CheckContext) : Prop where
  /-- Only the ledger may differ between passes that are alike. -/
  outside : ∀ {p q : Pass}, J.alike p q → ∃ ledger, q = { p with ledger }
  raise : ∀ {α : Type} (d : Diagnostic), J.Always (raise ctx d : Checked α)
  dispatch : ∀ e, J.Always (dispatch ctx e)
  expansion : ∀ {kind name entity}, kind.Finds name entity → entity.isExternal = false →
    J.Always (countExpansion ctx kind name entity)
  entity : ∀ {kind name entity}, kind.Finds name entity → ctx.isEnabled kind.feature = true →
    ∀ publicId systemId base,
      J.Always (fetchEntity ctx kind name entity publicId systemId base)
  subset : ctx.isEnabled .loadExternalDtd = true → ∀ publicId systemId,
    J.Always (accounted (fetch ctx .dtd ⟨publicId, some systemId, ctx.systemId, none⟩))
  element : ∀ name depth, J.Always (countElement ctx name depth)
  aside : ∀ {f : Pass → Pass}, Pass.Aside f → J.Always (modify f)

variable {J : Judgement Pass} {ctx : CheckContext}

namespace CoversTexts

variable [J.Composes]

/-- A pass may be gone by as far as it is about entities. -/
theorem read (hJ : J.CoversTexts ctx) {α : Type} {f : Pass → Checked α}
    (hf : ∀ {p q : Pass}, q.table = p.table → q.skippedExternal = p.skippedExternal → f q = f p)
    (h : ∀ p, J.Always (f p)) : J.Always (get >>= f) := by
  refine always_read (fun p q halike => ?_) h
  obtain ⟨htable, hskipped⟩ := hJ.entities halike
  exact hf htable hskipped

theorem undeclared (hJ : J.CoversTexts ctx) (name : String) :
    J.Always (Checked.undeclared name) := by
  refine hJ.read (fun _ hskipped => by rw [hskipped]) fun pass => ?_
  split
  · exact always_pure _
  · exact always_throw _

theorem replacement (hJ : J.CoversTexts ctx) {name : String} {d : Dtd.EntityDecl}
    (hd : ReferenceKind.general.Finds name d) (hleft : isLeftAlone ctx d = false) :
    J.Always (Checked.replacement ctx name d) := by
  unfold Checked.replacement
  split
  · next hk =>
      have hinternal : d.isExternal = false := by simp [Dtd.EntityDecl.isExternal, hk]
      exact (hJ.expansion hd hinternal).bind fun _ => always_pure _
  · next hk =>
      have hon : ctx.isEnabled .externalGeneralEntities = true := by
        simpa [isLeftAlone, Dtd.EntityDecl.isExternal, hk] using hleft
      exact (hJ.entity hd hon _ _ _).bind fun _ => always_pure _
  · exact always_throw _

theorem expandAll (hJ : J.CoversTexts ctx) (table : Dtd.EntityTable) (opened : List String)
    (refs : List Reference) : J.Always (Checked.expandAll ctx table opened refs) := by
  induction opened, refs using Checked.expandAll.induct table with
  | case1 opened =>
      rw [Checked.expandAll]
      exact always_pure _
  | case2 opened text rest =>
      rw [Checked.expandAll]
      exact always_throw _
  | case3 opened name rest inner outer =>
      rw [Checked.expandAll]
      refine Always.bind ?_ fun _ => outer
      split
      · exact always_pure _
      · split
        · exact hJ.undeclared name
        · next d hd =>
            split
            · exact always_pure _
            · next hleft =>
                split
                · exact hJ.raise (by rintro ⟨⟩)
                · next ho =>
                    have hfinds := Dtd.EntityTable.finds_general hd
                    have htext := hJ.replacement hfinds (by simpa using hleft)
                    exact htext.bind fun text => inner d hd ho text

theorem expandText (hJ : J.CoversTexts ctx) (text : String) :
    J.Always (Checked.expandText ctx text) :=
  hJ.read (fun htable _ => by rw [htable]) fun _ => hJ.expandAll _ _ _

theorem scanned (text : String) (base : Option String) :
    J.Always (Checked.scanned text base) := by
  unfold Checked.scanned
  split
  · exact always_pure _
  · exact always_throw _

theorem enteredFrame (name text : String) (base : Option String) :
    J.Always (Checked.enteredFrame name text base) :=
  (scanned _ _).bind fun _ => always_pure _

theorem includedText (hJ : J.CoversTexts ctx) {name : String} {d : Dtd.EntityDecl}
    (hd : ReferenceKind.parameter.Finds name d) : J.Always (Checked.includedText ctx name d) := by
  unfold Checked.includedText
  split
  · next hk =>
      have hinternal : d.isExternal = false := by simp [Dtd.EntityDecl.isExternal, hk]
      exact (hJ.expansion hd hinternal).bind fun _ => enteredFrame _ _ _
  · split
    · next hon =>
        exact (hJ.entity hd hon _ _ _).bind fun _ => enteredFrame _ _ _
    · exact hJ.skip.bind fun _ => always_pure _
  · exact always_throw _

theorem included (hJ : J.CoversTexts ctx) (opened : List String) (name : String) :
    J.Always (Checked.included ctx opened name) := by
  unfold Checked.included
  split
  · exact hJ.raise nofun
  · refine hJ.read (fun htable _ => by rw [htable]) fun pass => ?_
    split
    · exact always_throw _
    · next hd => exact hJ.includedText (Dtd.EntityTable.finds_parameter hd)

theorem step (hJ : J.CoversTexts ctx) (opened : List String) (e : Dtd.Event) :
    J.Always (Checked.step ctx opened e) := by
  refine (hJ.dispatch e).bind fun _ => ?_
  split
  · exact hJ.included opened _
  · exact always_pure _

theorem runFrames (hJ : J.CoversTexts ctx) (frames : List Frame) :
    J.Always (Checked.runFrames ctx frames) := by
  intro pass
  induction frames, pass using Checked.runFrames.induct ctx with
  | case1 pass =>
      rw [runFrames_nil]
      exact always_pure () pass
  | case2 pass entity outer ih =>
      rw [runFrames_leave]
      exact ih
  | case3 pass entity e events outer fault mid hs =>
      rw [runFrames_step]
      refine Composes.bind (hJ.step _ _ pass) ?_
      intro outcome mid' hok
      rw [hs] at hok
      cases hok
  | case4 pass entity e events outer mid hs ih =>
      rw [runFrames_step]
      refine Composes.bind (hJ.step _ _ pass) ?_
      intro outcome mid' hok
      rw [hs] at hok
      cases hok
      exact ih
  | case5 pass entity e events outer inner mid hs ih =>
      rw [runFrames_step]
      refine Composes.bind (hJ.step _ _ pass) ?_
      intro outcome mid' hok
      rw [hs] at hok
      cases hok
      exact ih

theorem runSubset (hJ : J.CoversTexts ctx) (text : String) (base : Option String) :
    J.Always (Checked.runSubset ctx text base) :=
  (scanned _ _).bind fun _ => hJ.runFrames _

theorem runInternalSubset (hJ : J.CoversTexts ctx) (subset : Option String) :
    J.Always (Checked.runInternalSubset ctx subset) := by
  cases subset with
  | none => exact always_pure _
  | some text => exact hJ.runSubset _ _

theorem runExternalSubset (hJ : J.CoversTexts ctx) (publicId systemId : Option String) :
    J.Always (Checked.runExternalSubset ctx publicId systemId) := by
  cases systemId with
  | none => exact always_pure _
  | some systemId =>
      simp only [Checked.runExternalSubset]
      split
      · next hon => exact (hJ.subset hon _ _).bind fun _ => hJ.runSubset _ _
      · exact hJ.skip

theorem checkDoctype (hJ : J.CoversTexts ctx) (content : String) :
    J.Always (Checked.checkDoctype ctx content) := by
  unfold Checked.checkDoctype
  split
  · exact hJ.raise nofun
  · split
    · exact always_throw _
    · exact (hJ.root _).bind fun _ =>
        (hJ.dispatch _).bind fun _ =>
        (hJ.runInternalSubset _).bind fun _ =>
        (hJ.runExternalSubset _ _).bind fun _ => hJ.dispatch _

theorem expandValues (hJ : J.CoversTexts ctx) (attributes : List Markup.Attribute) :
    J.Always (Checked.expandValues ctx attributes) := by
  induction attributes with
  | nil => exact always_pure _
  | cons a rest ih => exact (hJ.expandText _).bind fun _ => ih

theorem refuse (name : String) (fault : Option Markup.AttributeFault) :
    J.Always (Checked.refuse name fault) := by
  cases fault with
  | none => exact always_pure _
  | some fault => exact always_throw _

end CoversTexts

namespace Covers

theorem closeScope (hJ : J.Covers ctx) : J.Always Checked.closeScope :=
  hJ.aside ⟨fun _ _ => rfl, fun _ => rfl, fun _ => rfl⟩

theorem texts (hJ : J.Covers ctx) : J.CoversTexts ctx where
  entities halike := by
    obtain ⟨ledger, rfl⟩ := hJ.outside halike
    exact ⟨rfl, rfl⟩
  raise _ := hJ.raise _
  dispatch := hJ.dispatch
  expansion := hJ.expansion
  entity := hJ.entity
  subset := hJ.subset
  skip := hJ.aside ⟨fun _ _ => rfl, fun _ => rfl, fun _ => rfl⟩
  root _ := hJ.aside ⟨fun _ _ => rfl, fun _ => rfl, fun _ => rfl⟩

variable [J.Composes]

theorem raiseIf (hJ : J.Covers ctx) (found : Option Diagnostic) :
    J.Always (Checked.raiseIf ctx found) := by
  cases found with
  | none => exact always_pure ()
  | some d => exact hJ.raise d

/-- A pass may be gone by, except for what is in its ledger. -/
theorem read (hJ : J.Covers ctx) {α : Type} {f : Pass → Checked α}
    (hf : ∀ (p : Pass) (ledger : Ledger), f { p with ledger } = f p) (h : ∀ p, J.Always (f p)) :
    J.Always (get >>= f) := by
  refine always_read ?_ h
  intro p q halike
  obtain ⟨ledger, rfl⟩ := hJ.outside halike
  exact hf p ledger

theorem checkOccurs (hJ : J.Covers ctx) (name : String) (attributes : List Markup.Attribute) :
    J.Always (Checked.checkOccurs ctx name attributes) := by
  unfold Checked.checkOccurs
  split
  · exact always_pure _
  · refine hJ.read (fun _ _ => rfl) fun pass => ?_
    split
    · exact hJ.raiseIf _
    · exact always_pure _

theorem startElement (hJ : J.Covers ctx) (tag : Markup.Tag) (depth : Nat) :
    J.Always (Checked.startElement ctx tag depth) := by
  refine (hJ.element _ _).bind fun _ =>
    (hJ.texts.expandValues _).bind fun _ =>
    (CoversTexts.refuse _ _).bind fun _ =>
    (hJ.raiseIf _).bind fun _ =>
    Always.bind (hJ.aside ?_) fun _ => hJ.checkOccurs _ _
  exact ⟨fun _ _ => rfl, fun _ => rfl, fun _ => rfl⟩

theorem openElement (hJ : J.Covers ctx) (tag : Markup.Tag) :
    J.Always (Checked.openElement ctx tag) :=
  Always.bind (hJ.aside ⟨fun _ _ => rfl, fun _ => rfl, fun _ => rfl⟩) fun _ =>
    hJ.read (fun _ _ => rfl) fun _ => hJ.startElement _ _

theorem emptyElement (hJ : J.Covers ctx) (tag : Markup.Tag) :
    J.Always (Checked.emptyElement ctx tag) :=
  hJ.read (fun _ _ => rfl) fun _ => (hJ.startElement _ _).bind fun _ => hJ.closeScope

theorem closeElement (hJ : J.Covers ctx) : J.Always Checked.closeElement :=
  Always.bind (hJ.aside ⟨fun _ _ => rfl, fun _ => rfl, fun _ => rfl⟩) fun _ => hJ.closeScope

theorem checkToken (hJ : J.Covers ctx) (t : Markup.Token) :
    J.Always (Checked.checkToken ctx t) := by
  cases t with
  | text content => exact hJ.texts.expandText content
  | doctype content => exact hJ.texts.checkDoctype content
  | startTag tag => exact hJ.openElement tag
  | emptyTag tag => exact hJ.emptyElement tag
  | endTag => exact hJ.closeElement
  | ignored => exact always_pure _

theorem checkTokens (hJ : J.Covers ctx) (tokens : List Markup.Token) :
    J.Always (Checked.checkTokens ctx tokens) := by
  induction tokens with
  | nil => exact always_pure _
  | cons t rest ih => exact (hJ.checkToken t).bind fun _ => ih

/-- A judgement that covers the steps of a pass is true of the pass over any document. -/
theorem checkDocument (hJ : J.Covers ctx) (document : Markup.Document) :
    J.Always (Checked.checkDocument ctx document) := by
  refine (hJ.checkTokens _).bind fun _ => ?_
  split
  · exact always_pure _
  · exact always_throw _

end Covers

end Judgement

namespace Contract

open Checked

/-- The steps of a pass keep to the contract. -/
structure Covers (C : Contract Pass) (ctx : CheckContext) : Prop where
  raise : ∀ {α : Type} (d : Diagnostic), C.Holds (raise ctx d : Checked α)
  dispatch : ∀ e, C.Holds (dispatch ctx e)
  expansion : ∀ {kind name entity}, kind.Finds name entity → entity.isExternal = false →
    C.Holds (countExpansion ctx kind name entity)
  entity : ∀ {kind name entity}, kind.Finds name entity → ctx.isEnabled kind.feature = true →
    ∀ publicId systemId base,
      C.Holds (fetchEntity ctx kind name entity publicId systemId base)
  subset : ctx.isEnabled .loadExternalDtd = true → ∀ publicId systemId,
    C.Holds (accounted (fetch ctx .dtd ⟨publicId, some systemId, ctx.systemId, none⟩))
  element : ∀ name depth, C.Holds (countElement ctx name depth)
  aside : ∀ {p q : Pass}, q.ledger = p.ledger → q.expansions = p.expansions →
    q.maxDepth = p.maxDepth → C.success p q

variable {C : Contract Pass} {ctx : CheckContext}

theorem Covers.judgement (hC : C.Covers ctx) : C.outcomes.judgement.Covers ctx where
  outside h := ⟨_, h⟩
  raise d := always_iff.mpr (hC.raise d)
  dispatch e := always_iff.mpr (hC.dispatch e)
  expansion hfinds hinternal := always_iff.mpr (hC.expansion hfinds hinternal)
  entity hfinds hon _ _ _ := always_iff.mpr (hC.entity hfinds hon _ _ _)
  subset hon _ _ := always_iff.mpr (hC.subset hon _ _)
  element name depth := always_iff.mpr (hC.element name depth)
  aside {f} hf := by
    refine always_iff.mpr (holds_modify fun p => ?_)
    exact hC.aside (Pass.ledger_of_outside hf.ledger p) (hf.expansions p) (hf.maxDepth p)

variable [C.Composes]

/-- A contract that the steps of a pass keep to is kept by the pass over any document. -/
theorem Covers.checkDocument (hC : C.Covers ctx) (document : Markup.Document) :
    C.Holds (Checked.checkDocument ctx document) :=
  always_iff.mp (hC.judgement.checkDocument document)

theorem holds_undeclared (name : String) : C.Holds (undeclared name) := by
  refine holds_get.bind fun pass => ?_
  split
  · exact holds_pure _
  · exact holds_throw _

theorem holds_refuse (name : String) (fault : Option Markup.AttributeFault) :
    C.Holds (refuse name fault) := always_iff.mp (Judgement.CoversTexts.refuse name fault)

end Contract

end XmlBounds
