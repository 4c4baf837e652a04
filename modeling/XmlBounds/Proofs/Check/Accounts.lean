import XmlBounds.Check.Reader
import XmlBounds.Proofs.Check.Contract
import XmlBounds.Proofs.Entity.Steps

/-!
# The account of a pass

Within a pass, the ledger changes in few ways: diagnostics are raised, declarations monitored,
expansions put on record, and resources fetched. What these do to a ledger the whole pass does.
-/

namespace XmlBounds

namespace Checked

variable {α : Type} {x : Accounted α} {p q : Pass}

/-- What succeeds within a pass succeeds on its ledger, and changes nothing else. -/
theorem ok_of_accounted {a : α} (h : accounted x p = .ok a q) :
    x p.ledger = .ok a q.ledger ∧ q = { p with ledger := q.ledger } := by
  simp only [accounted, Accounted.within] at h
  split at h
  · next hok =>
      cases h
      exact ⟨hok, rfl⟩
  · cases h

theorem error_of_accounted {fault : Fault} (h : accounted x p = .error fault q) :
    x p.ledger = .error fault q.ledger ∧ q = { p with ledger := q.ledger } := by
  simp only [accounted, Accounted.within] at h
  split at h
  · cases h
  · next herror =>
      cases h
      exact ⟨herror, rfl⟩

/-- Who raises a diagnostic fails with the verdict on it, and leaves the report behind. -/
theorem raise_apply (ctx : CheckContext) (d : Diagnostic) (pass : Pass) :
    (raise ctx d : Checked α) pass =
      .error (ctx.reporter.verdict d) { pass with
        ledger := { pass.ledger with
          reports := pass.ledger.reports ++ [⟨d, ctx.reporter.records⟩] } } := by
  simp only [raise, accounted, Accounted.within, Accounted.raise_apply]
  rfl

theorem raiseIf_some (ctx : CheckContext) (d : Diagnostic) : raiseIf ctx (some d) = raise ctx d :=
  rfl

end Checked

namespace Contract

/-- The contract of the ledger within a pass. -/
def onLedger (C : Contract Ledger) : Contract Pass where
  success p q := C.success p.ledger q.ledger
  failure p q := C.failure p.ledger q.ledger

variable {C : Contract Ledger} {ctx : CheckContext} {α : Type}

instance [hC : C.Composes] : C.onLedger.Composes where
  refl p := hC.refl p.ledger
  trans h h' := hC.trans h h'
  stop p := hC.stop p.ledger
  after h h' := hC.after h h'

theorem holds_accounted {x : Accounted α} (h : C.Holds x) :
    C.onLedger.Holds (Checked.accounted x) where
  of_ok hx := h.of_ok (Checked.ok_of_accounted hx).1
  of_error hx := h.of_error (Checked.error_of_accounted hx).1

/-- The steps of a pass keep to the contract, as far as they touch the ledger. -/
structure CoversLedger (C : Contract Ledger) (ctx : CheckContext) : Prop where
  raise : ∀ {α : Type} (d : Diagnostic), C.Holds (Accounted.raise ctx.reporter d : Accounted α)
  monitor : ∀ e, C.Holds (sizeMonitor ctx.policy ctx.reporter e)
  expansion : ∀ {kind name entity}, kind.Finds name entity → entity.isExternal = false →
    C.Holds (Accounted.note (.expanded kind name entity))
  entity : ∀ {kind name entity}, kind.Finds name entity → ctx.isEnabled kind.feature = true →
    ∀ publicId systemId base, C.Holds (do
      Accounted.note (.expanded kind name entity)
      fetch ctx kind.resource ⟨publicId, some systemId, base, some entity.name⟩)
  subset : ctx.isEnabled .loadExternalDtd = true → ∀ publicId systemId,
    C.Holds (fetch ctx .dtd ⟨publicId, some systemId, ctx.systemId, none⟩)

/-- To run one computation after another on the ledger is to run both at once. -/
theorem accounted_bind {β : Type} (x : Accounted α) (f : α → Accounted β) :
    Checked.accounted (x >>= f) = Checked.accounted x >>= fun a => Checked.accounted (f a) := by
  funext pass
  simp only [Checked.accounted, Accounted.within, Bind.bind, EStateM.bind]
  cases x pass.ledger with
  | error fault ledger => rfl
  | ok a ledger => rfl

/-- The only stage of the pipeline is the monitor of declarations. -/
theorem deliver_monitored (policy : Policy) (reporter : Reporter) (e : Dtd.Event) :
    (monitoredPipeline policy reporter).deliver e = sizeMonitor policy reporter e := by
  funext l
  simp only [monitoredPipeline, Dtd.Pipeline.deliver, Dtd.Pipeline.insert, Dtd.Pipeline.empty,
    List.take_nil, List.drop_nil, List.nil_append, Dtd.Pipeline.run, Bind.bind, EStateM.bind]
  cases sizeMonitor policy reporter e l with
  | error fault l' => rfl
  | ok out l' => cases out <;> rfl

theorem onLedger_of_eq [hC : C.Composes] {p q : Pass} (h : q.ledger = p.ledger) :
    C.onLedger.success p q := by
  simpa only [onLedger, h] using hC.refl p.ledger

namespace CoversLedger

variable [C.Composes]

theorem raiseIf (hC : C.CoversLedger ctx) (found : Option Diagnostic) :
    C.onLedger.Holds (Checked.raiseIf ctx found) := by
  cases found with
  | none => exact holds_pure ()
  | some d => exact holds_accounted (hC.raise d)

theorem dispatch (hC : C.CoversLedger ctx) (e : Dtd.Event) :
    C.onLedger.Holds (Checked.dispatch ctx e) := by
  refine Holds.bind (holds_accounted ?_) fun out => ?_
  · rw [deliver_monitored]
    exact hC.monitor e
  · cases out with
    | none => exact holds_pure _
    | some e' => exact holds_modify fun _ => onLedger_of_eq rfl

theorem countExpansion (hC : C.CoversLedger ctx) {kind : ReferenceKind} {name : String}
    {entity : Dtd.EntityDecl} (hfinds : kind.Finds name entity)
    (hinternal : entity.isExternal = false) :
    C.onLedger.Holds (Checked.countExpansion ctx kind name entity) := by
  refine Holds.bind (holds_modify fun _ => onLedger_of_eq rfl) fun _ => ?_
  refine holds_get.bind fun _ => (hC.raiseIf _).bind fun _ => ?_
  exact holds_accounted (hC.expansion hfinds hinternal)

theorem fetchEntity (hC : C.CoversLedger ctx) {kind : ReferenceKind} {name : String}
    {entity : Dtd.EntityDecl} (hfinds : kind.Finds name entity)
    (hon : ctx.isEnabled kind.feature = true) (publicId : Option String) (systemId : String)
    (base : Option String) :
    C.onLedger.Holds (Checked.fetchEntity ctx kind name entity publicId systemId base) := by
  have hentity := holds_accounted (hC.entity hfinds hon publicId systemId base)
  rw [accounted_bind] at hentity
  unfold Checked.fetchEntity Checked.countExpansion
  simp only [bind_assoc]
  refine Holds.bind (holds_modify fun _ => onLedger_of_eq rfl) fun _ => ?_
  exact holds_get.bind fun _ => (hC.raiseIf _).bind fun _ => hentity

theorem covers (hC : C.CoversLedger ctx) : C.onLedger.Covers ctx where
  raise d := holds_accounted (hC.raise d)
  dispatch := hC.dispatch
  expansion := hC.countExpansion
  entity hfinds hon := hC.fetchEntity hfinds hon
  subset hon publicId systemId := holds_accounted (hC.subset hon publicId systemId)
  element _ _ :=
    Holds.bind (holds_modify fun _ => onLedger_of_eq rfl) fun _ => hC.raiseIf _
  aside hledger _ _ := onLedger_of_eq hledger

end CoversLedger

/-- What the steps of a pass add to the journal is allowed. -/
structure CoversEntries (G F : List Entry → Prop) (ctx : CheckContext) : Prop where
  declared : ∀ {new}, Declares new → DeclaresWithin ctx.policy new → G new
  undeclared : ∀ {new}, Declares new → F new
  expanded : ∀ {kind name entity}, kind.Finds name entity → entity.isExternal = false →
    G [.expanded kind name entity]
  entity : ∀ {kind name entity id new}, kind.Finds name entity →
    ctx.isEnabled kind.feature = true → id.entityName = some entity.name →
    Fetched ctx.policy ctx.files.directory kind.resource id new → EndsDelivered id new →
    G (new ++ [.expanded kind name entity])
  entityFailing : ∀ {kind name entity id new}, kind.Finds name entity →
    ctx.isEnabled kind.feature = true → id.entityName = some entity.name →
    FailsToFetch ctx kind.resource id new → F (new ++ [.expanded kind name entity])
  subset : ∀ {id new}, ctx.isEnabled .loadExternalDtd = true → id.entityName = none →
    Fetched ctx.policy ctx.files.directory .dtd id new → G new
  subsetFailing : ∀ {id new}, ctx.isEnabled .loadExternalDtd = true → id.entityName = none →
    FailsToFetch ctx .dtd id new → F new

theorem CoversEntries.coversLedger {G F : List Entry → Prop} [hGF : Additive G F]
    (h : CoversEntries G F ctx) : (writes G F).CoversLedger ctx where
  raise d := holds_raise _ d hGF.stop
  monitor e := (holds_sizeMonitor e).mono (fun hnew => h.declared hnew.1 hnew.2) h.undeclared
  expansion hfinds hinternal := holds_note rfl (h.expanded hfinds hinternal)
  entity {kind name entity} hfinds hon publicId systemId base := by
    have hnote : (writes (· = [.expanded kind name entity]) fun _ => False).Holds
        (Accounted.note (.expanded kind name entity)) := holds_note rfl rfl
    refine hnote.next (fun _ => holds_fetch) ?_ False.elim ?_
    · rintro older newer rfl ⟨hfetched, hends⟩
      exact h.entity hfinds hon rfl hfetched hends
    · rintro older newer rfl hfails
      exact h.entityFailing hfinds hon rfl hfails
  subset hon _ _ := holds_fetch.mono (fun hnew => h.subset hon rfl hnew.1)
    fun hfails => h.subsetFailing hon rfl hfails

end Contract

namespace Judgement

/-- What is said of the ledger can be said of a pass that does nothing but what is done to it. -/
structure LiftsTo (L : Judgement Ledger) (J : Judgement Pass) : Prop where
  /-- Only the ledger may differ between passes that are alike. -/
  outside : ∀ {p q : Pass}, J.alike p q → ∃ ledger, q = { p with ledger }
  accounted : ∀ {α : Type} {x : Accounted α}, L.Always x → J.Always (Checked.accounted x)
  aside : ∀ {f : Pass → Pass},
    (∀ (p : Pass) (ledger : Ledger), f { p with ledger } = { f p with ledger }) →
      J.Always (modify f)

namespace CoversSteps

variable {L : Judgement Ledger} {J : Judgement Pass} [L.Composes] {ctx : CheckContext}

theorem raiseIf (hL : L.CoversSteps ctx) (hJ : L.LiftsTo J) {found : Option Diagnostic}
    (hfound : ∀ d ∈ found, d.key.IsOfStep) : J.Always (Checked.raiseIf ctx found) :=
  hJ.accounted (hL.raiseFirst fun d hd => hfound d (Option.mem_toList.mp hd))

variable [J.Composes]

theorem dispatch (hL : L.CoversSteps ctx) (hJ : L.LiftsTo J) (e : Dtd.Event) :
    J.Always (Checked.dispatch ctx e) := by
  refine Always.bind (hJ.accounted ?_) fun out => ?_
  · rw [Contract.deliver_monitored]
    exact hL.sizeMonitor e
  · cases out with
    | none => exact always_pure _
    | some e' => exact hJ.aside fun _ _ => rfl

theorem countExpansion (hL : L.CoversSteps ctx) (hJ : L.LiftsTo J) (kind : ReferenceKind)
    (name : String) (entity : Dtd.EntityDecl) :
    J.Always (Checked.countExpansion ctx kind name entity) := by
  refine Always.bind (hJ.aside fun _ _ => rfl) fun _ => always_read ?_ fun pass =>
    (hL.raiseIf hJ ?_).bind fun _ => hJ.accounted (hL.note _)
  · intro p q halike
    obtain ⟨ledger, rfl⟩ := hJ.outside halike
    rfl
  · intro d hd
    unfold Policy.checkExpansions at hd
    split at hd
    · cases hd
      exact ⟨nofun, nofun⟩
    · cases hd

theorem fetchEntity (hL : L.CoversSteps ctx) (hJ : L.LiftsTo J) (kind : ReferenceKind)
    (name : String) (entity : Dtd.EntityDecl) (publicId : Option String) (systemId : String)
    (base : Option String) :
    J.Always (Checked.fetchEntity ctx kind name entity publicId systemId base) :=
  (hL.countExpansion hJ _ _ _).bind fun _ => hJ.accounted (hL.fetch _ _)

theorem countElement (hL : L.CoversSteps ctx) (hJ : L.LiftsTo J) (name : String) (depth : Nat) :
    J.Always (Checked.countElement ctx name depth) := by
  refine Always.bind (hJ.aside fun _ _ => rfl) fun _ => hL.raiseIf hJ ?_
  intro d hd
  unfold Policy.checkDepth at hd
  split at hd
  · cases hd
    exact ⟨nofun, nofun⟩
  · cases hd

/-- Only of recursion do the steps on the ledger not speak. -/
theorem covers (hL : L.CoversSteps ctx) (hJ : L.LiftsTo J)
    (hraise : ∀ {α : Type} (d : Diagnostic),
      L.Always (Accounted.raise ctx.reporter d : Accounted α)) :
    J.Covers ctx where
  outside := hJ.outside
  raise d := hJ.accounted (hraise d)
  dispatch := hL.dispatch hJ
  expansion _ _ := hL.countExpansion hJ _ _ _
  entity _ _ := hL.fetchEntity hJ _ _ _
  subset _ _ _ := hJ.accounted (hL.fetch _ _)
  element := hL.countElement hJ
  aside hf := hJ.aside hf.ledger

end CoversSteps

end Judgement

theorem Outcomes.liftsTo {O : Outcomes Ledger} [hO : O.Composes] :
    O.judgement.LiftsTo (O.along fun p : Pass => p.ledger).judgement where
  outside h := ⟨_, h⟩
  accounted h p :=
    ⟨fun hx => (h p.ledger).1 (Checked.ok_of_accounted hx).1,
      fun hx => (h p.ledger).2 (Checked.error_of_accounted hx).1⟩
  aside {f} hf := always_modify fun p => by
    have hledger := Pass.ledger_of_outside hf p
    simpa only [along, hledger] using hO.refl p.ledger

namespace DocumentReader

variable {files : Files} {text : String} {r r' : DocumentReader}

/-- What the check of a document goes by. -/
def context (r : DocumentReader) (files : Files) : CheckContext :=
  r.configuration.context files r.systemId

theorem checkText_eq (files : Files) (text : String) (r : DocumentReader) :
    checkText files text r =
      match Checked.checkDocument (r.context files) (Markup.read text)
        (.start r.configuration.startParse.ledger) with
      | .ok () pass => (.ok pass.report,
          { r with configuration := { r.configuration.startParse with ledger := pass.ledger } })
      | .error fault pass => (.error fault,
          { r with
            configuration := { r.configuration.startParse with ledger := pass.ledger } }) := by
  have hrun : XmlBounds.checkText (r.context files) text r.configuration.startParse.ledger =
      match Checked.checkDocument (r.context files) (Markup.read text)
        (.start r.configuration.startParse.ledger) with
      | .ok () pass => .ok pass.report pass.ledger
      | .error fault pass => .error fault pass.ledger := rfl
  have hcontext : r.configuration.startParse.context files r.systemId = r.context files := rfl
  simp only [checkText, Configuration.accounted, hcontext, hrun]
  cases Checked.checkDocument (r.context files) (Markup.read text)
    (.start r.configuration.startParse.ledger) with
  | ok done pass => rfl
  | error fault pass => rfl

theorem of_checkText {report : CheckReport} (h : checkText files text r = (.ok report, r')) :
    ∃ pass, Checked.checkDocument (r.context files) (Markup.read text)
        (.start r.configuration.startParse.ledger) = .ok () pass ∧
      report = pass.report ∧ r'.configuration.ledger = pass.ledger := by
  rw [checkText_eq] at h
  split at h
  · next pass hpass =>
      cases h
      exact ⟨pass, hpass, rfl, rfl⟩
  · cases h

theorem failure_of_checkText {fault : Fault} (h : checkText files text r = (.error fault, r')) :
    ∃ pass, Checked.checkDocument (r.context files) (Markup.read text)
        (.start r.configuration.startParse.ledger) = .error fault pass ∧
      r'.configuration.ledger = pass.ledger := by
  rw [checkText_eq] at h
  split at h
  · cases h
  · next pass hpass =>
      cases h
      exact ⟨pass, hpass, rfl⟩

/-- What comes of a check is among the outcomes that the steps of a pass keep to. -/
theorem outcome_of_checkText {O : Outcomes Ledger} [O.Composes]
    (hcovers : (O.along fun p : Pass => p.ledger).judgement.Covers (r.context files))
    {result : Except Fault CheckReport} (h : checkText files text r = (result, r')) :
    (∀ report, result = .ok report →
      O.success r.configuration.startParse.ledger r'.configuration.ledger) ∧
    ∀ fault, result = .error fault →
      O.failure fault r.configuration.startParse.ledger r'.configuration.ledger := by
  have hsays := hcovers.checkDocument (Markup.read text)
    (.start r.configuration.startParse.ledger)
  constructor
  · rintro report rfl
    obtain ⟨pass, hpass, _, hledger⟩ := of_checkText h
    rw [hledger]
    exact hsays.1 hpass
  · rintro fault rfl
    obtain ⟨pass, hpass, hledger⟩ := failure_of_checkText h
    rw [hledger]
    exact hsays.2 hpass

/-- What a check adds to the journal is allowed to its outcome. -/
theorem exists_entries_of_checkText {G F : List Entry → Prop} [Additive G F]
    (hcovers : Contract.CoversEntries G F (r.context files)) {result : Except Fault CheckReport}
    (h : checkText files text r = (result, r')) :
    ∃ new, r.configuration.startParse.ledger.Grows r'.configuration.ledger new ∧
      (∀ report, result = .ok report → G new) ∧ ∀ fault, result = .error fault → F new := by
  have hholds := hcovers.coversLedger.covers.checkDocument (Markup.read text)
  cases result with
  | ok report =>
      obtain ⟨pass, hpass, _, hledger⟩ := of_checkText h
      obtain ⟨new, hgrows, hnew⟩ := hholds.of_ok hpass
      rw [hledger]
      exact ⟨new, hgrows, fun _ _ => hnew, fun _ h => absurd h (by simp)⟩
  | error fault =>
      obtain ⟨pass, hpass, hledger⟩ := failure_of_checkText h
      obtain ⟨new, hgrows, hnew⟩ := hholds.of_error hpass
      rw [hledger]
      exact ⟨new, hgrows, fun _ h => absurd h (by simp), fun _ _ => hnew⟩

theorem exists_allowed_of_checkText {G : List Entry → Prop} [Additive G G]
    (hcovers : Contract.CoversEntries G G (r.context files)) {result : Except Fault CheckReport}
    (h : checkText files text r = (result, r')) :
    ∃ new, r.configuration.startParse.ledger.Grows r'.configuration.ledger new ∧ G new := by
  obtain ⟨new, hgrows, hok, herror⟩ := exists_entries_of_checkText hcovers h
  refine ⟨new, hgrows, ?_⟩
  cases result with
  | ok report => exact hok report rfl
  | error fault => exact herror fault rfl

end DocumentReader

end XmlBounds
