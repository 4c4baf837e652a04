import XmlBounds.Proofs.Check.Accounts
import XmlBounds.Proofs.Check.Machine
import XmlBounds.Proofs.Entity.Serving

/-!
# What is declared, and what is asked for

The table of entities changes only when an event of a DTD is dispatched. All else that a check does
leaves the table as it is, and has to do with the external subset of the document and the entities
of the table only, by the identifiers that stand there.
-/

namespace XmlBounds

/-- The monitor passes every event on unchanged. -/
theorem passed_of_sizeMonitor {policy : Policy} {reporter : Reporter} {e : Dtd.Event}
    {out : Option Dtd.Event} {l l' : Ledger}
    (h : sizeMonitor policy reporter e l = .ok out l') : out = some e := by
  cases e with
  | internalEntity name text =>
      rw [sizeMonitor_internal] at h
      obtain ⟨_, mid, _, hpure⟩ := ok_of_bind h
      cases hpure
      rfl
  | _ =>
      cases h
      rfl

namespace Dtd.EntityTable

variable {t : EntityTable} {name : String} {d : EntityDecl}

theorem find?_of_parameter? (h : t.parameter? name = some d) : t.find? d.name = some d := by
  unfold parameter? at h
  split at h <;>
  · rw [(mem_of_find? h).2]
    exact h

theorem mem_of_parameter? (h : t.parameter? name = some d) : d ∈ t.entities :=
  (mem_of_find? (find?_of_parameter? h)).1

end Dtd.EntityTable

/-- The request is for the entity, by the identifiers of its declaration. -/
def Dtd.EntityDecl.IsSought (d : EntityDecl) (id : ResourceId) : Prop :=
  id.entityName = some d.name ∧
    ∃ systemId, id.systemId = some systemId ∧ d.kind = .external id.publicId systemId id.base

namespace CheckContext

/-- The request is for the external subset, relative to the document, or for an entity of the
table. -/
def MayAsk (ctx : CheckContext) (table : Dtd.EntityTable) (id : ResourceId) : Prop :=
  (id.entityName = none ∧ id.base = ctx.systemId) ∨ ∃ d ∈ table.entities, d.IsSought id

/-- What was done about resources meanwhile may be done with the table. -/
def Asks (ctx : CheckContext) (table : Dtd.EntityTable) (l l' : Ledger) : Prop :=
  ∃ new, l'.journal = new ++ l.journal ∧ Entry.All (Entry.Serves ctx (ctx.MayAsk table)) new

variable {ctx : CheckContext} {table table' : Dtd.EntityTable} {l l' l'' : Ledger}

theorem MayAsk.mono {id : ResourceId} (h : ctx.MayAsk table id)
    (hgrown : table.entities ⊆ table'.entities) : ctx.MayAsk table' id := by
  rcases h with hsubset | ⟨d, hd, hsought⟩
  · exact .inl hsubset
  · exact .inr ⟨d, hgrown hd, hsought⟩

theorem Asks.of_eq (h : l'.journal = l.journal) : ctx.Asks table l l' := ⟨[], h, Entry.all_nil⟩

theorem Asks.trans (h : ctx.Asks table l l') (h' : ctx.Asks table l' l'') :
    ctx.Asks table l l'' := by
  obtain ⟨older, hold, hmay⟩ := h
  obtain ⟨newer, hnew, hmay'⟩ := h'
  exact ⟨newer ++ older, by rw [hnew, hold, List.append_assoc], Entry.all_append hmay hmay'⟩

theorem Asks.mono (h : ctx.Asks table l l') (hgrown : table.entities ⊆ table'.entities) :
    ctx.Asks table' l l' := by
  obtain ⟨new, hnew, hmay⟩ := h
  exact ⟨new, hnew, fun e he => (hmay e he).mono fun _ hid => hid.mono hgrown⟩

end CheckContext

/-- The table stays as it is, and what is asked for may be asked for with it. -/
def calm (ctx : CheckContext) : Outcomes Pass where
  success p q := q.table = p.table ∧ ctx.Asks p.table p.ledger q.ledger
  failure _ p q := ctx.Asks p.table p.ledger q.ledger

instance {ctx : CheckContext} : (calm ctx).Composes where
  refl _ := ⟨rfl, .of_eq rfl⟩
  trans h h' := ⟨h'.1.trans h.1, h.2.trans (h.1 ▸ h'.2)⟩
  stop _ _ := .of_eq rfl
  after h h' := h.2.trans (h.1 ▸ h')

namespace Checked

open Judgement

variable {ctx : CheckContext} {pass : Pass} {α : Type}

theorem applies_accounted {x : Accounted α} {G F : List Entry → Prop}
    (hx : (Contract.writes G F).Holds x)
    (hG : ∀ {new}, G new → Entry.All (Entry.Serves ctx (ctx.MayAsk pass.table)) new)
    (hF : ∀ {new}, F new → Entry.All (Entry.Serves ctx (ctx.MayAsk pass.table)) new) :
    (calm ctx).judgement.Applies (accounted x) pass := by
  constructor
  · intro a q h
    obtain ⟨hok, hq⟩ := ok_of_accounted h
    obtain ⟨new, hgrows, hnew⟩ := hx.of_ok hok
    rw [hq]
    exact ⟨rfl, new, hgrows.journal, hG hnew⟩
  · intro fault q h
    obtain ⟨new, hgrows, hnew⟩ := hx.of_error (error_of_accounted h).1
    exact ⟨new, hgrows.journal, hF hnew⟩

theorem calm_modify {f : Pass → Pass}
    (hf : ∀ p : Pass, (f p).table = p.table ∧ (f p).ledger = p.ledger) :
    (calm ctx).judgement.Always (modify f : Checked PUnit) :=
  Outcomes.always_modify fun p => ⟨(hf p).1, .of_eq (by rw [(hf p).2])⟩

theorem calm_raise (d : Diagnostic) : (calm ctx).judgement.Always (raise ctx d : Checked α) :=
  fun _ => applies_accounted (G := (· = [])) (F := (· = []))
    (Contract.holds_raise _ d rfl) (fun h => h ▸ Entry.all_nil) fun h => h ▸ Entry.all_nil

theorem calm_raiseIf (found : Option Diagnostic) :
    (calm ctx).judgement.Always (raiseIf ctx found) := by
  cases found with
  | none => exact always_pure ()
  | some d => exact calm_raise d

theorem calm_undeclared (name : String) : (calm ctx).judgement.Always (undeclared name) := by
  refine always_read (fun _ _ halike => by rw [halike]) fun pass => ?_
  split
  · exact always_pure _
  · exact always_throw _

theorem calm_skipExternal : (calm ctx).judgement.Always skipExternal :=
  calm_modify fun _ => ⟨rfl, rfl⟩

/-- To monitor an event is to ask for nothing. -/
theorem calm_monitored (e : Dtd.Event) : (calm ctx).judgement.Always
    (accounted ((monitoredPipeline ctx.policy ctx.reporter).deliver e)) := by
  intro pass
  have hdeclares : ∀ {new : List Entry}, Declares new →
      Entry.All (Entry.Serves ctx (ctx.MayAsk pass.table)) new := by
    rintro new (_ | _) e he <;> simp at he
    rcases he with rfl | rfl <;> trivial
  rw [Contract.deliver_monitored]
  exact applies_accounted (holds_sizeMonitor e) (fun h => hdeclares h.1) hdeclares

/-- An event that is dispatched is handled by the table as it is. -/
theorem of_dispatch {e : Dtd.Event} {pass' : Pass} (h : dispatch ctx e pass = .ok () pass') :
    pass'.table = pass.table.handle e ∧ ctx.Asks pass.table pass.ledger pass'.ledger := by
  obtain ⟨out, mid, hmonitored, hrest⟩ := ok_of_bind h
  obtain ⟨htable, hasks⟩ := (calm_monitored e pass).1 hmonitored
  have hout : out = some e := by
    have hledger := (ok_of_accounted hmonitored).1
    rw [Contract.deliver_monitored] at hledger
    exact passed_of_sizeMonitor hledger
  rw [hout] at hrest
  cases hrest
  exact ⟨congrArg (·.handle e) htable, hasks⟩

theorem asks_of_dispatch {e : Dtd.Event} {fault : Fault} {pass' : Pass}
    (h : dispatch ctx e pass = .error fault pass') :
    ctx.Asks pass.table pass.ledger pass'.ledger := by
  rcases error_of_bind h with hmonitored | ⟨out, mid, _, hrest⟩
  · exact (calm_monitored e pass).2 hmonitored
  · cases out <;> cases hrest

/-- An event that declares nothing, such as the start or the end of a DTD. -/
theorem calm_dispatch {e : Dtd.Event} (he : ∀ table : Dtd.EntityTable, table.handle e = table) :
    (calm ctx).judgement.Always (dispatch ctx e) := by
  intro pass
  refine ⟨fun h => ?_, asks_of_dispatch⟩
  obtain ⟨htable, hasks⟩ := of_dispatch h
  exact ⟨htable.trans (he pass.table), hasks⟩

theorem calm_countExpansion (kind : ReferenceKind) (name : String) (entity : Dtd.EntityDecl) :
    (calm ctx).judgement.Always (countExpansion ctx kind name entity) := by
  refine Always.bind (calm_modify fun _ => ⟨rfl, rfl⟩) fun _ =>
    always_read (fun _ _ halike => by rw [halike]) fun _ =>
      (calm_raiseIf _).bind fun _ pass => ?_
  exact applies_accounted (G := (· = [.expanded kind name entity])) (F := fun _ => False)
    (Contract.holds_note rfl rfl) (fun h => h ▸ Entry.all_singleton trivial) False.elim

theorem applies_fetch {kind : ResourceKind} {id : ResourceId} (hid : ctx.MayAsk pass.table id) :
    (calm ctx).judgement.Applies (accounted (fetch ctx kind id)) pass := by
  have hserves : ∀ {new}, Entry.All (Entry.Serves ctx (· = id)) new →
      Entry.All (Entry.Serves ctx (ctx.MayAsk pass.table)) new := by
    intro new hnew e he
    refine (hnew e he).mono ?_
    rintro _ rfl
    exact hid
  exact applies_accounted (serving_fetch kind) hserves hserves

theorem applies_fetchEntity {kind : ReferenceKind} {name systemId : String} {d : Dtd.EntityDecl}
    {publicId base : Option String} (hd : d ∈ pass.table.entities)
    (hkind : d.kind = .external publicId systemId base) :
    (calm ctx).judgement.Applies (fetchEntity ctx kind name d publicId systemId base) pass := by
  have hcount : (calm ctx).judgement.Applies (countExpansion ctx kind name d) pass :=
    calm_countExpansion kind name d pass
  refine Composes.bind hcount fun hok => applies_fetch ?_
  rw [(hcount.1 hok).1]
  exact .inr ⟨d, hd, rfl, systemId, rfl, hkind⟩

theorem applies_replacement {name : String} {d : Dtd.EntityDecl} (hd : d ∈ pass.table.entities) :
    (calm ctx).judgement.Applies (replacement ctx name d) pass := by
  unfold replacement
  split
  · exact (calm_countExpansion _ _ _).bind (fun _ => always_pure _) pass
  · next hkind => exact Composes.bind (applies_fetchEntity hd hkind) fun _ => Composes.pure _ _
  · exact always_throw _ (by rfl) pass

theorem calm_scanned (text : String) (base : Option String) :
    (calm ctx).judgement.Always (scanned text base) := CoversTexts.scanned text base

theorem applies_includedText {name : String} {d : Dtd.EntityDecl} (hd : d ∈ pass.table.entities) :
    (calm ctx).judgement.Applies (includedText ctx name d) pass := by
  unfold includedText
  split
  · exact (calm_countExpansion _ _ _).bind (fun _ => CoversTexts.enteredFrame _ _ _) pass
  · next hkind =>
      split
      · exact Composes.bind (applies_fetchEntity hd hkind) fun _ => CoversTexts.enteredFrame _ _ _ _
      · exact calm_skipExternal.bind (fun _ => always_pure _) pass
  · exact always_throw _ (by rfl) pass

theorem calm_included (opened : List String) (name : String) :
    (calm ctx).judgement.Always (included ctx opened name) := by
  unfold included
  split
  · exact calm_raise _
  · intro pass
    refine Composes.read (fun _ halike => by rw [halike]) ?_
    split
    · exact always_throw _ (by rfl) pass
    · next hd => exact applies_includedText (Dtd.EntityTable.mem_of_parameter? hd)

end Checked

/-! ## Steps of the machine -/

namespace Machine

open Checked Judgement

variable {ctx : CheckContext} {pass pass' : Pass} {s : Stride}

/-- The task declares nothing, whatever it leads to, if the table is what it is now or has grown. -/
def Settled (ctx : CheckContext) (table : Dtd.EntityTable) : Task → Prop
  | .act x _ => (calm ctx).judgement.Always x
  | .expand known _ _ => known.entities ⊆ table.entities
  | .run _ => False
  | .token _ | .text _ | .subset _ _ | .externalSubset _ _ => True

theorem Settled.mono {table table' : Dtd.EntityTable} {t : Task} (h : Settled ctx table t)
    (hgrown : table.entities ⊆ table'.entities) : Settled ctx table' t := by
  cases t with
  | expand known opened refs => exact List.Subset.trans h hgrown
  | _ => exact h

theorem calm_countElement (name : String) (depth : Nat) :
    (calm ctx).judgement.Always (countElement ctx name depth) :=
  Always.bind (calm_modify fun _ => ⟨rfl, rfl⟩) fun _ => calm_raiseIf _

theorem calm_admitTag (tag : Markup.Tag) : (calm ctx).judgement.Always (admitTag ctx tag) := by
  refine Always.bind (CoversTexts.refuse _ _) fun _ => (calm_raiseIf _).bind fun _ =>
    Always.bind (calm_modify fun _ => ⟨rfl, rfl⟩) fun _ => ?_
  unfold checkOccurs
  split
  · exact always_pure _
  · refine always_read (fun _ _ halike => by rw [halike]) fun pass => ?_
    split
    · exact calm_raiseIf _
    · exact always_pure _

theorem calm_closeScope : (calm ctx).judgement.Always closeScope :=
  calm_modify fun _ => ⟨rfl, rfl⟩

theorem calm_endDocument (document : Markup.Document) :
    (calm ctx).judgement.Always (endDocument document) := by
  unfold endDocument
  split
  · exact always_pure _
  · exact always_throw _

theorem calm_token (t : Markup.Token) : (calm ctx).judgement.Always (nextOfToken ctx t) := by
  cases t with
  | doctype content =>
      simp only [nextOfToken]
      split
      · exact calm_raise _
      · split
        · exact always_throw _
        · next decl _ =>
            have hstart : (calm ctx).judgement.Always (dispatch ctx decl.startEvent) :=
              calm_dispatch fun _ => rfl
            exact Always.bind (calm_modify fun _ => ⟨rfl, rfl⟩) fun _ =>
              hstart.bind fun _ => always_pure _
  | startTag tag =>
      exact Always.bind (calm_modify fun _ => ⟨rfl, rfl⟩) fun _ =>
        always_read (fun _ _ halike => by rw [halike]) fun _ => always_pure _
  | emptyTag tag =>
      exact always_read (fun _ _ halike => by rw [halike]) fun _ => always_pure _
  | endTag =>
      have hclose : (calm ctx).judgement.Always closeElement :=
        Always.bind (calm_modify fun _ => ⟨rfl, rfl⟩) fun _ => calm_closeScope
      exact hclose.bind fun _ => always_pure _
  | text content => exact always_pure _
  | ignored => exact always_pure _

theorem applies_reference {known : Dtd.EntityTable} (hknown : known.entities ⊆ pass.table.entities)
    (opened : List String) (rest : List Reference) (name : String) :
    (calm ctx).judgement.Applies (nextOfReference ctx known opened rest name) pass := by
  unfold nextOfReference
  split
  · exact always_pure _ pass
  · split
    · exact (calm_undeclared _).bind (fun _ => always_pure _) pass
    · next d hd =>
        split
        · exact always_pure _ pass
        · split
          · exact calm_raise _ pass
          · have hmem : d ∈ pass.table.entities := hknown (Dtd.EntityTable.mem_of_find? hd).1
            exact Composes.bind (applies_replacement hmem) fun _ => always_pure _ _

theorem calm_external (publicId systemId : Option String) :
    (calm ctx).judgement.Always (nextOfExternal ctx publicId systemId) := by
  cases systemId with
  | none => exact always_pure _
  | some systemId =>
      simp only [nextOfExternal]
      split
      · have hfetch : (calm ctx).judgement.Always (accounted (fetch ctx .dtd
            ⟨publicId, some systemId, ctx.systemId, none⟩)) :=
          fun _ => applies_fetch (.inl ⟨rfl, rfl⟩)
        exact hfetch.bind fun _ => always_pure _
      · exact calm_skipExternal.bind fun _ => always_pure _

/-- A step for a settled task leaves the table as it is. -/
theorem applies_next {t : Task} (ht : Settled ctx pass.table t) :
    (calm ctx).judgement.Applies (Machine.next ctx t) pass := by
  cases t with
  | act x steady => exact Always.bind ht (fun _ => always_pure _) pass
  | token t => exact calm_token t pass
  | text content =>
      exact always_read (fun _ _ halike => by rw [halike]) (fun _ => always_pure _) pass
  | expand known opened refs =>
      cases refs with
      | nil => exact always_pure _ pass
      | cons ref rest =>
          cases ref with
          | unterminated text => exact always_throw _ (by rfl) pass
          | named name => exact applies_reference ht opened rest name
  | subset text base => exact (calm_scanned _ _).bind (fun _ => always_pure _) pass
  | externalSubset publicId systemId => exact calm_external publicId systemId pass
  | run frames => exact ht.elim

theorem settled_elementTasks {table : Dtd.EntityTable} (tag : Markup.Tag) (depth : Nat) :
    ∀ t ∈ elementTasks ctx tag depth, Settled ctx table t := by
  intro t ht
  simp only [elementTasks, List.cons_append, List.mem_cons, List.mem_append, List.mem_map,
    List.not_mem_nil, or_false] at ht
  rcases ht with rfl | ⟨a, _, rfl⟩ | rfl
  · exact calm_countElement _ _
  · trivial
  · exact calm_admitTag _

theorem settled_token {t : Markup.Token} (h : nextOfToken ctx t pass = .ok s pass') :
    ∀ t' ∈ s.tasks, Settled ctx pass'.table t' := by
  cases t with
  | text content =>
      cases h
      simp [Stride.to, Settled]
  | doctype content =>
      simp only [nextOfToken] at h
      split at h
      · exact absurd h not_ok_raise
      · cases hsplit : Dtd.Doctype.split content with
        | error fault =>
            rw [hsplit] at h
            cases h
        | ok decl =>
            rw [hsplit] at h
            obtain ⟨_, named, _, hrest⟩ := ok_of_bind h
            obtain ⟨_, mid, _, hpure⟩ := ok_of_bind hrest
            cases hpure
            have hend : (calm ctx).judgement.Always (dispatch ctx .endDtd) :=
              calm_dispatch fun _ => rfl
            cases hsubset : decl.subset <;>
              simpa [Stride.to, doctypeTasks, hsubset, Settled] using hend
  | startTag tag =>
      cases h
      exact settled_elementTasks tag _
  | emptyTag tag =>
      cases h
      intro t ht
      rcases List.mem_append.mp ht with ht | ht
      · exact settled_elementTasks tag _ t ht
      · rw [List.mem_singleton.mp ht]
        exact calm_closeScope
  | endTag =>
      cases h
      simp [Stride.to]
  | ignored =>
      cases h
      simp [Stride.to]

theorem settled_reference {known : Dtd.EntityTable} {opened : List String}
    {rest : List Reference} {name : String} (hknown : known.entities ⊆ pass'.table.entities)
    (h : nextOfReference ctx known opened rest name pass = .ok s pass') :
    ∀ t' ∈ s.tasks, Settled ctx pass'.table t' := by
  have hrest : Settled ctx pass'.table (.expand known opened rest) := hknown
  simp only [nextOfReference] at h
  split at h
  · cases h
    simpa [Stride.to] using hrest
  · cases hfound : known.general? name with
    | none =>
        rw [hfound] at h
        obtain ⟨_, mid, _, hpure⟩ := ok_of_bind h
        cases hpure
        simpa [Stride.to] using hrest
    | some d =>
        simp only [hfound] at h
        split at h
        · cases h
          simpa [Stride.to] using hrest
        · split at h
          · exact absurd h not_ok_raise
          · obtain ⟨text, mid, _, hpure⟩ := ok_of_bind h
            cases hpure
            simpa [Settled] using hknown

/-- A settled task that is no subset leads to settled tasks. -/
theorem settled_of_next {t : Task} (ht : Settled ctx pass.table t)
    (hsubset : ∀ text base, t ≠ .subset text base)
    (h : Machine.next ctx t pass = .ok s pass') : ∀ t' ∈ s.tasks, Settled ctx pass'.table t' := by
  have htable : pass'.table = pass.table := ((applies_next ht).1 h).1
  cases t with
  | act x steady =>
      obtain ⟨_, mid, _, hpure⟩ := ok_of_bind h
      cases hpure
      simp [Stride.to]
  | token t => exact settled_token h
  | text content =>
      cases h
      simp [Stride.to, Settled]
  | expand known opened refs =>
      cases refs with
      | nil =>
          cases h
          simp [Stride.to]
      | cons ref rest =>
          cases ref with
          | unterminated text => cases h
          | named name =>
              refine settled_reference ?_ h
              rw [htable]
              exact ht
  | subset text base => exact absurd rfl (hsubset text base)
  | externalSubset publicId systemId =>
      cases systemId with
      | none =>
          cases h
          simp [Stride.to]
      | some systemId =>
          simp only [Machine.next, nextOfExternal] at h
          split at h
          · obtain ⟨_, mid, _, hpure⟩ := ok_of_bind h
            cases hpure
            simp [Stride.to, Settled]
          · cases h
            simp [Stride.to]
  | run frames => exact ht.elim

end Machine

end XmlBounds
