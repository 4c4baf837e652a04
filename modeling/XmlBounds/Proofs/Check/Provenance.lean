import Mathlib.Data.List.Forall2
import XmlBounds.Proofs.Check.Asking
import XmlBounds.Proofs.Check.Plain
import XmlBounds.Proofs.Check.Termination
import XmlBounds.Proofs.Dtd.Bases

/-!
# Where entities are declared

Beside the machine that carries out a check goes a record of where the texts that it runs are
written, and with them the declarations. The base of an external entity is the system identifier of
the resource in which the entity is declared, unless the declaration is reached in the replacement
text of an internal entity: then it is the document's, wherever that entity is declared.
-/

namespace XmlBounds.Machine

open Checked Judgement

/-- Where a text is written. -/
structure Site where
  /-- The system identifier of the resource. -/
  home : Option String
  /-- Whether the text is the replacement text of an internal entity that the resource declares, and
  not the resource itself. -/
  isReplacement : Bool
  deriving DecidableEq, Repr

/-- What external entities are relative to that are declared there. -/
def Site.base (ctx : CheckContext) (site : Site) : Option String :=
  if site.isReplacement then ctx.systemId else site.home

theorem Site.base_eq_home_iff {ctx : CheckContext} {site : Site} :
    site.base ctx = site.home ↔ site.isReplacement = false ∨ site.home = ctx.systemId := by
  unfold base
  cases site.isReplacement <;> simp [eq_comm]

/-- A declared entity, with the text that declares it. -/
structure Placed where
  entity : Dtd.EntityDecl
  site : Site
  deriving DecidableEq, Repr

/-- A record of where things are written. -/
structure Sites where
  /-- The texts that are being run, the innermost first. -/
  texts : List Site
  /-- The entities in the order of their declaration. -/
  placed : List Placed

namespace Sites

def find? (sites : Sites) (name : String) : Option Placed :=
  sites.placed.find? (·.entity.name = name)

/-- Places a declaration in the innermost text, unless its name is declared already. -/
def declare (sites : Sites) (d : Dtd.EntityDecl) : Sites :=
  match sites.texts with
  | [] => sites
  | site :: _ =>
      if (sites.find? d.name).isSome then sites
      else { sites with placed := sites.placed ++ [⟨d, site⟩] }

/-- Where the replacement text of a parameter entity is written: that of an internal one in the
resource that declares the entity, and that of an external one in the resource that is fetched. -/
def included? (ctx : CheckContext) (pass : Pass) (sites : Sites) (name : String) : Option Site :=
  (pass.table.parameter? name).bind fun d =>
    match d.kind with
    | .internal _ => (sites.find? d.name).map fun declared => ⟨declared.site.home, true⟩
    | .external publicId systemId base =>
        if ctx.isEnabled .externalParameterEntities then
          match fetchEntity ctx .parameter name d publicId systemId base pass with
          | .ok (_, home) _ => some ⟨home, false⟩
          | .error _ _ => none
        else none
    | .unparsed .. => none

def ofEvent (ctx : CheckContext) (pass : Pass) (sites : Sites) : Dtd.Event → Sites
  | .parameterReference name =>
      { sites with texts := (sites.included? ctx pass name).toList ++ sites.texts }
  | e =>
      match Dtd.EntityTable.declOf? e with
      | some d => sites.declare d
      | none => sites

/-- The record after a step of the machine for the task. -/
def next (ctx : CheckContext) (pass : Pass) (sites : Sites) : Task → Sites
  | .subset _ base => { sites with texts := [⟨base, false⟩] }
  | .run (⟨_, []⟩ :: _) => { sites with texts := sites.texts.tail }
  | .run (⟨_, e :: _⟩ :: _) => sites.ofEvent ctx pass e
  | _ => sites

end Sites

/-- The machine with the record beside it. -/
structure Located where
  config : Config
  sites : Sites

namespace Located

def next (ctx : CheckContext) (here : Located) : Option Located :=
  match here.config.tasks with
  | [] => none
  | t :: rest =>
      match Machine.next ctx t here.config.pass with
      | .ok s pass => some
          ⟨⟨s.tasks ++ rest, pass, s.entered.toList ++ here.config.entered⟩,
            here.sites.next ctx here.config.pass t⟩
      | .error _ _ => none

/-- How the machine stands after so many steps from the start, if it gets so far. -/
def after (ctx : CheckContext) (document : Markup.Document) (ledger : Ledger) :
    Nat → Option Located
  | 0 => some ⟨.start document ledger, ⟨[], []⟩⟩
  | n + 1 => (after ctx document ledger n).bind (next ctx)

variable {ctx : CheckContext} {document : Markup.Document} {ledger : Ledger}

theorem step_of_next {here there : Located} (h : here.next ctx = some there) :
    Step ctx here.config there.config := by
  obtain ⟨⟨tasks, pass, entered⟩, sites⟩ := here
  cases tasks with
  | nil => cases h
  | cons t rest =>
      simp only [next] at h
      split at h
      · next s pass' hnext =>
          cases h
          exact .next hnext
      · cases h

theorem exists_next_of_step {here : Located} {c : Config} (h : Step ctx here.config c) :
    ∃ sites, here.next ctx = some ⟨c, sites⟩ := by
  obtain ⟨config, sites⟩ := here
  cases h with
  | @next t rest pass pass' entered s h =>
      exact ⟨sites.next ctx pass t, by simp only [next, h]⟩

/-- The record goes along with every run. -/
theorem runs_iff {c : Config} : Runs ctx (.start document ledger) c ↔
    ∃ n sites, after ctx document ledger n = some ⟨c, sites⟩ := by
  constructor
  · intro h
    induction h with
    | refl => exact ⟨0, _, rfl⟩
    | tail _ hstep ih =>
        obtain ⟨n, sites, hn⟩ := ih
        obtain ⟨sites', hnext⟩ : ∃ sites', Located.next ctx ⟨_, sites⟩ = some ⟨_, sites'⟩ :=
          exists_next_of_step hstep
        exact ⟨n + 1, sites', by rw [after, hn]; exact hnext⟩
  · rintro ⟨n, sites, h⟩
    induction n generalizing c sites with
    | zero =>
        cases h
        exact .refl
    | succ n ih =>
        obtain ⟨here, hhere, hnext⟩ := Option.bind_eq_some_iff.mp h
        exact (ih here.sites hhere).tail (step_of_next hnext)

end Located

/-! ## The record and the table -/

section Record

variable {ctx : CheckContext} {pass pass' : Pass} {sites : Sites} {table : Dtd.EntityTable}

/-- The record knows the declarations of the table. -/
def Records (sites : Sites) (table : Dtd.EntityTable) : Prop :=
  sites.placed.map (·.entity) = table.entities

/-- What external entities are relative to is told by the places of their declarations. -/
def Based (ctx : CheckContext) (placed : List Placed) : Prop :=
  ∀ d ∈ placed, ∀ publicId systemId base, d.entity.kind = .external publicId systemId base →
    base = d.site.base ctx

/-- The external entities that the frame has still to declare belong in the text. -/
def Fits (ctx : CheckContext) (frame : Frame) (site : Site) : Prop :=
  ∀ e ∈ frame.events, e.IsBasedOn (site.base ctx)

theorem Records.find?_eq (h : Records sites table) (name : String) :
    (sites.find? name).map (·.entity) = table.find? name := by
  rw [Sites.find?, Dtd.EntityTable.find?, ← h, List.find?_map]
  rfl

theorem Records.declare (h : Records sites table) (hrun : sites.texts ≠ []) (d : Dtd.EntityDecl) :
    Records (sites.declare d) (table.declare d) := by
  obtain ⟨site, outer, htexts⟩ := List.exists_cons_of_ne_nil hrun
  have hsame : (table.find? d.name).isSome = (sites.find? d.name).isSome := by
    rw [← h.find?_eq, Option.isSome_map]
  simp only [Records, Sites.declare, htexts, Dtd.EntityTable.declare, hsame]
  split
  · exact h
  · have h : sites.placed.map (·.entity) = table.entities := h
    simp only [List.map_append, List.map_cons, List.map_nil, h]

theorem Records.handle (h : Records sites table) (hrun : sites.texts ≠ []) (e : Dtd.Event) :
    Records (sites.ofEvent ctx pass e) (table.handle e) := by
  cases e with
  | internalEntity name text => exact h.declare hrun _
  | externalEntity name publicId systemId base => exact h.declare hrun _
  | unparsedEntity name publicId systemId notationName => exact h.declare hrun _
  | _ => exact h

theorem Based.declare {site : Site} {outer : List Site} (h : Based ctx sites.placed)
    (htexts : sites.texts = site :: outer) {d : Dtd.EntityDecl}
    (hd : ∀ publicId systemId base, d.kind = .external publicId systemId base →
      base = site.base ctx) : Based ctx (sites.declare d).placed := by
  simp only [Sites.declare, htexts]
  split
  · exact h
  · intro d' hd'
    rcases List.mem_append.mp hd' with hd' | hd'
    · exact h d' hd'
    · rw [List.mem_singleton.mp hd']
      exact hd

theorem Based.handle {site : Site} {outer : List Site} (h : Based ctx sites.placed)
    (htexts : sites.texts = site :: outer) {e : Dtd.Event} (he : e.IsBasedOn (site.base ctx)) :
    Based ctx (sites.ofEvent ctx pass e).placed := by
  cases e with
  | internalEntity name text => exact h.declare htexts nofun
  | externalEntity name publicId systemId base =>
      refine h.declare htexts ?_
      rintro publicId' systemId' base' ⟨⟩
      exact he
  | unparsedEntity name publicId systemId notationName => exact h.declare htexts nofun
  | _ => exact h

theorem texts_declare (d : Dtd.EntityDecl) : (sites.declare d).texts = sites.texts := by
  unfold Sites.declare
  split
  · rfl
  · split <;> rfl

theorem texts_ofEvent {e : Dtd.Event} (he : ∀ name, e ≠ .parameterReference name) :
    (sites.ofEvent ctx pass e).texts = sites.texts := by
  cases e with
  | internalEntity name text => exact texts_declare _
  | externalEntity name publicId systemId base => exact texts_declare _
  | unparsedEntity name publicId systemId notationName => exact texts_declare _
  | parameterReference name => exact absurd rfl (he name)
  | _ => rfl

theorem entities_subset_handle (table : Dtd.EntityTable) (e : Dtd.Event) :
    table.entities ⊆ (table.handle e).entities := by
  have hdeclare (d : Dtd.EntityDecl) : table.entities ⊆ (table.declare d).entities := by
    unfold Dtd.EntityTable.declare
    split
    · exact List.Subset.refl _
    · exact List.subset_append_left _ _
  cases e with
  | internalEntity name text => exact hdeclare _
  | externalEntity name publicId systemId base => exact hdeclare _
  | unparsedEntity name publicId systemId notationName => exact hdeclare _
  | _ => exact List.Subset.refl _

theorem basedOn_of_scanned {text : String} {base : Option String} {events : List Dtd.Event}
    (h : scanned text base pass = .ok events pass') : ∀ e ∈ events, e.IsBasedOn base := by
  cases hscan : Dtd.scan text base with
  | error fault =>
      simp only [scanned, hscan] at h
      cases h
  | ok scanned =>
      simp only [Checked.scanned, hscan] at h
      cases h
      exact Dtd.basedOn_of_scan hscan

theorem exists_frame_of_enteredFrame {name text : String} {base : Option String}
    {outcome : Option Frame} (h : enteredFrame name text base pass = .ok outcome pass') :
    ∃ frame, outcome = some frame ∧ ∀ e ∈ frame.events, e.IsBasedOn base := by
  obtain ⟨events, mid, hscanned, hpure⟩ := ok_of_bind h
  cases hpure
  exact ⟨_, rfl, basedOn_of_scanned hscanned⟩

theorem fits_included (h : Records sites pass.table) {opened : List String} {name : String}
    {outcome : Option Frame} (hok : included ctx opened name pass = .ok outcome pass') :
    Option.Rel (Fits ctx) outcome (sites.included? ctx pass name) := by
  unfold included at hok
  split at hok
  · exact absurd hok not_ok_raise
  · rw [bind_get] at hok
    cases hfound : pass.table.parameter? name with
    | none =>
        simp only [hfound] at hok
        cases hok
    | some d =>
        simp only [hfound] at hok
        simp only [Sites.included?, hfound, Option.bind_some]
        -- The name in the declaration need not be the one it was found by.
        have hdeclared := h.find?_eq d.name
        rw [Dtd.EntityTable.find?_of_parameter? hfound] at hdeclared
        obtain ⟨entity, kind⟩ := d
        cases kind with
        | internal text =>
            obtain ⟨_, mid, _, hframe⟩ := ok_of_bind hok
            obtain ⟨frame, rfl, hbased⟩ := exists_frame_of_enteredFrame hframe
            obtain ⟨declared, hplaced, _⟩ := Option.map_eq_some_iff.mp hdeclared
            simp only [hplaced, Option.map_some]
            exact .some hbased
        | external publicId systemId base =>
            simp only [includedText] at hok
            split at hok
            · next hon =>
                obtain ⟨⟨text, home⟩, mid, hfetch, hframe⟩ := ok_of_bind hok
                obtain ⟨frame, rfl, hbased⟩ := exists_frame_of_enteredFrame hframe
                simp only [hon, hfetch, if_true]
                exact .some hbased
            · next hoff =>
                cases hok
                simp only [hoff]
                exact .none
        | unparsed systemId notationName => cases hok

theorem dispatch_reference (name : String) (pass : Pass) :
    dispatch ctx (.parameterReference name) pass = .ok () pass := rfl

theorem of_step {opened : List String} {e : Dtd.Event} {outcome : Option Frame}
    (h : step ctx opened e pass = .ok outcome pass') :
    pass'.table = pass.table.handle e ∧ ctx.Asks pass'.table pass.ledger pass'.ledger := by
  obtain ⟨_, mid, hdispatch, hrest⟩ := ok_of_bind h
  obtain ⟨htable, hasks⟩ := of_dispatch hdispatch
  -- The monitor is still with the table as it was, which the new one contains.
  have hgrown : ctx.Asks mid.table pass.ledger mid.ledger := by
    rw [htable]
    exact hasks.mono (entities_subset_handle _ _)
  split at hrest
  · obtain ⟨hsame, hincluded⟩ := (calm_included _ _ mid).1 hrest
    rw [hsame]
    exact ⟨htable, hgrown.trans hincluded⟩
  · cases hrest
    exact ⟨htable, hgrown⟩

theorem asks_of_step {opened : List String} {e : Dtd.Event} {fault : Fault}
    (h : step ctx opened e pass = .error fault pass') :
    ctx.Asks pass.table pass.ledger pass'.ledger := by
  rcases error_of_bind h with hdispatch | ⟨_, mid, hdispatch, hrest⟩
  · exact asks_of_dispatch hdispatch
  · split at hrest
    · next name =>
        rw [dispatch_reference] at hdispatch
        cases hdispatch
        exact (calm_included _ _ pass).2 hrest
    · cases hrest

/-- If an event leads to a text, the record has it before the others. -/
theorem fits_step (h : Records sites pass.table) {opened : List String} {e : Dtd.Event}
    {outcome : Option Frame} (hok : step ctx opened e pass = .ok outcome pass') :
    ∃ site, (sites.ofEvent ctx pass e).texts = Option.toList site ++ sites.texts ∧
      Option.Rel (Fits ctx) outcome site := by
  obtain ⟨_, mid, hdispatch, hrest⟩ := ok_of_bind hok
  split at hrest
  · next name =>
      rw [dispatch_reference] at hdispatch
      cases hdispatch
      exact ⟨_, rfl, fits_included h hrest⟩
  · next hother =>
      cases hrest
      exact ⟨none, texts_ofEvent hother, .none⟩

end Record

/-! ## Runs -/

section Runs

variable {ctx : CheckContext} {document : Markup.Document} {ledger : Ledger}

/-- How the tasks stand: a DTD is run first of all, and the record has its texts. -/
inductive Arranged (ctx : CheckContext) (table : Dtd.EntityTable) (texts : List Site) :
    List Task → Prop where
  | settled {tasks : List Task} (h : ∀ t ∈ tasks, Settled ctx table t) :
      Arranged ctx table texts tasks
  | running {frames : List Frame} {rest : List Task} (hfits : List.Forall₂ (Fits ctx) frames texts)
      (hrest : ∀ t ∈ rest, Settled ctx table t) : Arranged ctx table texts (.run frames :: rest)

/-- What is true of the machine and its record on every run from the ledger. -/
structure Tracked (ctx : CheckContext) (ledger : Ledger) (here : Located) : Prop where
  records : Records here.sites here.config.pass.table
  based : Based ctx here.sites.placed
  asks : ctx.Asks here.config.pass.table ledger here.config.pass.ledger
  arranged : Arranged ctx here.config.pass.table here.sites.texts here.config.tasks

theorem tracked_start : Tracked ctx ledger ⟨.start document ledger, ⟨[], []⟩⟩ where
  records := rfl
  based := by simp [Based]
  asks := .of_eq rfl
  arranged := by
    refine .settled fun t ht => ?_
    simp only [Config.start, List.mem_append, List.mem_map, List.mem_singleton] at ht
    rcases ht with ⟨token, _, rfl⟩ | rfl
    · trivial
    · exact calm_endDocument document

variable {t : Task} {rest : List Task} {pass pass' : Pass} {sites : Sites} {s : Stride}
  {entered entered' : List (ReferenceKind × String)}

theorem placed_next (ht : Settled ctx pass.table t) :
    (sites.next ctx pass t).placed = sites.placed := by
  cases t with
  | run frames => exact ht.elim
  | _ => rfl

theorem arranged_next (ht : Settled ctx pass.table t)
    (hrest : ∀ t' ∈ rest, Settled ctx pass'.table t')
    (hnext : Machine.next ctx t pass = .ok s pass') :
    Arranged ctx pass'.table (sites.next ctx pass t).texts (s.tasks ++ rest) := by
  -- Of the settled tasks, a subset is the only one that leads to a DTD.
  by_cases hsubset : ∃ text base, t = .subset text base
  · obtain ⟨text, base, rfl⟩ := hsubset
    obtain ⟨events, mid, hscanned, hpure⟩ := ok_of_bind hnext
    cases hpure
    exact .running (.cons (basedOn_of_scanned hscanned) .nil) hrest
  · refine .settled fun t' ht' => ?_
    rcases List.mem_append.mp ht' with ht' | ht'
    · exact settled_of_next ht (fun text base htext => hsubset ⟨text, base, htext⟩) hnext t' ht'
    · exact hrest t' ht'

theorem Tracked.settled (h : Tracked ctx ledger ⟨⟨t :: rest, pass, entered⟩, sites⟩)
    (ht : Settled ctx pass.table t) (hrest : ∀ t' ∈ rest, Settled ctx pass.table t')
    (hnext : Machine.next ctx t pass = .ok s pass') :
    Tracked ctx ledger ⟨⟨s.tasks ++ rest, pass', entered'⟩, sites.next ctx pass t⟩ := by
  obtain ⟨htable, hasks⟩ := (applies_next ht).1 hnext
  have hasked : ctx.Asks pass.table ledger pass'.ledger := h.asks.trans hasks
  exact {
    records := (congrArg _ (placed_next ht)).trans (htable ▸ h.records)
    based := by
      rw [placed_next ht]
      exact h.based
    asks := htable ▸ hasked
    arranged := arranged_next ht (htable ▸ hrest) hnext }

theorem Tracked.running {frames : List Frame}
    (h : Tracked ctx ledger ⟨⟨.run frames :: rest, pass, entered⟩, sites⟩)
    (hfits : List.Forall₂ (Fits ctx) frames sites.texts)
    (hrest : ∀ t' ∈ rest, Settled ctx pass.table t')
    (hnext : Machine.next ctx (.run frames) pass = .ok s pass') :
    Tracked ctx ledger ⟨⟨s.tasks ++ rest, pass', entered'⟩, sites.next ctx pass (.run frames)⟩ := by
  match frames with
  | [] =>
      cases hnext
      exact ⟨h.records, h.based, h.asks, .settled hrest⟩
  | ⟨entity, []⟩ :: outer =>
      cases hnext
      obtain ⟨site, texts, _, houter, htexts⟩ := List.forall₂_cons_left_iff.mp hfits
      refine ⟨h.records, h.based, h.asks, .running ?_ hrest⟩
      simpa only [Sites.next, htexts, List.tail_cons] using houter
  | ⟨entity, e :: events⟩ :: outer =>
      -- What is left of the first frame stays in its text; an included entity comes before it.
      obtain ⟨site, texts, hfirst, houter, htexts⟩ := List.forall₂_cons_left_iff.mp hfits
      have he : e.IsBasedOn (site.base ctx) := hfirst e List.mem_cons_self
      have hevents : Fits ctx ⟨entity, events⟩ site :=
        fun e' he' => hfirst e' (List.mem_cons_of_mem e he')
      obtain ⟨outcome, q, hstep, hpure⟩ := ok_of_bind hnext
      obtain ⟨htable, hasks⟩ := of_step hstep
      obtain ⟨entering, hentering, hinner⟩ := fits_step h.records hstep
      have hgrown : pass.table.entities ⊆ q.table.entities := by
        rw [htable]
        exact entities_subset_handle _ _
      have hrecords : Records (sites.ofEvent ctx pass e) q.table := by
        rw [htable]
        exact h.records.handle (by simp [htexts]) e
      have hleft : List.Forall₂ (Fits ctx) (⟨entity, events⟩ :: outer) sites.texts := by
        rw [htexts]
        exact .cons hevents houter
      have hframes : ∃ frames, s.tasks = [.run frames] ∧ pass' = q ∧
          List.Forall₂ (Fits ctx) frames (sites.ofEvent ctx pass e).texts := by
        rw [hentering]
        cases hinner with
        | none =>
            cases hpure
            exact ⟨_, rfl, rfl, hleft⟩
        | some hinner =>
            cases hpure
            exact ⟨_, rfl, rfl, .cons hinner hleft⟩
      obtain ⟨frames, htasks, rfl, hframes⟩ := hframes
      rw [htasks]
      exact {
        records := hrecords
        based := h.based.handle htexts he
        asks := (h.asks.mono hgrown).trans hasks
        arranged := .running hframes fun t' ht' => (hrest t' ht').mono hgrown }

theorem Tracked.next {here there : Located} (h : Tracked ctx ledger here)
    (hnext : here.next ctx = some there) : Tracked ctx ledger there := by
  obtain ⟨⟨tasks, pass, entered⟩, sites⟩ := here
  cases tasks with
  | nil => cases hnext
  | cons t rest =>
      simp only [Located.next] at hnext
      split at hnext
      · next s pass' hok =>
          cases hnext
          have harranged : Arranged ctx pass.table sites.texts (t :: rest) := h.arranged
          cases harranged with
          | settled hsettled =>
              exact h.settled (hsettled t List.mem_cons_self)
                (fun t' ht' => hsettled t' (List.mem_cons_of_mem t ht')) hok
          | running hfits hrest => exact h.running hfits hrest hok
      · cases hnext

theorem tracked_after {n : Nat} {here : Located}
    (h : Located.after ctx document ledger n = some here) : Tracked ctx ledger here := by
  induction n generalizing here with
  | zero =>
      cases h
      exact tracked_start
  | succ n ih =>
      obtain ⟨before, hbefore, hnext⟩ := Option.bind_eq_some_iff.mp h
      exact (ih hbefore).next hnext

theorem Tracked.failed {fault : Fault}
    (h : Tracked ctx ledger ⟨⟨t :: rest, pass, entered⟩, sites⟩)
    (hnext : Machine.next ctx t pass = .error fault pass') :
    ctx.Asks pass.table ledger pass'.ledger := by
  refine h.asks.trans ?_
  have harranged : Arranged ctx pass.table sites.texts (t :: rest) := h.arranged
  cases harranged with
  | settled hsettled => exact (applies_next (hsettled t List.mem_cons_self)).2 hnext
  | @running frames _ hfits hrest =>
      match frames with
      | [] => cases hnext
      | ⟨_, []⟩ :: outer => cases hnext
      | ⟨entity, e :: events⟩ :: outer =>
          rcases error_of_bind hnext with hstep | ⟨outcome, q, _, hpure⟩
          · exact asks_of_step hstep
          · cases outcome <;> cases hpure

theorem Tracked.asks_of_ends {last : Located} {result : EStateM.Result Fault Pass Unit}
    (h : Tracked ctx ledger last) (hends : Ends ctx last.config result) :
    ctx.Asks last.config.pass.table ledger (passOf result).ledger := by
  obtain ⟨config, sites⟩ := last
  cases hends with
  | done => exact h.asks
  | failed hnext => exact h.failed hnext

end Runs

end XmlBounds.Machine

namespace XmlBounds

/-- A check is a run of the machine to its end, with the record beside it. -/
theorem DocumentReader.exists_ends_of_checkText (files : Files) (text : String)
    (r : DocumentReader) :
    ∃ n last result,
      Machine.Located.after (r.context files) (Markup.read text)
        r.configuration.startParse.ledger n = some last ∧
      Machine.Ends (r.context files) last.config result ∧
      (checkText files text r).1 = Machine.answer result ∧
      (checkText files text r).2.configuration.ledger = (Machine.passOf result).ledger := by
  have hhalts : Machine.Halts (r.context files)
      (.start (Markup.read text) r.configuration.startParse.ledger)
      (Checked.checkDocument (r.context files) (Markup.read text)
        (.start r.configuration.startParse.ledger)) := by
    rw [Machine.halts_iff, Machine.carryOutAll_start]
    rfl
  obtain ⟨last, hruns, hends⟩ := hhalts
  obtain ⟨n, sites, hn⟩ := Machine.Located.runs_iff.mp hruns
  exact ⟨n, ⟨last, sites⟩, _, hn, hends, answer_of_checkText files text r⟩

/-- Wherever a check stands, each entity of the table has its place in the record, and the base of
an external entity is the system identifier of the resource that declares it, unless it is
declared in the replacement text of an internal entity of another resource than the document: then
it is the document's. By this base, and no other, the gate judges the entity and resolvers are
asked for it; and so it is opened, unless the installed resolver names something else. -/
theorem DocumentReader.bases_of_checkText (files : Files) (text : String) (r : DocumentReader) :
    let ctx := r.context files
    let ledger := r.configuration.startParse.ledger
    let after := Machine.Located.after ctx (Markup.read text) ledger
    (∀ c, Machine.Runs ctx (.start (Markup.read text) ledger) c ↔
      ∃ n sites, after n = some ⟨c, sites⟩) ∧
    (∀ n here, after n = some here →
      here.sites.placed.map (·.entity) = here.config.pass.table.entities ∧
      ∀ d ∈ here.sites.placed, ∀ publicId systemId base,
        d.entity.kind = .external publicId systemId base → base = d.site.base ctx ∧
          (base = d.site.home ↔ d.site.isReplacement = false ∨ d.site.home = ctx.systemId)) ∧
    ∃ n last result, after n = some last ∧ Machine.Ends ctx last.config result ∧
      (checkText files text r).1 = Machine.answer result ∧
      ∃ new, (checkText files text r).2.configuration.ledger.journal =
          new ++ r.configuration.ledger.journal ∧
        Entry.All (Entry.Serves ctx fun id => (id.entityName = none ∧ id.base = ctx.systemId) ∨
          ∃ d ∈ last.sites.placed, d.entity.IsSought id) new := by
  intro ctx ledger after
  refine ⟨fun c => Machine.Located.runs_iff, ?_, ?_⟩
  · intro n here hhere
    have htracked := Machine.tracked_after hhere
    refine ⟨htracked.records, ?_⟩
    intro d hd publicId systemId base hkind
    have hbase := htracked.based d hd publicId systemId base hkind
    exact ⟨hbase, by rw [hbase, Machine.Site.base_eq_home_iff]⟩
  · obtain ⟨n, last, result, hn, hends, hanswer, hledger⟩ := exists_ends_of_checkText files text r
    have htracked := Machine.tracked_after hn
    obtain ⟨new, hnew, hasked⟩ := htracked.asks_of_ends hends
    have hgrown : (checkText files text r).2.configuration.ledger.journal =
        new ++ r.configuration.ledger.journal := by
      rw [hledger]
      exact hnew
    refine ⟨n, last, result, hn, hends, hanswer, new, hgrown, ?_⟩
    refine fun e he => (hasked e he).mono ?_
    rintro id (hsubset | ⟨d, hd, hsought⟩)
    · exact .inl hsubset
    · rw [← htracked.records] at hd
      obtain ⟨placed, hplaced, rfl⟩ := List.mem_map.mp hd
      exact .inr ⟨placed, hplaced, hsought⟩

/-- A reader of a document with a name, which loads external DTDs and has no resolver. -/
def DocumentReader.named : DocumentReader :=
  { DocumentReader.plain (fun f => f = .loadExternalDtd) none with systemId := some "doc.xml" }

/-- The DTD declares an external entity by way of an internal one. -/
def Files.nested : Files where
  directory := "/"
  entries := [([Text.bytes "sub", Text.bytes "d.dtd"],
    Text.bytes "<!ENTITY % p '<!ENTITY x SYSTEM \"x.ent\">'> %p;")]

/-- So the base is not always that of the resource in which the entity is declared. -/
theorem not_forall_base_home :
    ¬ ∀ (files : Files) (text : String) (r : DocumentReader) (n : Nat) (here : Machine.Located),
      Machine.Located.after (r.context files) (Markup.read text)
          r.configuration.startParse.ledger n = some here →
        ∀ d ∈ here.sites.placed, ∀ publicId systemId base,
          d.entity.kind = .external publicId systemId base → base = d.site.home := by
  intro hall
  have hplaced : (Machine.Located.after (DocumentReader.named.context .nested)
      (Markup.read "<!DOCTYPE a SYSTEM \"sub/d.dtd\"><a/>")
      DocumentReader.named.configuration.startParse.ledger 6).map (·.sites.placed) = some
        [⟨⟨"%p", .internal "<!ENTITY x SYSTEM \"x.ent\">"⟩, ⟨some "file:///sub/d.dtd", false⟩⟩,
          ⟨⟨"x", .external none "x.ent" (some "doc.xml")⟩, ⟨some "file:///sub/d.dtd", true⟩⟩] := by
    decide +kernel
  obtain ⟨here, hhere, hsites⟩ := Option.map_eq_some_iff.mp hplaced
  have hbase := hall _ _ _ _ here hhere
    ⟨⟨"x", .external none "x.ent" (some "doc.xml")⟩, ⟨some "file:///sub/d.dtd", true⟩⟩
    (by simp [hsites]) none "x.ent" (some "doc.xml") rfl
  exact absurd hbase (by decide)

end XmlBounds
