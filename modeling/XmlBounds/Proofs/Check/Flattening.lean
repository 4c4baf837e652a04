import XmlBounds.Proofs.Check.Provenance
import XmlBounds.Proofs.Dtd.FirstDeclarations

/-!
# The events of a DTD in one list

To run the events of a DTD with the internal parameter entities that they refer to is to handle one
list of events, in which each reference is followed by the events of the text that the entity has at
that point. The first declaration in that list binds a name, for good: nothing that comes later in
the document changes what the name is bound to.
-/

namespace XmlBounds

namespace Dtd

/-- The second list has the events of the first, and after each reference to a parameter entity
those of its text, by the declarations that there are then. Before the events, there are those of
the table. -/
inductive Flattens (base : Option String) : EntityTable → List Event → List Event → Prop where
  | nil {t : EntityTable} : Flattens base t [] []
  | event {t : EntityTable} {e : Event} {events flat : List Event}
      (he : ∀ name, e ≠ .parameterReference name) (hrest : Flattens base (t.handle e) events flat) :
      Flattens base t (e :: events) (e :: flat)
  | reference {t : EntityTable} {name entity text : String}
      {inner events flatInner flat : List Event}
      (hname : t.parameter? name = some ⟨entity, .internal text⟩)
      (hscan : scan text base = .ok inner) (hinner : Flattens base t inner flatInner)
      (hrest : Flattens base (flatInner.foldl .handle t) events flat) :
      Flattens base t (.parameterReference name :: events)
        (.parameterReference name :: (flatInner ++ flat))

/-- Among the events and those of the texts that they lead to, in order, a reference to the name is
met when the declarations are those of the second table. -/
inductive Meets (base : Option String) :
    EntityTable → List Event → EntityTable → String → Prop where
  | here {t : EntityTable} {name : String} {events : List Event} :
      Meets base t (.parameterReference name :: events) t name
  | inside {t t' : EntityTable} {outer entity text name : String} {inner events : List Event}
      (houter : t.parameter? outer = some ⟨entity, .internal text⟩)
      (hscan : scan text base = .ok inner) (h : Meets base t inner t' name) :
      Meets base t (.parameterReference outer :: events) t' name
  | later {t t' : EntityTable} {name : String} {e : Event} {events flat : List Event}
      (he : Flattens base t [e] flat) (h : Meets base (flat.foldl .handle t) events t' name) :
      Meets base t (e :: events) t' name

variable {base : Option String} {t t' : EntityTable} {events events' flat flat' : List Event}
  {name : String}

theorem Flattens.append (h : Flattens base t events flat)
    (h' : Flattens base (flat.foldl .handle t) events' flat') :
    Flattens base t (events ++ events') (flat ++ flat') := by
  induction h with
  | nil => exact h'
  | event he _ ih => exact .event he (ih h')
  | reference hname hscan hinner _ _ ih =>
      rw [List.foldl_cons, List.foldl_append] at h'
      rw [List.cons_append, List.cons_append, List.append_assoc]
      exact .reference hname hscan hinner (ih h')

theorem Flattens.of_append (h : Flattens base t (events ++ events') flat) :
    ∃ first second, flat = first ++ second ∧ Flattens base t events first ∧
      Flattens base (first.foldl .handle t) events' second := by
  induction events generalizing t flat with
  | nil => exact ⟨[], flat, rfl, .nil, h⟩
  | cons e events ih =>
      cases h with
      | event he hrest =>
          obtain ⟨first, second, rfl, hfirst, hsecond⟩ := ih hrest
          exact ⟨e :: first, second, rfl, .event he hfirst, hsecond⟩
      | @reference _ name _ _ _ _ flatInner _ hname hscan hinner hrest =>
          obtain ⟨first, second, rfl, hfirst, hsecond⟩ := ih hrest
          refine ⟨.parameterReference name :: (flatInner ++ first), second, ?_,
            .reference hname hscan hinner hfirst, ?_⟩
          · rw [List.cons_append, List.append_assoc]
          · rw [List.foldl_cons, List.foldl_append]
            exact hsecond

/-- There is no more than one such list. -/
theorem Flattens.unique (h : Flattens base t events flat) (h' : Flattens base t events flat') :
    flat' = flat := by
  induction h generalizing flat' with
  | nil =>
      cases h'
      rfl
  | event he hrest ih =>
      cases h' with
      | event _ hrest' => rw [ih hrest']
      | reference => exact absurd rfl (he _)
  | reference hname hscan hinner hrest ihInner ih =>
      cases h' with
      | event he => exact absurd rfl (he _)
      | reference hname' hscan' hinner' hrest' =>
          rw [hname] at hname'
          cases hname'
          rw [hscan] at hscan'
          cases hscan'
          have hsame := ihInner hinner'
          subst hsame
          rw [ih hrest']

/-- What is met in a sequence is met in its first part or after it. -/
theorem Meets.of_append (h : Meets base t (events ++ events') t' name) :
    Meets base t events t' name ∨
      ∃ first, Flattens base t events first ∧
        Meets base (first.foldl .handle t) events' t' name := by
  induction events generalizing t with
  | nil => exact .inr ⟨[], .nil, h⟩
  | cons e events ih =>
      cases h with
      | here => exact .inl .here
      | inside houter hscan h => exact .inl (.inside houter hscan h)
      | @later _ _ _ _ _ flat he h =>
          rcases ih h with hfirst | ⟨first, hfirst, hsecond⟩
          · exact .inl (.later he hfirst)
          · refine .inr ⟨flat ++ first, Flattens.append he hfirst, ?_⟩
            rw [List.foldl_append]
            exact hsecond

/-- Where the list can be made, all references are to internal entities. -/
theorem Meets.internal (h : Meets base t events t' name) (hflat : Flattens base t events flat) :
    ∃ entity text, t'.parameter? name = some ⟨entity, .internal text⟩ := by
  induction h generalizing flat with
  | here =>
      cases hflat with
      | event he => exact absurd rfl (he _)
      | reference hname => exact ⟨_, _, hname⟩
  | inside houter hscan _ ih =>
      cases hflat with
      | event he => exact absurd rfl (he _)
      | reference hname hscan' hinner =>
          rw [houter] at hname
          cases hname
          rw [hscan] at hscan'
          cases hscan'
          exact ih hinner
  | @later _ _ _ e events _ he _ ih =>
      rw [← List.singleton_append] at hflat
      obtain ⟨first, second, _, hfirst, hsecond⟩ := hflat.of_append
      rw [he.unique hfirst] at hsecond
      exact ih hsecond

end Dtd

/-! ## Running the events -/

/-- What is left of the frames, as one list of events. -/
def Frame.pending (frames : List Frame) : List Dtd.Event := frames.flatMap (·.events)

/-- Each reference that is met is to an internal entity, if the entity is declared at all. -/
def Dtd.AllInternal (base : Option String) (t : EntityTable) (events : List Event) : Prop :=
  ∀ t' name d, Meets base t events t' name → t'.parameter? name = some d →
    ∃ text, d.kind = .internal text

namespace Dtd.AllInternal

variable {base : Option String} {t : EntityTable} {e : Event} {events : List Event} {name : String}

theorem tail (h : AllInternal base t (e :: events)) (he : ∀ name, e ≠ .parameterReference name) :
    AllInternal base (t.handle e) events :=
  fun t' name d hmeets => h t' name d (.later (.event he .nil) hmeets)

theorem enter {entity text : String} {inner : List Event}
    (h : AllInternal base t (.parameterReference name :: events))
    (hname : t.parameter? name = some ⟨entity, .internal text⟩)
    (hscan : scan text base = .ok inner) :
    AllInternal base t (inner ++ events) := by
  intro t' name' d hmeets
  rcases Meets.of_append hmeets with hmeets | ⟨first, hfirst, hmeets⟩
  · exact h t' name' d (.inside hname hscan hmeets)
  · refine h t' name' d (.later (.reference hname hscan hfirst .nil) ?_)
    rw [List.append_nil]
    exact hmeets

end Dtd.AllInternal

namespace Checked

open Dtd (Flattens Meets AllInternal)

variable {ctx : CheckContext} {opened : List String} {e : Dtd.Event} {name : String}
  {outcome : Option Frame} {frames : List Frame} {pass pass' : Pass}

theorem outcome_of_step (he : ∀ name, e ≠ .parameterReference name)
    (h : step ctx opened e pass = .ok outcome pass') : outcome = none := by
  obtain ⟨_, mid, _, hrest⟩ := ok_of_bind h
  split at hrest
  · exact absurd rfl (he _)
  · cases hrest
    rfl

/-- A reference to an internal entity leads to what is scanned in the entity's text. -/
theorem frame_of_step (h : step ctx opened (.parameterReference name) pass = .ok outcome pass')
    (hinternal : ∀ d, pass.table.parameter? name = some d → ∃ text, d.kind = .internal text) :
    ∃ entity text inner, pass.table.parameter? name = some ⟨entity, .internal text⟩ ∧
      Dtd.scan text ctx.systemId = .ok inner ∧ outcome = some ⟨some name, inner⟩ := by
  obtain ⟨_, mid, hdispatch, hincluded⟩ := ok_of_bind h
  cases (Machine.dispatch_reference name pass).symm.trans hdispatch
  simp only [included] at hincluded
  split at hincluded
  · exact absurd hincluded not_ok_raise
  · rw [bind_get] at hincluded
    cases hfound : pass.table.parameter? name with
    | none =>
        simp only [hfound] at hincluded
        cases hincluded
    | some d =>
        simp only [hfound] at hincluded
        obtain ⟨entity, kind⟩ := d
        obtain ⟨text, rfl⟩ := hinternal _ hfound
        obtain ⟨_, counted, _, hframe⟩ := ok_of_bind hincluded
        obtain ⟨inner, q, hscanned, hpure⟩ := ok_of_bind hframe
        cases hpure
        cases hscan : Dtd.scan text ctx.systemId with
        | error fault =>
            simp only [scanned, hscan] at hscanned
            cases hscanned
        | ok events =>
            simp only [scanned, hscan] at hscanned
            cases hscanned
            exact ⟨entity, text, inner, rfl, hscan, rfl⟩

theorem runFrames_passed {entity : Option String} {events : List Dtd.Event} {mid : Pass}
    (h : step ctx (Frame.opened (⟨entity, e :: events⟩ :: frames)) e pass = .ok none mid) :
    runFrames ctx (⟨entity, e :: events⟩ :: frames) pass =
      runFrames ctx (⟨entity, events⟩ :: frames) mid := by
  rw [runFrames_step, bind_of_ok h]

theorem runFrames_entered {entity : Option String} {events : List Dtd.Event} {inner : Frame}
    {mid : Pass}
    (h : step ctx (Frame.opened (⟨entity, e :: events⟩ :: frames)) e pass = .ok (some inner) mid) :
    runFrames ctx (⟨entity, e :: events⟩ :: frames) pass =
      runFrames ctx (inner :: ⟨entity, events⟩ :: frames) mid := by
  rw [runFrames_step, bind_of_ok h]

/-- The induction is on the run; what is still to come in all frames is one list of events, and a
reference only puts events before the others. -/
theorem flattens_of_runFrames (hmet : AllInternal ctx.systemId pass.table (Frame.pending frames))
    (hok : runFrames ctx frames pass = .ok () pass') :
    ∃ flat, Flattens ctx.systemId pass.table (Frame.pending frames) flat ∧
      pass'.table = flat.foldl .handle pass.table := by
  induction frames, pass using runFrames.induct ctx with
  | case1 pass =>
      rw [runFrames_nil] at hok
      cases hok
      exact ⟨[], .nil, rfl⟩
  | case2 pass entity outer ih =>
      rw [runFrames_leave] at hok
      exact ih hmet hok
  | case3 pass entity e events outer fault mid hs =>
      rw [runFrames_step, bind_of_error hs] at hok
      cases hok
  | case4 pass entity e events outer mid hs ih =>
      rw [runFrames_passed hs] at hok
      have he : ∀ name, e ≠ .parameterReference name := by
        rintro name rfl
        obtain ⟨_, _, _, _, _, houtcome⟩ := frame_of_step hs fun d => hmet _ name d .here
        cases houtcome
      have htable := (Machine.of_step hs).1
      rw [htable] at ih
      obtain ⟨flat, hflat, hend⟩ := ih (hmet.tail he) hok
      exact ⟨e :: flat, .event he hflat, hend⟩
  | case5 pass entity e events outer inner mid hs ih =>
      rw [runFrames_entered hs] at hok
      have he : ∃ name, e = .parameterReference name := by
        by_contra hother
        cases outcome_of_step (not_exists.mp hother) hs
      obtain ⟨name, rfl⟩ := he
      obtain ⟨entity', text, events', hname, hscan, houtcome⟩ :=
        frame_of_step hs fun d => hmet _ name d .here
      cases houtcome
      have htable : mid.table = pass.table := (Machine.of_step hs).1
      rw [htable] at ih
      obtain ⟨flat, hflat, hend⟩ := ih (hmet.enter hname hscan) hok
      obtain ⟨first, second, rfl, hfirst, hsecond⟩ := Flattens.of_append hflat
      exact ⟨_, .reference hname hscan hfirst hsecond, hend⟩

end Checked

/-! ## What is bound stays bound -/

namespace Machine

open Checked

variable {ctx : CheckContext} {document : Markup.Document} {ledger : Ledger} {c c' : Config}

theorem exists_tracked (h : Runs ctx (.start document ledger) c) :
    ∃ sites, Tracked ctx ledger ⟨c, sites⟩ := by
  obtain ⟨n, sites, hn⟩ := Located.runs_iff.mp h
  exact ⟨sites, tracked_after hn⟩

/-- In a check, a step leaves the table as it is or handles an event. -/
theorem table_of_step (h : Runs ctx (.start document ledger) c) (hstep : Step ctx c c') :
    c'.pass.table = c.pass.table ∨ ∃ e, c'.pass.table = c.pass.table.handle e := by
  obtain ⟨sites, htracked⟩ := exists_tracked h
  have harranged := htracked.arranged
  cases hstep with
  | next hnext =>
      cases harranged with
      | settled hsettled =>
          exact .inl ((applies_next (hsettled _ List.mem_cons_self)).1 hnext).1
      | @running frames _ _ _ =>
          match frames with
          | [] =>
              cases hnext
              exact .inl rfl
          | ⟨entity, []⟩ :: outer =>
              cases hnext
              exact .inl rfl
          | ⟨entity, e :: events⟩ :: outer =>
              obtain ⟨outcome, mid, hs, hpure⟩ := ok_of_bind hnext
              refine .inr ⟨e, ?_⟩
              rw [← (of_step hs).1]
              cases outcome <;>
              · cases hpure
                rfl

theorem find?_of_runs (h : Runs ctx (.start document ledger) c) (hrun : Runs ctx c c')
    {name : String} {d : Dtd.EntityDecl} (hd : c.pass.table.find? name = some d) :
    c'.pass.table.find? name = some d := by
  induction hrun with
  | refl => exact hd
  | tail hbefore hstep ih =>
      rcases table_of_step (h.trans hbefore) hstep with hsame | ⟨e, hhandled⟩
      · rw [hsame]
        exact ih
      · rw [hhandled]
        exact Dtd.EntityTable.find?_handle_of_some e ih

end Machine

/-- If the events of a DTD run through, and all references met on the way are to internal entities,
the events can be put into one list, and in one way only, with those of its text after each
reference. The table is then that of the list: each name is bound to its first declaration, the
entities are in the order in which they were first declared, and there are as many as there are
names. Wherever a check has come to this table, nothing later in the document changes what a name is
bound to. -/
theorem Checked.flattened_of_runDtd {ctx : CheckContext} {events : List Dtd.Event}
    {pass pass' : Pass} (hmet : Dtd.AllInternal ctx.systemId pass.table events)
    (hok : runDtd ctx events pass = .ok () pass') :
    ∃ flat, Dtd.Flattens ctx.systemId pass.table events flat ∧
      (∀ flat', Dtd.Flattens ctx.systemId pass.table events flat' → flat' = flat) ∧
      pass'.table = flat.foldl .handle pass.table ∧
      Dtd.EntityTable.Binds pass.table (Dtd.declarations flat) pass'.table ∧
      ∀ document ledger c c', Machine.Runs ctx (.start document ledger) c →
        c.pass.table = pass'.table → Machine.Runs ctx c c' →
          ∀ name d, pass'.table.find? name = some d → c'.pass.table.find? name = some d := by
  have hpending : Frame.pending [⟨none, events⟩] = events := by simp [Frame.pending]
  rw [← hpending] at hmet
  obtain ⟨flat, hflat, hend⟩ := flattens_of_runFrames hmet hok
  rw [hpending] at hflat
  refine ⟨flat, hflat, fun _ => hflat.unique, hend, hend ▸ Dtd.EntityTable.binds_foldl_handle _ _,
    ?_⟩
  intro document ledger c c' hc htable hrun name d hd
  exact Machine.find?_of_runs hc hrun (htable ▸ hd)

namespace Plain

open Checked

/-- A parameter entity whose text declares another entity. -/
def declaring : Dtd.EntityDecl := ⟨"%p", .internal "<!ENTITY x '1'>"⟩

/-- A subset that refers to the parameter entity and then declares the other entity itself. -/
def doubled : List Dtd.Event :=
  [.internalEntity "%p" "<!ENTITY x '1'>", .parameterReference "p", .internalEntity "x" "2"]

/-- A check that has declared the entities. -/
def doubledPass (ledger : Ledger) (expansions : Nat) (entities : List Dtd.EntityDecl) : Pass :=
  { Pass.start ledger with table := ⟨entities, [], []⟩, expansions }

theorem scan_declaring : Dtd.scan "<!ENTITY x '1'>" none = .ok [.internalEntity "x" "1"] :=
  eq_ok_of_toOption (by decide +kernel)

theorem flattens_doubled : Dtd.Flattens none .empty doubled
    [.internalEntity "%p" "<!ENTITY x '1'>", .parameterReference "p", .internalEntity "x" "1",
      .internalEntity "x" "2"] :=
  have hfound :
      (Dtd.EntityTable.empty.handle (.internalEntity "%p" "<!ENTITY x '1'>")).parameter? "p" =
        some declaring := by decide +kernel
  .event nofun (.reference hfound scan_declaring (.event nofun .nil) (.event nofun .nil))

theorem step_reference (ledger : Ledger) :
    step offline [] (.parameterReference "p") (doubledPass ledger 0 [declaring]) =
      .ok (some ⟨some "p", [.internalEntity "x" "1"]⟩)
        (doubledPass { ledger with journal := .expanded .parameter "p" declaring :: ledger.journal }
          1 [declaring]) := by
  have hscanned (pass : Pass) : scanned "<!ENTITY x '1'>" none pass =
      .ok [.internalEntity "x" "1"] pass := by
    simp only [scanned, scan_declaring]
    rfl
  exact (bind_of_ok (hscanned _)).trans rfl

theorem runDtd_doubled : ∃ ledger, runDtd offline doubled (.start .empty) =
    .ok () (doubledPass ledger 1 [declaring, ⟨"x", .internal "1"⟩]) := by
  let declared : Ledger := ⟨15, [], [.counted "%p" 15, .declared "%p" "<!ENTITY x '1'>"]⟩
  let entered : Ledger := ⟨15, [], .expanded .parameter "p" declaring :: declared.journal⟩
  let first : Ledger := ⟨16, [], .counted "x" 1 :: .declared "x" "1" :: entered.journal⟩
  let second : Ledger := ⟨17, [], .counted "x" 1 :: .declared "x" "2" :: first.journal⟩
  have hentity : step offline [] (.internalEntity "%p" "<!ENTITY x '1'>") (.start .empty) =
      .ok none (doubledPass declared 0 [declaring]) := rfl
  have hfirst : step offline ["p"] (.internalEntity "x" "1") (doubledPass entered 1 [declaring]) =
      .ok none (doubledPass first 1 [declaring, ⟨"x", .internal "1"⟩]) := rfl
  have hsecond : step offline [] (.internalEntity "x" "2")
      (doubledPass first 1 [declaring, ⟨"x", .internal "1"⟩]) =
        .ok none (doubledPass second 1 [declaring, ⟨"x", .internal "1"⟩]) := rfl
  refine ⟨second, ?_⟩
  rw [runDtd, doubled, runFrames_passed hentity, runFrames_entered (step_reference declared),
    runFrames_passed hfirst, runFrames_leave, runFrames_passed hsecond, runFrames_leave,
    runFrames_nil]
  rfl

end Plain

/-- The declaration in the subset comes too late, and does not count. -/
theorem Plain.flattened_doubled :
    ∃ pass', Checked.runDtd Plain.offline Plain.doubled (.start .empty) = .ok () pass' ∧
      Dtd.AllInternal none .empty Plain.doubled ∧
      ∃ flat, Dtd.Flattens none .empty Plain.doubled flat ∧
        pass'.table = flat.foldl .handle .empty ∧
        pass'.table.entities = [Plain.declaring, ⟨"x", .internal "1"⟩] := by
  have hinternal : Dtd.AllInternal offline.systemId (Pass.start .empty).table doubled := by
    intro t' name d hmeets hd
    obtain ⟨entity, text, hname⟩ := hmeets.internal flattens_doubled
    cases hname.symm.trans hd
    exact ⟨text, rfl⟩
  obtain ⟨ledger, hrun⟩ := runDtd_doubled
  obtain ⟨flat, hflat, _, htable, _⟩ := Checked.flattened_of_runDtd hinternal hrun
  exact ⟨_, hrun, hinternal, flat, hflat, htable, rfl⟩

end XmlBounds
