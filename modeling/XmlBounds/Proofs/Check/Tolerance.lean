import XmlBounds.Proofs.Check.Flattening

/-!
# Undeclared entities

A DTD may be left out in parts, and what is left out may have declared an entity that a document
refers to. A general reference is passed over then; a reference to a parameter entity is at fault
all the same.
-/

namespace XmlBounds

/-- The declaration that a reference goes by. -/
def ReferenceKind.find? : ReferenceKind → Dtd.EntityTable → String → Option Dtd.EntityDecl
  | general, t, name => t.general? name
  | parameter, t, name => t.parameter? name

/-- What a reference fails with if its entity is not declared. -/
def ReferenceKind.undeclared : ReferenceKind → String → Fault
  | general, name => .markup (.undeclaredEntity name)
  | parameter, name => .dtd (.undeclaredParameter name)

theorem Dtd.EntityTable.parameter?_eq_find? (t : EntityTable) (name : String) :
    t.parameter? name = t.find? (if isParameterName name then name else parameterName name) := by
  unfold parameter?
  split <;> rfl

/-- A success leaves the note that content was left out as it is. -/
def noting : Contract Pass := ⟨fun p q => q.skippedExternal = p.skippedExternal, fun _ _ => True⟩

instance : noting.Composes where
  refl _ := rfl
  trans h h' := h'.trans h
  stop _ := trivial
  after _ _ := trivial

namespace Checked

variable {ctx : CheckContext}

theorem noting_accounted {α : Type} (x : Accounted α) : noting.Holds (accounted x) where
  of_ok h := by
    have hsame := congrArg Pass.skippedExternal (ok_of_accounted h).2
    exact hsame
  of_error _ := trivial

theorem noting_modify {f : Pass → Pass} (hf : ∀ p, (f p).skippedExternal = p.skippedExternal) :
    noting.Holds (modify f : Checked PUnit) := Contract.holds_modify hf

theorem noting_countElement (name : String) (depth : Nat) :
    noting.Holds (countElement ctx name depth) :=
  Contract.Holds.bind (noting_modify fun _ => rfl) fun _ => noting_accounted _

theorem noting_admitTag (tag : Markup.Tag) : noting.Holds (admitTag ctx tag) := by
  refine (Contract.holds_refuse _ _).bind fun _ => (noting_accounted _).bind fun _ =>
    Contract.Holds.bind (noting_modify fun _ => rfl) fun _ => ?_
  unfold checkOccurs
  split
  · exact Contract.holds_pure _
  · refine Contract.holds_get.bind fun pass => ?_
    split
    · exact noting_accounted _
    · exact Contract.holds_pure _

theorem noting_closeScope : noting.Holds closeScope := noting_modify fun _ => rfl

theorem noting_endDocument (document : Markup.Document) : noting.Holds (endDocument document) := by
  unfold endDocument
  split
  · exact Contract.holds_pure _
  · exact Contract.holds_throw _

theorem noting_dispatch (e : Dtd.Event) : noting.Holds (dispatch ctx e) := by
  refine (noting_accounted _).bind fun out => ?_
  cases out with
  | none => exact Contract.holds_pure _
  | some e' => exact noting_modify fun _ => rfl

theorem noting_countExpansion (kind : ReferenceKind) (name : String) (entity : Dtd.EntityDecl) :
    noting.Holds (countExpansion ctx kind name entity) :=
  Contract.Holds.bind (noting_modify fun _ => rfl) fun _ =>
    Contract.holds_get.bind fun _ => (noting_accounted _).bind fun _ => noting_accounted _

theorem noting_fetchEntity (kind : ReferenceKind) (name : String) (entity : Dtd.EntityDecl)
    (publicId : Option String) (systemId : String) (base : Option String) :
    noting.Holds (fetchEntity ctx kind name entity publicId systemId base) :=
  (noting_countExpansion _ _ _).bind fun _ => noting_accounted _

theorem noting_replacement (name : String) (d : Dtd.EntityDecl) :
    noting.Holds (replacement ctx name d) := by
  unfold replacement
  split
  · exact (noting_countExpansion _ _ _).bind fun _ => Contract.holds_pure _
  · exact (noting_fetchEntity _ _ _ _ _ _).bind fun _ => Contract.holds_pure _
  · exact Contract.holds_throw _

end Checked

namespace Machine

open Checked

/-! ## What is left out -/

/-- To do the task is to leave out external content of the DTD, because its feature is off. -/
inductive LeavesOut (ctx : CheckContext) (table : Dtd.EntityTable) : Task → Prop where
  | subset {publicId : Option String} {systemId : String}
      (hoff : ctx.isEnabled .loadExternalDtd = false) :
      LeavesOut ctx table (.externalSubset publicId (some systemId))
  | entity {opener : Option String} {name : String} {d : Dtd.EntityDecl} {events : List Dtd.Event}
      {outer : List Frame} (hd : table.parameter? name = some d) (hexternal : d.isExternal = true)
      (hoff : ctx.isEnabled .externalParameterEntities = false) :
      LeavesOut ctx table (.run (⟨opener, .parameterReference name :: events⟩ :: outer))

def Config.LeavesOut (ctx : CheckContext) (c : Config) : Prop :=
  ∃ t ∈ c.tasks.head?, Machine.LeavesOut ctx c.pass.table t

/-- On the way from one configuration to the other, external content of the DTD was left out. -/
def LeftOut (ctx : CheckContext) (start c : Config) : Prop :=
  ∃ c₁ c₂, Runs ctx start c₁ ∧ c₁.LeavesOut ctx ∧ Step ctx c₁ c₂ ∧ Runs ctx c₂ c

variable {ctx : CheckContext} {pass pass' : Pass} {s : Stride} {t : Task}

theorem leavesOut_reference_iff {table : Dtd.EntityTable} {opener : Option String} {name : String}
    {events : List Dtd.Event} {outer : List Frame} :
    LeavesOut ctx table (.run (⟨opener, .parameterReference name :: events⟩ :: outer)) ↔
      ∃ d, table.parameter? name = some d ∧ d.isExternal = true ∧
        ctx.isEnabled .externalParameterEntities = false := by
  constructor
  · rintro ⟨⟩
    exact ⟨_, ‹_›, ‹_›, ‹_›⟩
  · rintro ⟨d, hd, hexternal, hoff⟩
    exact .entity hd hexternal hoff

theorem iff_or_of_eq {p q : Pass} {P : Prop} (h : noting.success p q) (hP : ¬ P) :
    q.skippedExternal = true ↔ p.skippedExternal = true ∨ P := by
  have h : q.skippedExternal = p.skippedExternal := h
  rw [h, or_iff_left hP]

theorem noted_of_included {opened : List String} {name : String} {outcome : Option Frame}
    (h : included ctx opened name pass = .ok outcome pass') :
    pass'.skippedExternal = true ↔ pass.skippedExternal = true ∨
      ∃ d, pass.table.parameter? name = some d ∧ d.isExternal = true ∧
        ctx.isEnabled .externalParameterEntities = false := by
  unfold included at h
  split at h
  · exact absurd h not_ok_raise
  · rw [bind_get] at h
    cases hfound : pass.table.parameter? name with
    | none =>
        simp only [hfound] at h
        cases h
    | some d =>
        simp only [hfound] at h
        obtain ⟨entity, kind⟩ := d
        cases kind with
        | internal text =>
            have hnoting : noting.Holds (includedText ctx name ⟨entity, .internal text⟩) :=
              (noting_countExpansion _ _ _).bind fun _ => holds_enteredFrame _ _ _
            refine iff_or_of_eq (hnoting.of_ok h) ?_
            rintro ⟨_, ⟨⟩, ⟨⟩, _⟩
        | external publicId systemId base =>
            simp only [includedText] at h
            split at h
            · next hon =>
                obtain ⟨fetched, mid, hfetch, hframe⟩ := ok_of_bind h
                have hfetched : mid.skippedExternal = pass.skippedExternal :=
                  (noting_fetchEntity _ _ _ _ _ _).of_ok hfetch
                have hentered : noting.Holds (enteredFrame name fetched.1 fetched.2) :=
                  holds_enteredFrame _ _ _
                refine iff_or_of_eq ((hentered.of_ok hframe).trans hfetched) ?_
                rintro ⟨_, _, _, hoff⟩
                rw [hon] at hoff
                cases hoff
            · next hoff =>
                cases h
                exact iff_of_true rfl (.inr ⟨_, rfl, rfl, Bool.eq_false_iff.mpr hoff⟩)
        | unparsed systemId notationName => cases h

theorem noting_token (t : Markup.Token) : noting.Holds (nextOfToken ctx t) := by
  cases t with
  | text content => exact Contract.holds_pure _
  | doctype content =>
      simp only [nextOfToken]
      split
      · exact noting_accounted _
      · split
        · exact Contract.holds_throw _
        · exact Contract.Holds.bind (noting_modify fun _ => rfl) fun _ =>
            (noting_dispatch _).bind fun _ => Contract.holds_pure _
  | startTag tag =>
      exact Contract.Holds.bind (noting_modify fun _ => rfl) fun _ =>
        Contract.holds_get.bind fun _ => Contract.holds_pure _
  | emptyTag tag => exact Contract.holds_get.bind fun _ => Contract.holds_pure _
  | endTag =>
      have hclose : noting.Holds closeElement :=
        Contract.Holds.bind (noting_modify fun _ => rfl) fun _ => noting_closeScope
      exact hclose.bind fun _ => Contract.holds_pure _
  | ignored => exact Contract.holds_pure _

theorem noting_reference (known : Dtd.EntityTable) (opened : List String) (rest : List Reference)
    (name : String) : noting.Holds (nextOfReference ctx known opened rest name) := by
  unfold nextOfReference
  split
  · exact Contract.holds_pure _
  · split
    · exact (Contract.holds_undeclared _).bind fun _ => Contract.holds_pure _
    · split
      · exact Contract.holds_pure _
      · split
        · exact noting_accounted _
        · exact (noting_replacement _ _).bind fun _ => Contract.holds_pure _

theorem noting_expand {known : Dtd.EntityTable} {opened : List String} {refs : List Reference} :
    noting.Holds (Machine.next ctx (.expand known opened refs)) := by
  cases refs with
  | nil => exact Contract.holds_pure _
  | cons r rest =>
      cases r with
      | unterminated text => exact Contract.holds_throw _
      | named name => exact noting_reference known opened rest name

theorem noted_of_nextOfExternal {publicId systemId : Option String}
    (h : nextOfExternal ctx publicId systemId pass = .ok s pass') :
    pass'.skippedExternal = true ↔ pass.skippedExternal = true ∨
      LeavesOut ctx pass.table (.externalSubset publicId systemId) := by
  cases systemId with
  | none =>
      cases h
      exact iff_or_of_eq rfl (by rintro ⟨⟩)
  | some systemId =>
      simp only [nextOfExternal] at h
      split at h
      · next hon =>
          obtain ⟨fetched, mid, hfetch, hpure⟩ := ok_of_bind h
          cases hpure
          refine iff_or_of_eq ((noting_accounted _).of_ok hfetch) ?_
          rintro ⟨hoff⟩
          rw [hon] at hoff
          cases hoff
      · next hoff =>
          cases h
          exact iff_of_true rfl (.inr (.subset (Bool.eq_false_iff.mpr hoff)))

theorem noted_of_nextOfFrames {frames : List Frame}
    (h : nextOfFrames ctx frames pass = .ok s pass') :
    pass'.skippedExternal = true ↔ pass.skippedExternal = true ∨
      LeavesOut ctx pass.table (.run frames) := by
  rcases frames with _ | ⟨⟨opener, _ | ⟨e, events⟩⟩, outer⟩
  · cases h
    exact iff_or_of_eq rfl (by rintro ⟨⟩)
  · cases h
    exact iff_or_of_eq rfl (by rintro ⟨⟩)
  · obtain ⟨outcome, mid, hs, hpure⟩ := ok_of_bind h
    have hmid : pass' = mid := by
      cases outcome <;>
      · cases hpure
        rfl
    rw [hmid]
    obtain ⟨_, dispatched, hdispatch, hrest⟩ := ok_of_bind hs
    split at hrest
    · next name =>
        cases (dispatch_reference name pass).symm.trans hdispatch
        rw [noted_of_included hrest, leavesOut_reference_iff]
    · next hother =>
        cases hrest
        refine iff_or_of_eq ((noting_dispatch _).of_ok hdispatch) ?_
        rintro ⟨⟩
        exact hother _ rfl

/-- A step notes that content was left out if it leaves out some, and takes no note back. -/
theorem noted_of_next (ht : ∀ x hx, t = .act x hx → noting.Holds x)
    (h : Machine.next ctx t pass = .ok s pass') :
    pass'.skippedExternal = true ↔ pass.skippedExternal = true ∨ LeavesOut ctx pass.table t := by
  cases t with
  | act x hx =>
      obtain ⟨_, mid, hx', hpure⟩ := ok_of_bind h
      cases hpure
      exact iff_or_of_eq ((ht x hx rfl).of_ok hx') (by rintro ⟨⟩)
  | token t => exact iff_or_of_eq ((noting_token t).of_ok h) (by rintro ⟨⟩)
  | text content =>
      cases h
      exact iff_or_of_eq rfl (by rintro ⟨⟩)
  | expand known opened refs => exact iff_or_of_eq (noting_expand.of_ok h) (by rintro ⟨⟩)
  | subset text base =>
      obtain ⟨events, mid, hscanned, hpure⟩ := ok_of_bind h
      cases hpure
      have hnoting : noting.Holds (scanned text base) := holds_scanned _ _
      exact iff_or_of_eq (hnoting.of_ok hscanned) (by rintro ⟨⟩)
  | externalSubset publicId systemId => exact noted_of_nextOfExternal h
  | run frames => exact noted_of_nextOfFrames h

/-! ## What is true of the tasks -/

/-- An operation leaves the note as it is, and the entities whose texts are run are declared. -/
def Orderly (table : Dtd.EntityTable) : Task → Prop
  | .act x _ => noting.Holds x
  | .run frames => ∀ name ∈ Frame.opened frames, (table.parameter? name).isSome = true
  | .token _ | .text _ | .expand _ _ _ | .subset _ _ | .externalSubset _ _ => True

variable {table : Dtd.EntityTable}

theorem isSome_parameter?_handle {name : String} (h : (table.parameter? name).isSome = true)
    (e : Dtd.Event) : ((table.handle e).parameter? name).isSome = true := by
  rw [Dtd.EntityTable.parameter?_eq_find?] at h ⊢
  obtain ⟨d, hd⟩ := Option.isSome_iff_exists.mp h
  rw [Dtd.EntityTable.find?_handle_of_some e hd]
  rfl

theorem Orderly.handle (h : Orderly table t) (e : Dtd.Event) : Orderly (table.handle e) t := by
  cases t with
  | run frames => exact fun name hname => isSome_parameter?_handle (h name hname) e
  | _ => exact h

theorem opened_cons (frame : Frame) (frames : List Frame) :
    Frame.opened (frame :: frames) = frame.entity.toList ++ Frame.opened frames := by
  cases h : frame.entity <;> simp [Frame.opened, h]

theorem orderly_elementTasks (tag : Markup.Tag) (depth : Nat) :
    ∀ t ∈ elementTasks ctx tag depth, Orderly table t := by
  intro t ht
  simp only [elementTasks, List.cons_append, List.mem_cons, List.mem_append, List.mem_map,
    List.not_mem_nil, or_false] at ht
  rcases ht with rfl | ⟨a, _, rfl⟩ | rfl
  · exact noting_countElement _ _
  · trivial
  · exact noting_admitTag _

theorem orderly_token {t : Markup.Token} (h : nextOfToken ctx t pass = .ok s pass') :
    ∀ t' ∈ s.tasks, Orderly table t' := by
  cases t with
  | text content =>
      cases h
      simp [Stride.to, Orderly]
  | doctype content =>
      simp only [nextOfToken] at h
      split at h
      · exact absurd h not_ok_raise
      · cases hsplit : Dtd.Doctype.split content with
        | error fault =>
            rw [hsplit] at h
            cases h
        | ok decl =>
            rw [hsplit] at h
            obtain ⟨_, named, _, hrest⟩ := ok_of_bind h
            obtain ⟨_, mid, _, hpure⟩ := ok_of_bind hrest
            cases hpure
            cases hsubset : decl.subset <;>
              simpa [Stride.to, doctypeTasks, hsubset, Orderly] using noting_dispatch .endDtd
  | startTag tag =>
      cases h
      exact orderly_elementTasks tag _
  | emptyTag tag =>
      cases h
      intro t ht
      rcases List.mem_append.mp ht with ht | ht
      · exact orderly_elementTasks tag _ t ht
      · rw [List.mem_singleton.mp ht]
        exact noting_closeScope
  | endTag =>
      cases h
      simp [Stride.to]
  | ignored =>
      cases h
      simp [Stride.to]

theorem orderly_reference {known : Dtd.EntityTable} {opened : List String}
    {rest : List Reference} {name : String}
    (h : nextOfReference ctx known opened rest name pass = .ok s pass') :
    ∀ t' ∈ s.tasks, Orderly table t' := by
  simp only [nextOfReference] at h
  split at h
  · cases h
    simp [Stride.to, Orderly]
  · cases hfound : known.general? name with
    | none =>
        rw [hfound] at h
        obtain ⟨_, mid, _, hpure⟩ := ok_of_bind h
        cases hpure
        simp [Stride.to, Orderly]
    | some d =>
        simp only [hfound] at h
        split at h
        · cases h
          simp [Stride.to, Orderly]
        · split at h
          · exact absurd h not_ok_raise
          · obtain ⟨text, mid, _, hpure⟩ := ok_of_bind h
            cases hpure
            simp [Orderly]

/-- A text is only run for an entity that is declared. -/
theorem declared_of_step {opened : List String} {e : Dtd.Event} {inner : Frame}
    (h : step ctx opened e pass = .ok (some inner) pass') :
    ∃ name, inner.entity = some name ∧ (pass.table.parameter? name).isSome = true := by
  obtain ⟨_, mid, hdispatch, hrest⟩ := ok_of_bind h
  split at hrest
  · next name =>
      cases (dispatch_reference name pass).symm.trans hdispatch
      unfold included at hrest
      split at hrest
      · exact absurd hrest not_ok_raise
      · rw [bind_get] at hrest
        cases hfound : pass.table.parameter? name with
        | none =>
            simp only [hfound] at hrest
            cases hrest
        | some d =>
            simp only [hfound] at hrest
            exact ⟨name, (enters_of_includedText hrest).1, by rw [hfound]; rfl⟩
  · cases hrest

theorem orderly_of_nextOfFrames {frames : List Frame} (ht : Orderly pass.table (.run frames))
    (h : nextOfFrames ctx frames pass = .ok s pass') : ∀ t' ∈ s.tasks, Orderly pass'.table t' := by
  rcases frames with _ | ⟨⟨opener, _ | ⟨e, events⟩⟩, outer⟩
  · cases h
    simp [Stride.to]
  · cases h
    intro t' ht'
    rw [List.mem_singleton.mp ht']
    intro name hname
    refine ht name ?_
    rw [opened_cons]
    exact List.mem_append_right _ hname
  · obtain ⟨outcome, mid, hs, hpure⟩ := ok_of_bind h
    have htable := (of_step hs).1
    have hleft : Orderly mid.table (.run (⟨opener, events⟩ :: outer)) := by
      rw [htable]
      exact Orderly.handle ht e
    cases outcome with
    | none =>
        cases hpure
        simpa [Stride.to] using hleft
    | some inner =>
        cases hpure
        obtain ⟨name, hentity, hdeclared⟩ := declared_of_step hs
        intro t' ht'
        rw [List.mem_singleton.mp ht']
        intro name' hname'
        rw [opened_cons, hentity] at hname'
        rcases List.mem_cons.mp hname' with rfl | hname'
        · rw [htable]
          exact isSome_parameter?_handle hdeclared e
        · exact hleft name' hname'

theorem orderly_of_next (ht : Orderly pass.table t) (h : Machine.next ctx t pass = .ok s pass') :
    ∀ t' ∈ s.tasks, Orderly pass'.table t' := by
  cases t with
  | act x steady =>
      obtain ⟨_, mid, _, hpure⟩ := ok_of_bind h
      cases hpure
      simp [Stride.to]
  | token t => exact orderly_token h
  | text content =>
      cases h
      simp [Stride.to, Orderly]
  | expand known opened refs =>
      rcases refs with _ | ⟨_ | text, rest⟩
      · cases h
        simp [Stride.to]
      · exact orderly_reference h
      · cases h
  | subset text base =>
      obtain ⟨events, mid, _, hpure⟩ := ok_of_bind h
      cases hpure
      simp [Stride.to, Orderly, Frame.opened]
  | externalSubset publicId systemId =>
      cases systemId with
      | none =>
          cases h
          simp [Stride.to]
      | some systemId =>
          simp only [Machine.next, nextOfExternal] at h
          split at h
          · obtain ⟨_, mid, _, hpure⟩ := ok_of_bind h
            cases hpure
            simp [Stride.to, Orderly]
          · cases h
            simp [Stride.to]
  | run frames => exact orderly_of_nextOfFrames ht h

/-! ## Runs -/

variable {document : Markup.Document} {ledger : Ledger} {c c' : Config}

theorem orderly_of_runs (h : Runs ctx (.start document ledger) c) :
    ∀ t ∈ c.tasks, Orderly c.pass.table t := by
  induction h with
  | refl =>
      intro t ht
      simp only [Config.start, List.mem_append, List.mem_map, List.mem_singleton] at ht
      rcases ht with ⟨token, _, rfl⟩ | rfl
      · trivial
      · exact noting_endDocument document
  | tail hruns hstep ih =>
      have htable := table_of_step hruns hstep
      cases hstep with
      | next hnext =>
          intro t' ht'
          rcases List.mem_append.mp ht' with ht' | ht'
          · exact orderly_of_next (ih _ List.mem_cons_self) hnext t' ht'
          · have hold := ih t' (List.mem_cons_of_mem _ ht')
            rcases htable with hsame | ⟨e, hhandled⟩
            · rw [hsame]
              exact hold
            · rw [hhandled]
              exact hold.handle e

theorem noted_of_step (h : Runs ctx (.start document ledger) c) (hstep : Step ctx c c') :
    c'.pass.skippedExternal = true ↔ c.pass.skippedExternal = true ∨ c.LeavesOut ctx := by
  have horderly := orderly_of_runs h
  cases hstep with
  | @next t rest pass pass' entered s hnext =>
      have hact : ∀ x hx, t = .act x hx → noting.Holds x := by
        rintro x hx rfl
        exact horderly _ List.mem_cons_self
      simpa [Config.LeavesOut] using noted_of_next hact hnext

/-- The note tells whether content was left out. -/
theorem noted_iff (h : Runs ctx (.start document ledger) c) :
    c.pass.skippedExternal = true ↔ LeftOut ctx (.start document ledger) c := by
  constructor
  · intro hnoted
    induction h with
    | refl => cases hnoted
    | tail hruns hstep ih =>
        rcases (noted_of_step hruns hstep).mp hnoted with hbefore | hleaves
        · obtain ⟨c₁, c₂, h₁, hleaves, h₁₂, h₂⟩ := ih hbefore
          exact ⟨c₁, c₂, h₁, hleaves, h₁₂, h₂.tail hstep⟩
        · exact ⟨_, _, hruns, hleaves, hstep, .refl⟩
  · rintro ⟨c₁, c₂, h₁, hleaves, h₁₂, h₂⟩
    clear h
    induction h₂ with
    | refl => exact (noted_of_step h₁ h₁₂).mpr (.inr hleaves)
    | tail hruns hstep ih =>
        exact (noted_of_step ((h₁.tail h₁₂).trans hruns) hstep).mpr (.inl ih)

/-! ## References -/

/-- A reference of the kind to the name is next; the second configuration has it passed over. -/
inductive Refers : ReferenceKind → String → Config → Config → Prop where
  | general {known : Dtd.EntityTable} {opened : List String} {name : String}
      {refs : List Reference} {rest : List Task} {pass : Pass}
      {entered : List (ReferenceKind × String)} (hname : isBuiltIn name = false) :
      Refers .general name ⟨.expand known opened (.named name :: refs) :: rest, pass, entered⟩
        ⟨.expand known opened refs :: rest, pass, entered⟩
  | parameter {opener : Option String} {name : String} {events : List Dtd.Event}
      {outer : List Frame} {rest : List Task} {pass : Pass}
      {entered : List (ReferenceKind × String)} :
      Refers .parameter name
        ⟨.run (⟨opener, .parameterReference name :: events⟩ :: outer) :: rest, pass, entered⟩
        ⟨.run (⟨opener, events⟩ :: outer) :: rest, pass, entered⟩

/-- The reference that is next. -/
def Config.reference? (c : Config) : Option (ReferenceKind × String) :=
  match c.tasks with
  | .expand _ _ (.named name :: _) :: _ => if isBuiltIn name then none else some (.general, name)
  | .run (⟨_, .parameterReference name :: _⟩ :: _) :: _ => some (.parameter, name)
  | _ => none

theorem exists_refers {kind : ReferenceKind} {name : String}
    (h : c.reference? = some (kind, name)) : ∃ c', Refers kind name c c' := by
  obtain ⟨tasks, pass, entered⟩ := c
  simp only [Config.reference?] at h
  split at h
  · next known opened name' refs rest =>
      split at h
      · cases h
      · next hname =>
          cases h
          exact ⟨_, .general (by simpa using hname)⟩
  · cases h
    exact ⟨_, .parameter⟩
  · cases h

theorem next_of_undeclared {known : Dtd.EntityTable} {name : String}
    (hname : isBuiltIn name = false) (hknown : known.general? name = none)
    (opened : List String) (refs : List Reference) :
    Machine.next ctx (.expand known opened (.named name :: refs)) pass =
      if pass.skippedExternal then .ok (.to [.expand known opened refs]) pass
      else .error (.markup (.undeclaredEntity name)) pass := by
  simp only [Machine.next, nextOfReference, hname, hknown]
  have hundeclared := undeclared_apply name pass
  by_cases hnoted : pass.skippedExternal = true
  · rw [if_pos hnoted] at hundeclared ⊢
    exact (bind_of_ok hundeclared).trans rfl
  · rw [if_neg hnoted] at hundeclared ⊢
    exact (bind_of_error hundeclared).trans rfl

theorem next_of_undeclared_parameter {opener : Option String} {name : String}
    {events : List Dtd.Event} {outer : List Frame} (hname : pass.table.parameter? name = none)
    (hopened : name ∉ Frame.opened (⟨opener, .parameterReference name :: events⟩ :: outer)) :
    Machine.next ctx (.run (⟨opener, .parameterReference name :: events⟩ :: outer)) pass =
      .error (.dtd (.undeclaredParameter name)) pass := by
  have hincluded : included ctx
      (Frame.opened (⟨opener, .parameterReference name :: events⟩ :: outer)) name pass =
        .error (.dtd (.undeclaredParameter name)) pass := by
    rw [included, if_neg hopened, bind_get, hname]
    rfl
  have hstep : step ctx (Frame.opened (⟨opener, .parameterReference name :: events⟩ :: outer))
      (.parameterReference name) pass = .error (.dtd (.undeclaredParameter name)) pass :=
    (bind_of_ok (dispatch_reference name pass)).trans hincluded
  exact bind_of_error hstep

theorem general?_of_subset {known table : Dtd.EntityTable} (h : known.entities ⊆ table.entities)
    {name : String} (hname : table.general? name = none) : known.general? name = none := by
  rw [Dtd.EntityTable.general?, Dtd.EntityTable.find?, List.find?_eq_none] at hname ⊢
  exact fun d hd => hname d (h hd)

theorem known_subset {known : Dtd.EntityTable} {opened : List String} {refs : List Reference}
    {rest : List Task} {entered : List (ReferenceKind × String)}
    (h : Runs ctx (.start document ledger) ⟨.expand known opened refs :: rest, pass, entered⟩) :
    known.entities ⊆ pass.table.entities := by
  obtain ⟨sites, htracked⟩ := exists_tracked h
  have harranged := htracked.arranged
  cases harranged with
  | settled hsettled => exact hsettled _ List.mem_cons_self

/-- A reference to an undeclared entity is passed over if it is a general one and content was left
out before. Otherwise it ends the check. -/
theorem undeclared_of_refers {kind : ReferenceKind} {name : String}
    (h : Runs ctx (.start document ledger) c) (href : Refers kind name c c')
    (hname : kind.find? c.pass.table name = none) :
    (kind = .general ∧ LeftOut ctx (.start document ledger) c → Step ctx c c') ∧
    (¬ (kind = .general ∧ LeftOut ctx (.start document ledger) c) →
      Ends ctx c (.error (kind.undeclared name) c.pass)) := by
  have hnoted := noted_iff h
  cases href with
  | @general known opened _ refs rest pass entered hbuiltIn =>
      have hknown := general?_of_subset (known_subset h) hname
      have hnext : Machine.next ctx (.expand known opened (.named name :: refs)) pass = _ :=
        next_of_undeclared hbuiltIn hknown opened refs
      constructor
      · rintro ⟨_, hleft⟩
        rw [if_pos (hnoted.mpr hleft)] at hnext
        exact .next hnext
      · intro hnot
        rw [if_neg fun hskipped => hnot ⟨rfl, hnoted.mp hskipped⟩] at hnext
        exact .failed hnext
  | @parameter opener _ events outer rest pass entered =>
      have hname : pass.table.parameter? name = none := hname
      refine ⟨nofun, fun _ => .failed (next_of_undeclared_parameter hname fun hopened => ?_)⟩
      have hdeclared := orderly_of_runs h _ List.mem_cons_self name hopened
      rw [hname] at hdeclared
      cases hdeclared

/-- Whoever has come to its end has the outcome of the whole check. -/
theorem result_of_ends {result : EStateM.Result Fault Pass Unit}
    (h : Runs ctx (.start document ledger) c) (hends : Ends ctx c result) :
    checkDocument ctx document (.start ledger) = result := by
  have hhalts : Halts ctx (.start document ledger) result := ⟨c, h, hends⟩
  rw [halts_iff, carryOutAll_start] at hhalts
  exact hhalts.symm

end Machine

/-- In the check of a document, when a reference to an undeclared entity is next, whether in
content, in an attribute, in replacement text or in a DTD: if it is a general one and external
content of the DTD has been left out, the check goes on as if it were not there. Otherwise the
check fails for it, and so it does with every reference to a parameter entity, whatever has been
left out. -/
theorem DocumentReader.undeclared_of_checkText (files : Files) (text : String)
    (r : DocumentReader) :
    let ctx := r.context files
    let start := Machine.Config.start (Markup.read text) r.configuration.startParse.ledger
    ∀ kind name c c', Machine.Runs ctx start c → Machine.Refers kind name c c' →
      kind.find? c.pass.table name = none →
      (kind = .general ∧ Machine.LeftOut ctx start c → Machine.Step ctx c c') ∧
      (¬ (kind = .general ∧ Machine.LeftOut ctx start c) →
        Machine.Ends ctx c (.error (kind.undeclared name) c.pass) ∧
        (checkText files text r).1 = .error (kind.undeclared name)) := by
  intro ctx start kind name c c' hruns href hname
  obtain ⟨hpassed, hfails⟩ := Machine.undeclared_of_refers hruns href hname
  refine ⟨hpassed, fun hnot => ⟨hfails hnot, ?_⟩⟩
  have hresult := Machine.result_of_ends hruns (hfails hnot)
  exact (answer_of_checkText files text r).1.trans (congrArg Machine.answer hresult)

namespace Plain

open Machine

/-- The subset leaves out an external entity, and goes on with a reference to one that is unknown.
-/
def unknownParameter : String := "<!DOCTYPE a [<!ENTITY % e SYSTEM \"e.ent\">%e;%q;]><a/>"

/-- The external subset is left out, and a reference to an unknown entity follows. -/
def unknownEntity : String := "<!DOCTYPE a SYSTEM \"m.dtd\">&x;<a/>"

/-- A reference to an undeclared entity is next after external content was left out. -/
structure Unknown (text : String) (kind : ReferenceKind) (name : String) (c c' : Config) :
    Prop where
  runs : Runs offline (.start (Markup.read text) .empty) c
  refers : Refers kind name c c'
  undeclared : kind.find? c.pass.table name = none
  leftOut : LeftOut offline (.start (Markup.read text) .empty) c

theorem exists_unknown {text : String} {kind : ReferenceKind} {name : String} (n : Nat)
    (h : ((Located.after offline (Markup.read text) .empty n).map fun here =>
      (here.config.reference?, kind.find? here.config.pass.table name,
        here.config.pass.skippedExternal)) = some (some (kind, name), none, true)) :
    ∃ c c', Unknown text kind name c c' := by
  obtain ⟨⟨c, sites⟩, hhere, hc⟩ := Option.map_eq_some_iff.mp h
  obtain ⟨hreference, hrest⟩ := Prod.mk.inj hc
  obtain ⟨hname, hnoted⟩ := Prod.mk.inj hrest
  obtain ⟨c', href⟩ := exists_refers hreference
  have hruns := Located.runs_iff.mpr ⟨n, sites, hhere⟩
  exact ⟨c, c', hruns, href, hname, (noted_iff hruns).mp hnoted⟩

theorem exists_unknownParameter : ∃ c c', Unknown unknownParameter .parameter "%q" c c' :=
  exists_unknown 4 (by decide +kernel)

theorem exists_unknownEntity : ∃ c c', Unknown unknownEntity .general "x" c c' :=
  exists_unknown 5 (by decide +kernel)

end Plain

/-- The same was left out in both documents, but only one of them passes beyond the reference. -/
theorem DocumentReader.undeclared_of_unknown :
    (∃ c c', Plain.Unknown Plain.unknownEntity .general "x" c c' ∧
      Machine.Step Plain.offline c c') ∧
    (∃ c c', Plain.Unknown Plain.unknownParameter .parameter "%q" c c') ∧
    (checkText Plain.noFiles Plain.unknownParameter (.plain (fun _ => false) none)).1 =
      .error (.dtd (.undeclaredParameter "%q")) := by
  obtain ⟨c, c', h⟩ := Plain.exists_unknownEntity
  obtain ⟨d, d', h'⟩ := Plain.exists_unknownParameter
  have hentity := undeclared_of_checkText Plain.noFiles Plain.unknownEntity
    (.plain (fun _ => false) none) _ _ _ _ h.runs h.refers h.undeclared
  have hparameter := undeclared_of_checkText Plain.noFiles Plain.unknownParameter
    (.plain (fun _ => false) none) _ _ _ _ h'.runs h'.refers h'.undeclared
  exact ⟨⟨c, c', h, hentity.1 ⟨rfl, h.leftOut⟩⟩, ⟨d, d', h'⟩, (hparameter.2 nofun).2⟩

/-- So what was left out is no excuse for every reference. -/
theorem DocumentReader.not_forall_tolerated :
    ¬ ∀ (files : Files) (text : String) (r : DocumentReader) (kind : ReferenceKind) (name : String)
      (c c' : Machine.Config),
      let ctx := r.context files
      let start := Machine.Config.start (Markup.read text) r.configuration.startParse.ledger
      Machine.Runs ctx start c → Machine.LeftOut ctx start c → Machine.Refers kind name c c' →
        kind.find? c.pass.table name = none →
          ∀ fault pass, ¬ Machine.Ends ctx c (.error fault pass) := by
  intro hall
  obtain ⟨c, c', h⟩ := Plain.exists_unknownParameter
  have hends := (Machine.undeclared_of_refers h.runs h.refers h.undeclared).2 nofun
  exact hall Plain.noFiles Plain.unknownParameter (.plain (fun _ => false) none) .parameter "%q"
    c c' h.runs h.leftOut h.refers h.undeclared _ _ hends

end XmlBounds
