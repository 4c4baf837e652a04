import Mathlib.Data.Prod.Lex
import Mathlib.Order.WellFounded
import XmlBounds.Proofs.Check.Accounts
import XmlBounds.Proofs.Check.Machine

/-!
# The check comes to an end

Texts come from outside and may declare and refer to ever new entities, and the entity table grows
while parameter entities are included. Still every run of the machine ends: a step that enters a
text takes one of the expansions that the limit leaves, and every other step either gets on with the
document itself or leaves less of the texts that are open.
-/

namespace XmlBounds

namespace Machine

open Checked

variable {ctx : CheckContext}

/-! ## Entering a text -/

/-- On the way from one state to another an expansion was counted for the reference and accepted,
and no other was counted. -/
structure Enters (ctx : CheckContext) (kind : ReferenceKind) (name : String)
    (pass pass' : Pass) : Prop where
  counted : ∃ entity before after, before.expansions = pass.expansions ∧
    countExpansion ctx kind name entity before = .ok () after ∧
    pass'.expansions = after.expansions

theorem Enters.expansions {kind : ReferenceKind} {name : String} {pass pass' : Pass}
    (h : Enters ctx kind name pass pass') : pass'.expansions = pass.expansions + 1 ∧
      pass'.expansions ≤ (ctx.policy.limit .entityExpansions).toNat := by
  obtain ⟨entity, before, after, hbefore, hcount, hafter⟩ := h.counted
  have hexpansions := expansions_of_countExpansion hcount
  rw [hafter, ← hbefore]
  exact hexpansions

theorem Enters.after_steady {kind : ReferenceKind} {name : String} {pass mid pass' : Pass}
    (hmid : mid.expansions = pass.expansions) (h : Enters ctx kind name mid pass') :
    Enters ctx kind name pass pass' := by
  obtain ⟨entity, before, after, hbefore, hcount, hafter⟩ := h.counted
  exact ⟨entity, before, after, hbefore.trans hmid, hcount, hafter⟩

theorem Enters.before_steady {kind : ReferenceKind} {name : String} {pass mid pass' : Pass}
    (h : Enters ctx kind name pass mid) (hmid : pass'.expansions = mid.expansions) :
    Enters ctx kind name pass pass' := by
  obtain ⟨entity, before, after, hbefore, hcount, hafter⟩ := h.counted
  exact ⟨entity, before, after, hbefore, hcount, hmid.trans hafter⟩

theorem enters_of_countExpansion {kind : ReferenceKind} {name : String}
    {entity : Dtd.EntityDecl} {pass pass' : Pass}
    (h : countExpansion ctx kind name entity pass = .ok () pass') :
    Enters ctx kind name pass pass' := ⟨entity, pass, pass', rfl, h, rfl⟩

theorem enters_of_fetchEntity {kind : ReferenceKind} {name : String} {entity : Dtd.EntityDecl}
    {publicId base : Option String} {systemId : String} {result : String × Option String}
    {pass pass' : Pass}
    (h : fetchEntity ctx kind name entity publicId systemId base pass = .ok result pass') :
    Enters ctx kind name pass pass' := by
  obtain ⟨_, mid, hcount, hfetch⟩ := ok_of_bind h
  have hsteady : pass'.expansions = mid.expansions := (steady_accounted _).of_ok hfetch
  exact (enters_of_countExpansion hcount).before_steady hsteady

theorem enters_of_replacement {name text : String} {decl : Dtd.EntityDecl} {pass pass' : Pass}
    (h : replacement ctx name decl pass = .ok text pass') :
    Enters ctx .general name pass pass' := by
  obtain ⟨entity, kind⟩ := decl
  cases kind with
  | internal text =>
      obtain ⟨_, mid, hcount, hpure⟩ := ok_of_bind h
      cases hpure
      exact enters_of_countExpansion hcount
  | external publicId systemId base =>
      obtain ⟨_, mid, hfetch, hpure⟩ := ok_of_bind h
      cases hpure
      exact enters_of_fetchEntity hfetch
  | unparsed systemId notationName => cases h

theorem frame_of_enteredFrame {name text : String} {base : Option String} {frame : Frame}
    {pass pass' : Pass} (h : enteredFrame name text base pass = .ok (some frame) pass') :
    frame.entity = some name ∧ pass'.expansions = pass.expansions := by
  have hsteady : pass'.expansions = pass.expansions :=
    (holds_enteredFrame (C := steady) name text base).of_ok h
  obtain ⟨events, _, _, hpure⟩ := ok_of_bind h
  cases hpure
  exact ⟨rfl, hsteady⟩

theorem enters_of_includedText {name : String} {decl : Dtd.EntityDecl} {frame : Frame}
    {pass pass' : Pass} (h : includedText ctx name decl pass = .ok (some frame) pass') :
    frame.entity = some name ∧ Enters ctx .parameter name pass pass' := by
  obtain ⟨entity, kind⟩ := decl
  cases kind with
  | internal text =>
      obtain ⟨_, mid, hcount, hframe⟩ := ok_of_bind h
      obtain ⟨hname, hsteady⟩ := frame_of_enteredFrame hframe
      exact ⟨hname, (enters_of_countExpansion hcount).before_steady hsteady⟩
  | external publicId systemId base =>
      simp only [includedText] at h
      split at h
      · obtain ⟨_, mid, hfetch, hframe⟩ := ok_of_bind h
        obtain ⟨hname, hsteady⟩ := frame_of_enteredFrame hframe
        exact ⟨hname, (enters_of_fetchEntity hfetch).before_steady hsteady⟩
      · cases h
  | unparsed systemId notationName => cases h

theorem enters_of_step {opened : List String} {e : Dtd.Event} {frame : Frame} {pass pass' : Pass}
    (h : step ctx opened e pass = .ok (some frame) pass') :
    ∃ name, frame.entity = some name ∧ Enters ctx .parameter name pass pass' := by
  obtain ⟨_, mid, hdispatch, hnext⟩ := ok_of_bind h
  have hmid : mid.expansions = pass.expansions := (steady_dispatch ctx e).of_ok hdispatch
  split at hnext
  · next name =>
      unfold included at hnext
      split at hnext
      · exact absurd hnext not_ok_raise
      · rw [bind_get] at hnext
        cases hfound : mid.table.parameter? name with
        | none =>
            simp only [hfound] at hnext
            cases hnext
        | some decl =>
            simp only [hfound] at hnext
            obtain ⟨hname, henters⟩ := enters_of_includedText hnext
            exact ⟨name, hname, henters.after_steady hmid⟩
  · cases hnext

/-! ## What is left to do -/

/-- How much of the document itself and of its external subset a task has ahead. -/
def ahead : Task → Nat
  | .token _ => 4
  | .externalSubset _ _ => 2
  | .subset _ _ => 1
  | .act _ _ | .text _ | .expand _ _ _ | .run _ => 0

/-- How much of the texts that are open a task has left. -/
def size : Task → Nat
  | .act _ _ => 1
  | .text content => (references content).length + 2
  | .expand _ _ refs => refs.length + 1
  | .run frames => Frame.size frames + 1
  | .token _ | .externalSubset _ _ | .subset _ _ => 0

/-- What several tasks come to. -/
def weigh (f : Task → Nat) : List Task → Nat
  | [] => 0
  | t :: rest => f t + weigh f rest

@[simp] theorem weigh_nil (f : Task → Nat) : weigh f [] = 0 := rfl

@[simp] theorem weigh_cons (f : Task → Nat) (t : Task) (rest : List Task) :
    weigh f (t :: rest) = f t + weigh f rest := rfl

@[simp] theorem weigh_append (f : Task → Nat) (tasks rest : List Task) :
    weigh f (tasks ++ rest) = weigh f tasks + weigh f rest := by
  induction tasks with
  | nil => simp
  | cons t tasks ih =>
      rw [List.cons_append, weigh_cons, weigh_cons, ih]
      omega

/-- The tasks lead on from the task: less of the document is ahead, or as much, and less is left of
the texts. -/
def LeadsOn (t : Task) (tasks : List Task) : Prop :=
  weigh ahead tasks < ahead t ∨
    weigh ahead tasks = ahead t ∧ weigh size tasks < size t

/-- The entities whose texts are open at a task, the innermost first. -/
def opened : Task → List String
  | .expand _ opened _ => opened
  | .run frames => Frame.opened frames
  | .act _ _ | .token _ | .text _ | .subset _ _ | .externalSubset _ _ => []

/-- What a step comes to: it has entered the text of the entity that it says it has, or it has
expanded nothing, leads on and opens nothing. -/
def Advances (ctx : CheckContext) (t : Task) (pass : Pass) (s : Stride) (pass' : Pass) : Prop :=
  match s.entered with
  | some (kind, name) => Enters ctx kind name pass pass' ∧
      ∀ t' ∈ s.tasks, opened t' = opened t ∨ opened t' = name :: opened t
  | none => pass'.expansions = pass.expansions ∧ LeadsOn t s.tasks ∧
      ∀ t' ∈ s.tasks, opened t' <:+ opened t

variable {pass pass' : Pass} {s : Stride} {t : Task} {tasks : List Task}

theorem advances_ahead (hsteady : pass'.expansions = pass.expansions)
    (hahead : weigh ahead tasks < ahead t) (hopened : ∀ t' ∈ tasks, opened t' = []) :
    Advances ctx t pass (.to tasks) pass' := by
  refine ⟨hsteady, .inl hahead, ?_⟩
  intro t' ht'
  rw [hopened t' ht']
  exact List.nil_suffix

theorem advances_within {t' : Task} (hsteady : pass'.expansions = pass.expansions)
    (hahead : ahead t' = ahead t) (hsize : size t' < size t) (hopened : opened t' <:+ opened t) :
    Advances ctx t pass (.to [t']) pass' :=
  ⟨hsteady, .inr ⟨by simpa [Stride.to] using hahead, by simpa [Stride.to] using hsize⟩,
    by simpa [Stride.to] using hopened⟩

theorem advances_done (hsteady : pass'.expansions = pass.expansions) (hsize : 0 < size t)
    (hahead : ahead t = 0) : Advances ctx t pass (.to []) pass' :=
  ⟨hsteady, .inr ⟨hahead.symm, hsize⟩, by simp [Stride.to]⟩

theorem ahead_elementTasks (tag : Markup.Tag) (depth : Nat) :
    weigh ahead (elementTasks ctx tag depth) = 0 := by
  have htexts (attributes : List Markup.Attribute) :
      weigh ahead (attributes.map fun a => .text a.value) = 0 := by
    induction attributes with
    | nil => rfl
    | cons a rest ih => rw [List.map_cons, weigh_cons, ih, ahead]
  rw [elementTasks, List.cons_append, weigh_cons, weigh_append, htexts]
  rfl

theorem opened_elementTasks {tag : Markup.Tag} {depth : Nat} :
    ∀ t' ∈ elementTasks ctx tag depth, opened t' = [] := by
  intro t' ht'
  simp only [elementTasks, List.cons_append, List.mem_cons, List.mem_append, List.mem_map,
    List.not_mem_nil, or_false] at ht'
  rcases ht' with rfl | ⟨a, _, rfl⟩ | rfl <;> rfl

theorem advances_token {t : Markup.Token} (h : nextOfToken ctx t pass = .ok s pass') :
    Advances ctx (.token t) pass s pass' := by
  cases t with
  | text content =>
      cases h
      exact advances_ahead rfl (by simp [ahead]) (by simp [opened])
  | doctype content =>
      simp only [nextOfToken] at h
      split at h
      · exact absurd h not_ok_raise
      · cases hsplit : Dtd.Doctype.split content with
        | error fault =>
            rw [hsplit] at h
            cases h
        | ok decl =>
            rw [hsplit] at h
            obtain ⟨_, named, hname, hrest⟩ := ok_of_bind h
            obtain ⟨_, mid, hdispatch, hpure⟩ := ok_of_bind hrest
            cases hname
            cases hpure
            have hsteady := (steady_dispatch ctx decl.startEvent).of_ok hdispatch
            refine advances_ahead hsteady ?_ ?_
            · cases hsubset : decl.subset <;> simp [doctypeTasks, ahead, hsubset]
            · cases hsubset : decl.subset <;> simp [doctypeTasks, opened, hsubset]
  | startTag tag =>
      cases h
      refine advances_ahead rfl ?_ opened_elementTasks
      rw [ahead_elementTasks]
      exact Nat.zero_lt_succ 3
  | emptyTag tag =>
      cases h
      refine advances_ahead rfl ?_ ?_
      · rw [weigh_append, ahead_elementTasks]
        exact Nat.zero_lt_succ 3
      · intro t' ht'
        rcases List.mem_append.mp ht' with ht' | ht'
        · exact opened_elementTasks t' ht'
        · cases List.mem_singleton.mp ht'
          rfl
  | endTag =>
      cases h
      exact advances_ahead rfl (by simp [ahead]) (by simp)
  | ignored =>
      cases h
      exact advances_ahead rfl (by simp [ahead]) (by simp)

theorem advances_reference {table : Dtd.EntityTable} {opened : List String}
    {rest : List Reference} {name : String}
    (h : nextOfReference ctx table opened rest name pass = .ok s pass') :
    Advances ctx (.expand table opened (.named name :: rest)) pass s pass' := by
  have hpassed {mid : Pass} (hsteady : mid.expansions = pass.expansions) :
      Advances ctx (.expand table opened (.named name :: rest)) pass
        (.to [.expand table opened rest]) mid :=
    advances_within hsteady rfl (by simp [size]) List.suffix_rfl
  simp only [nextOfReference] at h
  split at h
  · cases h
    exact hpassed rfl
  · cases hfound : table.general? name with
    | none =>
        rw [hfound] at h
        obtain ⟨_, mid, hundeclared, hpure⟩ := ok_of_bind h
        cases hpure
        exact hpassed ((steady_undeclared name).of_ok hundeclared)
    | some decl =>
        simp only [hfound] at h
        split at h
        · cases h
          exact hpassed rfl
        · split at h
          · exact absurd h not_ok_raise
          · obtain ⟨text, mid, htext, hpure⟩ := ok_of_bind h
            cases hpure
            refine ⟨enters_of_replacement htext, ?_⟩
            intro t' ht'
            simp only [List.mem_cons, List.not_mem_nil, or_false] at ht'
            rcases ht' with rfl | rfl
            · exact .inr rfl
            · exact .inl rfl

theorem advances_external {publicId systemId : Option String}
    (h : nextOfExternal ctx publicId systemId pass = .ok s pass') :
    Advances ctx (.externalSubset publicId systemId) pass s pass' := by
  cases systemId with
  | none =>
      cases h
      exact advances_ahead rfl (by simp [ahead]) (by simp)
  | some systemId =>
      simp only [nextOfExternal] at h
      split at h
      · obtain ⟨_, mid, hfetch, hpure⟩ := ok_of_bind h
        cases hpure
        have hsteady := (steady_accounted _).of_ok hfetch
        exact advances_ahead hsteady (by simp [ahead]) (by simp [opened])
      · cases h
        exact advances_ahead rfl (by simp [ahead]) (by simp)

theorem advances_frames {frames : List Frame}
    (h : nextOfFrames ctx frames pass = .ok s pass') :
    Advances ctx (.run frames) pass s pass' := by
  match frames with
  | [] =>
      cases h
      exact advances_done rfl (Nat.succ_pos _) rfl
  | ⟨entity, []⟩ :: outer =>
      cases h
      refine advances_within rfl rfl (by simp [size, Frame.size]) ?_
      exact (List.suffix_cons _ _).filterMap _
  | ⟨entity, e :: events⟩ :: outer =>
      -- the event is dispatched, and if it refers to an entity, that is put before the other events
      obtain ⟨outcome, mid, hstep, hpure⟩ := ok_of_bind h
      cases outcome with
      | none =>
          cases hpure
          have hsteady : pass'.expansions = pass.expansions := progress_step hstep
          exact advances_within hsteady rfl (by simp [size, Frame.size]) List.suffix_rfl
      | some inner =>
          cases hpure
          obtain ⟨name, hname, henters⟩ := enters_of_step hstep
          unfold Advances
          rw [hname]
          refine ⟨henters, ?_⟩
          intro t' ht'
          cases List.mem_singleton.mp ht'
          refine .inr ?_
          simp only [opened, Frame.opened, List.filterMap_cons, hname]

theorem advances_next (h : next ctx t pass = .ok s pass') : Advances ctx t pass s pass' := by
  cases t with
  | act x steady =>
      obtain ⟨_, mid, hx, hpure⟩ := ok_of_bind h
      cases hpure
      exact advances_done (steady.of_ok hx) (Nat.succ_pos _) rfl
  | token t => exact advances_token h
  | text content =>
      cases h
      exact advances_within rfl rfl (by simp [size]) List.suffix_rfl
  | expand table opened refs =>
      cases refs with
      | nil =>
          cases h
          exact advances_done rfl (Nat.succ_pos _) rfl
      | cons r rest =>
          cases r with
          | unterminated text => cases h
          | named name => exact advances_reference h
  | subset text base =>
      obtain ⟨events, mid, hscanned, hpure⟩ := ok_of_bind h
      cases hpure
      have hsteady := (holds_scanned (C := steady) text base).of_ok hscanned
      exact advances_ahead hsteady (by simp [ahead]) (by simp [opened, Frame.opened])
  | externalSubset publicId systemId => exact advances_external h
  | run frames => exact advances_frames h

/-! ## Runs -/

/-- What a configuration has left: expansions, then the document itself, then the open texts. -/
def potential (ctx : CheckContext) (c : Config) : Nat ×ₗ Nat ×ₗ Nat :=
  toLex ((ctx.policy.limit .entityExpansions).toNat - c.pass.expansions,
    toLex (weigh ahead c.tasks, weigh size c.tasks))

variable {c c' : Config}

theorem Step.decreases (h : Step ctx c c') : potential ctx c' < potential ctx c := by
  obtain @⟨t, rest, pass, pass', entered, s, h⟩ := h
  have hadvances := advances_next h
  unfold Advances at hadvances
  change Prod.Lex _ _ _ _
  split at hadvances
  · -- an entry takes an expansion from those that are left, whatever its text leads to
    obtain ⟨hcount, hlimit⟩ := hadvances.1.expansions
    apply Prod.Lex.left
    simp only
    omega
  · obtain ⟨hsteady, hleads, _⟩ := hadvances
    simp only [potential, hsteady, weigh_append, weigh_cons]
    apply Prod.Lex.right
    change Prod.Lex _ _ _ _
    rcases hleads with hahead | ⟨hahead, hsize⟩
    · apply Prod.Lex.left
      omega
    · rw [hahead]
      apply Prod.Lex.right
      omega

theorem wellFounded_step (ctx : CheckContext) : WellFounded fun c' c => Step ctx c c' :=
  (InvImage.wf (potential ctx) wellFounded_lt).mono fun _ _ h => h.decreases

theorem Step.carryOutAll_eq (h : Step ctx c c') :
    carryOutAll ctx c.tasks c.pass = carryOutAll ctx c'.tasks c'.pass := by
  obtain @⟨t, rest, pass, pass', entered, s, h⟩ := h
  rw [carryOutAll, carryOut_eq, bind_assoc, bind_of_ok h, carryOutAll_append]

theorem Ends.result_eq {result : EStateM.Result Fault Pass Unit} (h : Ends ctx c result) :
    result = carryOutAll ctx c.tasks c.pass := by
  cases h with
  | done => rfl
  | failed h =>
      rw [carryOutAll, carryOut_eq, bind_assoc]
      simp only [Bind.bind, EStateM.bind, h]

theorem halts_iff {result : EStateM.Result Fault Pass Unit} :
    Halts ctx c result ↔ result = carryOutAll ctx c.tasks c.pass := by
  constructor
  · rintro ⟨last, hruns, hends⟩
    induction hruns using Relation.ReflTransGen.head_induction_on with
    | refl => exact hends.result_eq
    | head hstep _ ih =>
        rw [hstep.carryOutAll_eq]
        exact ih
  · rintro rfl
    induction c using (wellFounded_step ctx).induction with
    | _ c ih =>
        obtain ⟨tasks, pass, entered⟩ := c
        cases tasks with
        | nil => exact ⟨_, .refl, .done⟩
        | cons t rest =>
            cases hnext : next ctx t pass with
            | error fault pass' =>
                have hends : Ends ctx ⟨t :: rest, pass, entered⟩ _ := .failed hnext
                rw [← hends.result_eq]
                exact ⟨_, .refl, hends⟩
            | ok s pass' =>
                have hstep : Step ctx ⟨t :: rest, pass, entered⟩ _ := .next hnext
                obtain ⟨last, hruns, hends⟩ := ih _ hstep
                rw [hstep.carryOutAll_eq]
                exact ⟨last, .head hstep hruns, hends⟩

/-- The texts entered are as many as the expansions that were counted, all within the limit. -/
structure Accounts (ctx : CheckContext) (c : Config) : Prop where
  length : c.entered.length = c.pass.expansions
  limit : c.pass.expansions ≤ (ctx.policy.limit .entityExpansions).toNat

theorem Accounts.step (hc : Accounts ctx c) (h : Step ctx c c') : Accounts ctx c' := by
  obtain @⟨t, rest, pass, pass', entered, s, h⟩ := h
  obtain ⟨hlength, hlimit⟩ := hc
  have hadvances := advances_next h
  unfold Advances at hadvances
  split at hadvances
  · next kind name hentered =>
      obtain ⟨hexpansions, hle⟩ := hadvances.1.expansions
      refine ⟨?_, hle⟩
      rw [hentered]
      simp only [Option.toList_some, List.cons_append, List.nil_append, List.length_cons]
      rw [hlength, hexpansions]
  · next hentered =>
      constructor
      · rw [hentered, hadvances.1]
        exact hlength
      · rw [hadvances.1]
        exact hlimit

theorem Accounts.run (hc : Accounts ctx c) (h : Runs ctx c c') : Accounts ctx c' := by
  induction h with
  | refl => exact hc
  | tail _ hstep ih => exact ih.step hstep

theorem accounts_start (document : Markup.Document) (ledger : Ledger) :
    Accounts ctx (.start document ledger) := ⟨rfl, Nat.zero_le _⟩

/-- What a step puts on the stack has the entities open that its task has, or fewer, or one more
that the step enters: of which an expansion was counted before and found to be within the limit. -/
theorem opened_of_next (h : next ctx t pass = .ok s pass') :
    ∀ t' ∈ s.tasks, opened t' <:+ opened t ∨
      ∃ kind name, s.entered = some (kind, name) ∧ opened t' = name :: opened t ∧
        Enters ctx kind name pass pass' := by
  intro t' ht'
  have hadvances := advances_next h
  unfold Advances at hadvances
  split at hadvances
  · next kind name hentered =>
      rcases hadvances.2 t' ht' with hsame | hmore
      · rw [hsame]
        exact .inl List.suffix_rfl
      · exact .inr ⟨kind, name, hentered, hmore, hadvances.1⟩
  · exact .inl (hadvances.2.2 t' ht')

/-- The machine ends, whatever texts the entities have. -/
structure Terminates (ctx : CheckContext) (start : Config)
    (result : EStateM.Result Fault Pass Unit) : Prop where
  /-- No run goes on for ever. -/
  finite : Acc (fun c' c => Step ctx c c') start
  /-- There is an end, and it is the only one. -/
  halts {other : EStateM.Result Fault Pass Unit} : Halts ctx start other ↔ other = result
  /-- A step opens no entity without entering its text, for which it has counted an expansion
  that was within the limit. -/
  enters {t t' : Task} {rest : List Task} {pass pass' : Pass}
    {entered : List (ReferenceKind × String)} {s : Stride} :
    Runs ctx start ⟨t :: rest, pass, entered⟩ → next ctx t pass = .ok s pass' → t' ∈ s.tasks →
      opened t' <:+ opened t ∨ ∃ kind name, s.entered = some (kind, name) ∧
        opened t' = name :: opened t ∧ Enters ctx kind name pass pass' ∧
        pass'.expansions = pass.expansions + 1 ∧
        pass'.expansions ≤ (ctx.policy.limit .entityExpansions).toNat
  entered {c : Config} : Runs ctx start c →
    c.entered.length ≤ (ctx.policy.limit .entityExpansions).toNat

theorem terminates_start (document : Markup.Document) (ledger : Ledger) :
    Terminates ctx (.start document ledger)
      (checkDocument ctx document (.start ledger)) where
  finite := (wellFounded_step ctx).apply _
  halts := by
    intro other
    rw [halts_iff, carryOutAll_start]
    rfl
  enters _ h ht' := by
    rcases opened_of_next h _ ht' with hopened | ⟨kind, name, hentered, hopened, henters⟩
    · exact .inl hopened
    · exact .inr ⟨kind, name, hentered, hopened, henters, henters.expansions⟩
  entered h := by
    have haccounts := (accounts_start document ledger).run h
    rw [haccounts.length]
    exact haccounts.limit

def answer : EStateM.Result Fault Pass Unit → Except Fault CheckReport
  | .ok () pass => .ok pass.report
  | .error fault _ => .error fault

def passOf : EStateM.Result Fault Pass Unit → Pass
  | .ok _ pass => pass
  | .error _ pass => pass

/-- What the machine comes to, if it needs no more steps than given. -/
def resultWithin (ctx : CheckContext) : Nat → Config → Option (EStateM.Result Fault Pass Unit)
  | _, ⟨[], pass, _⟩ => some (.ok () pass)
  | 0, _ => none
  | n + 1, ⟨t :: rest, pass, entered⟩ =>
      match next ctx t pass with
      | .ok s pass' => resultWithin ctx n ⟨s.tasks ++ rest, pass', s.entered.toList ++ entered⟩
      | .error fault pass' => some (.error fault pass')

theorem halts_of_resultWithin {n : Nat} {result : EStateM.Result Fault Pass Unit}
    (h : resultWithin ctx n c = some result) : Halts ctx c result := by
  induction n, c using resultWithin.induct ctx with
  | case1 n pass entered =>
      rw [resultWithin] at h
      cases h
      exact ⟨_, .refl, .done⟩
  | case2 c hc =>
      rw [resultWithin] at h
      · cases h
      · exact hc
  | case3 n t rest pass entered s pass' hnext ih =>
      rw [resultWithin, hnext] at h
      obtain ⟨last, hruns, hends⟩ := ih h
      exact ⟨last, .head (.next hnext) hruns, hends⟩
  | case4 n t rest pass entered fault pass' hnext =>
      rw [resultWithin, hnext] at h
      cases h
      exact ⟨_, .refl, .failed hnext⟩

end Machine

theorem DocumentReader.answer_of_checkText (files : Files) (text : String) (r : DocumentReader) :
    let result := Checked.checkDocument (r.context files) (Markup.read text)
      (.start r.configuration.startParse.ledger)
    (checkText files text r).1 = Machine.answer result ∧
      (checkText files text r).2.configuration.ledger = (Machine.passOf result).ledger := by
  rw [checkText_eq]
  cases Checked.checkDocument (r.context files) (Markup.read text)
    (.start r.configuration.startParse.ledger) <;> exact ⟨rfl, rfl⟩

/-- Every check of a text ends after finitely many steps, for every configuration and every
resolver, and enters no more replacement texts than the limit of expansions allows. -/
theorem DocumentReader.terminates_checkText (files : Files) (text : String) (r : DocumentReader) :
    ∃ result, Machine.Terminates (r.context files)
        (.start (Markup.read text) r.configuration.startParse.ledger) result ∧
      (checkText files text r).1 = Machine.answer result := by
  exact ⟨_, Machine.terminates_start _ _, (answer_of_checkText files text r).1⟩

theorem DocumentReader.checkText_of_resultWithin {files : Files} {text : String}
    {r : DocumentReader} {n : Nat} {result : EStateM.Result Fault Pass Unit}
    (h : Machine.resultWithin (r.context files) n
      (.start (Markup.read text) r.configuration.startParse.ledger) = some result) :
    (checkText files text r).1 = Machine.answer result ∧
      (checkText files text r).2.configuration.ledger = (Machine.passOf result).ledger := by
  have hresult := Machine.halts_iff.mp (Machine.halts_of_resultWithin h)
  rw [Machine.carryOutAll_start] at hresult
  rw [hresult]
  exact answer_of_checkText files text r

end XmlBounds
