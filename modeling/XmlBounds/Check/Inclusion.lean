import XmlBounds.Check.Expansions
import XmlBounds.Check.Reference
import XmlBounds.Dtd.Doctype

/-!
# Running a DTD

The events of a subset are dispatched one by one. A reference to a parameter entity suspends them
until the events of the entity's replacement text are through. Every text entered takes one
expansion from those that the limit leaves, so the run ends, even if ever new entities are
declared and referred to.
-/

namespace XmlBounds

/-- What is left of a subset, or of the replacement text of an included entity. -/
structure Frame where
  /-- The included entity; absent for a subset. -/
  entity : Option String
  events : List Dtd.Event
  deriving DecidableEq, Repr

namespace Frame

/-- The entities that are open, the innermost first. -/
def opened (frames : List Frame) : List String := frames.filterMap (·.entity)

/-- How much there is left to do. -/
def size : List Frame → Nat
  | [] => 0
  | frame :: frames => frame.events.length + 1 + size frames

end Frame

namespace Checked

def scanned (text : String) (base : Option String) : Checked (List Dtd.Event) :=
  match Dtd.scan text base with
  | .ok events => return events
  | .error fault => throw (.dtd fault)

/-- The replacement text of a parameter entity, ready to be run. -/
def enteredFrame (name text : String) (base : Option String) : Checked (Option Frame) := do
  return some ⟨some name, ← scanned text base⟩

/-- What is to be run for a parameter entity; nothing if it is left out. -/
def includedText (ctx : CheckContext) (name : String) (decl : Dtd.EntityDecl) :
    Checked (Option Frame) := do
  match decl.kind with
  | .internal text =>
      countExpansion ctx .parameter name decl
      enteredFrame name text ctx.systemId
  | .external publicId systemId base =>
      if ctx.isEnabled .externalParameterEntities then
        let (text, base) ← fetchEntity ctx .parameter name decl publicId systemId base
        enteredFrame name text base
      else
        skipExternal
        return none
  | .unparsed .. => throw (.dtd (.unparsedParameter name))

/-- What is to be run for a reference to a parameter entity, the given entities being open. -/
def included (ctx : CheckContext) (opened : List String) (name : String) :
    Checked (Option Frame) := do
  if name ∈ opened then raiseRecursion ctx opened name
  else
    match (← get).table.parameter? name with
    | none => throw (.dtd (.undeclaredParameter name))
    | some decl => includedText ctx name decl

/-- Dispatches an event, and gives what has to be run before the next one. -/
def step (ctx : CheckContext) (opened : List String) (e : Dtd.Event) :
    Checked (Option Frame) := do
  dispatch ctx e
  match e with
  | .parameterReference name => included ctx opened name
  | _ => return none

theorem holds_scanned {C : Contract Pass} [C.Composes] (text : String) (base : Option String) :
    C.Holds (scanned text base) := by
  unfold scanned
  split
  · exact Contract.holds_pure _
  · exact Contract.holds_throw _

theorem holds_enteredFrame {C : Contract Pass} [C.Composes] (name text : String)
    (base : Option String) : C.Holds (enteredFrame name text base) :=
  (holds_scanned _ _).bind fun _ => Contract.holds_pure _

/-- How the count of expansions moves: it has grown within the limit if there is something to run,
and has stayed if there is not. -/
def Progress (ctx : CheckContext) (outcome : Option Frame) (pass pass' : Pass) : Prop :=
  match outcome with
  | none => pass'.expansions = pass.expansions
  | some _ => pass.expansions < pass'.expansions ∧
      pass'.expansions ≤ (ctx.policy.limit .entityExpansions).toNat

theorem progress_enteredFrame {ctx : CheckContext} {name text : String} {base : Option String}
    {outcome : Option Frame} {pass mid pass' : Pass}
    (hc : mid.expansions = pass.expansions + 1 ∧
      mid.expansions ≤ (ctx.policy.limit .entityExpansions).toNat)
    (h : enteredFrame name text base mid = .ok outcome pass') :
    Progress ctx outcome pass pass' := by
  have hs : pass'.expansions = mid.expansions := (holds_enteredFrame (C := steady) _ _ _).of_ok h
  obtain ⟨events, _, _, hpure⟩ := ok_of_bind h
  cases hpure
  exact ⟨by omega, by omega⟩

theorem progress_includedText {ctx : CheckContext} {name : String} {decl : Dtd.EntityDecl}
    {outcome : Option Frame} {pass pass' : Pass}
    (h : includedText ctx name decl pass = .ok outcome pass') :
    Progress ctx outcome pass pass' := by
  obtain ⟨entity, kind⟩ := decl
  cases kind with
  | internal text =>
      obtain ⟨_, mid, hm, hframe⟩ := ok_of_bind h
      exact progress_enteredFrame (expansions_of_countExpansion hm) hframe
  | external publicId systemId base =>
      simp only [includedText] at h
      split at h
      · obtain ⟨_, mid, hm, hframe⟩ := ok_of_bind h
        exact progress_enteredFrame (expansions_of_fetchEntity hm) hframe
      · cases h
        rfl
  | unparsed systemId notationName => cases h

theorem progress_included {ctx : CheckContext} {opened : List String} {name : String}
    {outcome : Option Frame} {pass pass' : Pass}
    (h : included ctx opened name pass = .ok outcome pass') :
    Progress ctx outcome pass pass' := by
  unfold included at h
  split at h
  · exact absurd h not_ok_raise
  · rw [bind_get] at h
    cases hp : pass.table.parameter? name with
    | none =>
        simp only [hp] at h
        cases h
    | some decl =>
        simp only [hp] at h
        exact progress_includedText h

theorem progress_step {ctx : CheckContext} {opened : List String} {e : Dtd.Event}
    {outcome : Option Frame} {pass pass' : Pass}
    (h : step ctx opened e pass = .ok outcome pass') : Progress ctx outcome pass pass' := by
  obtain ⟨_, mid, hd, hnext⟩ := ok_of_bind h
  have hm : mid.expansions = pass.expansions := (steady_dispatch ctx e).of_ok hd
  split at hnext
  · have hp := progress_included hnext
    cases outcome with
    | none => exact hp.trans hm
    | some frame => exact ⟨by have := hp.1; omega, hp.2⟩
  · cases hnext
    exact hm

/-- Runs what is left of the frames, the innermost first. -/
def runFrames (ctx : CheckContext) (frames : List Frame) (pass : Pass) :
    EStateM.Result Fault Pass Unit :=
  match frames with
  | [] => .ok () pass
  | ⟨_, []⟩ :: outer => runFrames ctx outer pass
  | ⟨entity, e :: events⟩ :: outer =>
      match _h : step ctx (Frame.opened frames) e pass with
      | .error fault pass' => .error fault pass'
      | .ok none pass' => runFrames ctx (⟨entity, events⟩ :: outer) pass'
      | .ok (some inner) pass' => runFrames ctx (inner :: ⟨entity, events⟩ :: outer) pass'
termination_by ((ctx.policy.limit .entityExpansions).toNat - pass.expansions, Frame.size frames)
decreasing_by
  · exact Prod.Lex.right _ (by simp [Frame.size])
  · have hp : _ = _ := progress_step _h
    rw [hp]
    exact Prod.Lex.right _ (by simp [Frame.size])
  · have hp := progress_step _h
    exact Prod.Lex.left _ _ (by have := hp.1; have := hp.2; omega)

def runDtd (ctx : CheckContext) (events : List Dtd.Event) : Checked Unit :=
  runFrames ctx [⟨none, events⟩]

/-- Scans and runs the text of a subset. -/
def runSubset (ctx : CheckContext) (text : String) (base : Option String) : Checked Unit := do
  runDtd ctx (← scanned text base)

/-- Runs the internal subset, if there is one. -/
def runInternalSubset (ctx : CheckContext) : Option String → Checked Unit
  | none => return
  | some text => runSubset ctx text ctx.systemId

/-- Runs the external subset, if there is one and it is to be loaded. -/
def runExternalSubset (ctx : CheckContext) (publicId : Option String) :
    Option String → Checked Unit
  | none => return
  | some systemId => do
      if ctx.isEnabled .loadExternalDtd then
        let (text, base) ← accounted (fetch ctx .dtd ⟨publicId, some systemId, ctx.systemId, none⟩)
        runSubset ctx text base
      else skipExternal

/-- Checks a DOCTYPE declaration and what it declares. -/
def checkDoctype (ctx : CheckContext) (content : String) : Checked Unit := do
  if ctx.isEnabled .disallowDoctype then raise ctx (.fatal .doctypeNotAllowed [])
  else
    match Dtd.Doctype.split content with
    | .error fault => throw (.dtd fault)
    | .ok decl =>
        modify fun pass => { pass with doctype := some decl.root }
        dispatch ctx decl.startEvent
        runInternalSubset ctx decl.subset
        runExternalSubset ctx decl.publicId decl.systemId
        dispatch ctx .endDtd

end Checked

end XmlBounds
