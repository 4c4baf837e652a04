import Mathlib.Logic.Relation
import XmlBounds.Proofs.Check.Contract

/-!
# The check, step by step

A machine that keeps what there is left to do on a stack. A step takes the task on top, does one
operation of the check, and puts what it leads to in the task's place; if it enters the replacement
text of an entity, it says so. What the machine does for its tasks, taken together, is the check.
-/

namespace XmlBounds

namespace Checked

variable {ctx : CheckContext}

/-- What is done for a tag once the values of its attributes are through. -/
def admitTag (ctx : CheckContext) (tag : Markup.Tag) : Checked Unit := do
  let list := tag.attributes
  refuse tag.name list.fault
  raiseIf ctx (ctx.policy.checkAttributes tag.name list.attributes.length)
  modify fun pass => { pass with scopes := Markup.declarations list.attributes :: pass.scopes }
  checkOccurs ctx tag.name list.attributes

def endDocument (document : Markup.Document) : Checked Unit :=
  match document.fault with
  | none => return
  | some fault => throw (.markup fault)

theorem steady_countElement (name : String) (depth : Nat) :
    steady.Holds (countElement ctx name depth) :=
  Contract.Holds.bind (Contract.holds_modify fun _ => rfl) fun _ => steady_accounted _

theorem steady_admitTag (tag : Markup.Tag) : steady.Holds (admitTag ctx tag) := by
  refine (Contract.holds_refuse _ _).bind fun _ => (steady_accounted _).bind fun _ =>
    Contract.Holds.bind (Contract.holds_modify fun _ => rfl) fun _ => ?_
  unfold checkOccurs
  split
  · exact Contract.holds_pure _
  · refine Contract.holds_get.bind fun pass => ?_
    split
    · exact steady_accounted _
    · exact Contract.holds_pure _

theorem steady_closeScope : steady.Holds closeScope := Contract.holds_modify fun _ => rfl

theorem steady_endDocument (document : Markup.Document) :
    steady.Holds (endDocument document) := by
  unfold endDocument
  split
  · exact Contract.holds_pure _
  · exact Contract.holds_throw _

theorem steady_undeclared (name : String) : steady.Holds (undeclared name) :=
  Contract.holds_undeclared name

theorem raise_bind {α β : Type} (d : Diagnostic) (f : α → Checked β) :
    (raise ctx d >>= f) = raise ctx d := by
  funext pass
  simp only [raise, accounted, Accounted.within, Accounted.raise_apply, Bind.bind, EStateM.bind]

end Checked

/-- Something that a check has still to do. -/
inductive Task where
  /-- An operation that expands nothing. -/
  | act (x : Checked Unit) (steady : Checked.steady.Holds x)
  | token (t : Markup.Token)
  | text (content : String)
  /-- The expansion of references, the given entities being open. -/
  | expand (table : Dtd.EntityTable) (opened : List String) (refs : List Reference)
  | subset (text : String) (base : Option String)
  | externalSubset (publicId systemId : Option String)
  | run (frames : List Frame)

/-- What a step leaves to do, and the entity whose replacement text it enters. -/
structure Stride where
  tasks : List Task
  entered : Option (ReferenceKind × String)

def Stride.to (tasks : List Task) : Stride := ⟨tasks, none⟩

namespace Machine

open Checked

section Step

variable (ctx : CheckContext)

def elementTasks (tag : Markup.Tag) (depth : Nat) : List Task :=
  .act (countElement ctx tag.name depth) (steady_countElement _ _) ::
    (tag.attributes.attributes.map fun a => .text a.value) ++
      [.act (admitTag ctx tag) (steady_admitTag _)]

def doctypeTasks (decl : Dtd.Doctype) : List Task :=
  (decl.subset.toList.map fun text => .subset text ctx.systemId) ++
    [.externalSubset decl.publicId decl.systemId,
      .act (dispatch ctx .endDtd) (steady_dispatch _ _)]

def nextOfToken : Markup.Token → Checked Stride
  | .text content => return .to [.text content]
  | .doctype content => do
      if ctx.isEnabled .disallowDoctype then raise ctx (.fatal .doctypeNotAllowed [])
      else
        match Dtd.Doctype.split content with
        | .error fault => throw (.dtd fault)
        | .ok decl =>
            modify fun pass => { pass with doctype := some decl.root }
            dispatch ctx decl.startEvent
            return .to (doctypeTasks ctx decl)
  | .startTag tag => do
      modify fun pass => { pass with depth := pass.depth + 1 }
      return .to (elementTasks ctx tag (← get).depth)
  | .emptyTag tag => do
      return .to (elementTasks ctx tag ((← get).depth + 1) ++
        [.act closeScope steady_closeScope])
  | .endTag => do
      closeElement
      return .to []
  | .ignored => return .to []

def nextOfReference (table : Dtd.EntityTable) (opened : List String) (rest : List Reference)
    (name : String) : Checked Stride := do
  if isBuiltIn name then return .to [.expand table opened rest]
  else
    match table.general? name with
    | none =>
        undeclared name
        return .to [.expand table opened rest]
    | some decl =>
        if isLeftAlone ctx decl then return .to [.expand table opened rest]
        else if name ∈ opened then raiseRecursion ctx opened name
        else
          let text ← replacement ctx name decl
          return ⟨[.expand table (name :: opened) (references text), .expand table opened rest],
            some (.general, name)⟩

def nextOfExternal (publicId : Option String) : Option String → Checked Stride
  | none => return .to []
  | some systemId => do
      if ctx.isEnabled .loadExternalDtd then
        let (text, base) ← accounted (fetch ctx .dtd ⟨publicId, some systemId, ctx.systemId, none⟩)
        return .to [.subset text base]
      else
        skipExternal
        return .to []

def nextOfFrames : List Frame → Checked Stride
  | [] => return .to []
  | ⟨_, []⟩ :: outer => return .to [.run outer]
  | ⟨entity, e :: events⟩ :: outer => do
      match ← step ctx (Frame.opened (⟨entity, e :: events⟩ :: outer)) e with
      | none => return .to [.run (⟨entity, events⟩ :: outer)]
      | some inner =>
          return ⟨[.run (inner :: ⟨entity, events⟩ :: outer)],
            inner.entity.map (.parameter, ·)⟩

def next : Task → Checked Stride
  | .act x _ => do
      x
      return .to []
  | .token t => nextOfToken ctx t
  | .text content => do return .to [.expand (← get).table [] (references content)]
  | .expand _ _ [] => return .to []
  | .expand _ _ (.unterminated text :: _) => throw (.markup (.unterminatedReference text))
  | .expand table opened (.named name :: rest) => nextOfReference ctx table opened rest name
  | .subset text base => do return .to [.run [⟨none, ← scanned text base⟩]]
  | .externalSubset publicId systemId => nextOfExternal ctx publicId systemId
  | .run frames => nextOfFrames ctx frames

end Step

/-- The tasks of the machine, what it has done so far, and the entities whose replacement texts it
has entered, the latest first. -/
structure Config where
  tasks : List Task
  pass : Pass
  entered : List (ReferenceKind × String)

def Config.start (document : Markup.Document) (ledger : Ledger) : Config where
  tasks := document.tokens.map .token ++
    [.act (endDocument document) (steady_endDocument document)]
  pass := .start ledger
  entered := []

inductive Step (ctx : CheckContext) : Config → Config → Prop where
  | next {t : Task} {rest : List Task} {pass pass' : Pass}
      {entered : List (ReferenceKind × String)} {s : Stride}
      (h : next ctx t pass = .ok s pass') :
      Step ctx ⟨t :: rest, pass, entered⟩ ⟨s.tasks ++ rest, pass', s.entered.toList ++ entered⟩

/-- The machine has come to its end. -/
inductive Ends (ctx : CheckContext) : Config → EStateM.Result Fault Pass Unit → Prop where
  | done {pass : Pass} {entered : List (ReferenceKind × String)} :
      Ends ctx ⟨[], pass, entered⟩ (.ok () pass)
  | failed {t : Task} {rest : List Task} {pass pass' : Pass}
      {entered : List (ReferenceKind × String)} {fault : Fault}
      (h : next ctx t pass = .error fault pass') :
      Ends ctx ⟨t :: rest, pass, entered⟩ (.error fault pass')

abbrev Runs (ctx : CheckContext) : Config → Config → Prop := Relation.ReflTransGen (Step ctx)

def Halts (ctx : CheckContext) (c : Config) (result : EStateM.Result Fault Pass Unit) : Prop :=
  ∃ last, Runs ctx c last ∧ Ends ctx last result

/-! ## What the machine does -/

section Meaning

variable (ctx : CheckContext)

/-- All that the check does for a task. -/
def carryOut : Task → Checked Unit
  | .act x _ => x
  | .token t => checkToken ctx t
  | .text content => expandText ctx content
  | .expand table opened refs => expandAll ctx table opened refs
  | .subset text base => runSubset ctx text base
  | .externalSubset publicId systemId => runExternalSubset ctx publicId systemId
  | .run frames => runFrames ctx frames

def carryOutAll : List Task → Checked Unit
  | [] => return
  | t :: rest => do
      carryOut ctx t
      carryOutAll rest

variable {ctx}

theorem carryOutAll_append (tasks rest : List Task) :
    carryOutAll ctx (tasks ++ rest) = (do
      carryOutAll ctx tasks
      carryOutAll ctx rest) := by
  induction tasks with
  | nil => rfl
  | cons t tasks ih =>
      rw [List.cons_append, carryOutAll, carryOutAll, ih, bind_assoc]

theorem carryOutAll_singleton (t : Task) : carryOutAll ctx [t] = carryOut ctx t := by
  rw [carryOutAll, carryOutAll]
  exact bind_pure _

theorem carryOutAll_texts (attributes : List Markup.Attribute) :
    carryOutAll ctx (attributes.map fun a => .text a.value) = expandValues ctx attributes := by
  induction attributes with
  | nil => rfl
  | cons a rest ih =>
      rw [List.map_cons, carryOutAll, ih]
      rfl

theorem carryOutAll_elementTasks (tag : Markup.Tag) (depth : Nat) :
    carryOutAll ctx (elementTasks ctx tag depth) = startElement ctx tag depth := by
  rw [elementTasks, List.cons_append, carryOutAll, carryOutAll_append, carryOutAll_texts,
    carryOutAll_singleton]
  rfl

theorem carryOutAll_doctypeTasks (decl : Dtd.Doctype) :
    carryOutAll ctx (doctypeTasks ctx decl) = (do
      runInternalSubset ctx decl.subset
      runExternalSubset ctx decl.publicId decl.systemId
      dispatch ctx .endDtd) := by
  rw [doctypeTasks, carryOutAll_append]
  have hlast : carryOutAll ctx [.externalSubset decl.publicId decl.systemId,
      .act (dispatch ctx .endDtd) (steady_dispatch _ _)] = (do
        runExternalSubset ctx decl.publicId decl.systemId
        dispatch ctx .endDtd) := by
    rw [carryOutAll, carryOutAll_singleton]
    rfl
  rw [hlast]
  cases decl.subset with
  | none => rfl
  | some text =>
      have hsubset : carryOutAll ctx ((some text).toList.map fun text =>
          .subset text ctx.systemId) = runInternalSubset ctx (some text) :=
        carryOutAll_singleton _
      rw [hsubset]

theorem carryOut_token (t : Markup.Token) :
    checkToken ctx t = nextOfToken ctx t >>= fun s => carryOutAll ctx s.tasks := by
  cases t with
  | text content =>
      simp only [nextOfToken, pure_bind, Stride.to, carryOutAll_singleton]
      rfl
  | doctype content =>
      simp only [nextOfToken, checkToken, checkDoctype]
      by_cases hoff : ctx.isEnabled .disallowDoctype = true
      · rw [if_pos hoff, if_pos hoff, raise_bind]
      · rw [if_neg hoff, if_neg hoff]
        cases Dtd.Doctype.split content with
        | error fault => rfl
        | ok decl => simp only [bind_assoc, pure_bind, Stride.to, carryOutAll_doctypeTasks]
  | startTag tag =>
      simp only [nextOfToken, bind_assoc, pure_bind, Stride.to, carryOutAll_elementTasks]
      rfl
  | emptyTag tag =>
      simp only [nextOfToken, bind_assoc, pure_bind, Stride.to, carryOutAll_append,
        carryOutAll_elementTasks, carryOutAll_singleton]
      rfl
  | endTag =>
      simp only [nextOfToken, bind_assoc, pure_bind, Stride.to]
      exact (bind_pure _).symm
  | ignored => rfl

theorem carryOut_reference (table : Dtd.EntityTable) (opened : List String)
    (rest : List Reference) (name : String) :
    expandAll ctx table opened (.named name :: rest) =
      nextOfReference ctx table opened rest name >>= fun s => carryOutAll ctx s.tasks := by
  have hpassed : carryOutAll ctx (Stride.to [.expand table opened rest]).tasks =
      expandAll ctx table opened rest := carryOutAll_singleton _
  have hentered (text : String) :
      carryOutAll ctx [.expand table (name :: opened) (references text),
        .expand table opened rest] = (do
          expandAll ctx table (name :: opened) (references text)
          expandAll ctx table opened rest) := by
    rw [carryOutAll, carryOutAll_singleton]
    rfl
  rw [expandAll_named, expandReference, nextOfReference]
  by_cases hbuiltIn : isBuiltIn name = true
  · simp only [if_pos hbuiltIn, pure_bind, hpassed]
  · rw [if_neg hbuiltIn, if_neg hbuiltIn]
    cases table.general? name with
    | none => simp only [bind_assoc, pure_bind, hpassed]
    | some d =>
        by_cases hleft : isLeftAlone ctx d = true
        · simp only [if_pos hleft, pure_bind, hpassed]
        · simp only [if_neg hleft]
          by_cases ho : name ∈ opened
          · simp only [if_pos ho, raiseRecursion, raise_bind]
          · simp only [if_neg ho, bind_assoc, pure_bind, hentered]

theorem carryOut_external (publicId systemId : Option String) :
    runExternalSubset ctx publicId systemId =
      nextOfExternal ctx publicId systemId >>= fun s => carryOutAll ctx s.tasks := by
  cases systemId with
  | none => rfl
  | some systemId =>
      simp only [runExternalSubset, nextOfExternal]
      split
      · simp only [bind_assoc, pure_bind, Stride.to, carryOutAll_singleton]
        rfl
      · rfl

theorem carryOut_frames (frames : List Frame) :
    runFrames ctx frames = nextOfFrames ctx frames >>= fun s => carryOutAll ctx s.tasks := by
  have hpassed (frames : List Frame) :
      carryOutAll ctx (Stride.to [.run frames]).tasks = runFrames ctx frames :=
    carryOutAll_singleton _
  match frames with
  | [] => exact runFrames_nil ctx
  | ⟨entity, []⟩ :: outer => rw [runFrames_leave, nextOfFrames, pure_bind, hpassed]
  | ⟨entity, e :: events⟩ :: outer =>
      rw [runFrames_step, nextOfFrames, bind_assoc]
      congr 1
      funext outcome
      cases outcome with
      | none => rw [pure_bind, hpassed]
      | some inner =>
          rw [pure_bind, carryOutAll_singleton]
          rfl

theorem carryOut_eq (t : Task) :
    carryOut ctx t = next ctx t >>= fun s => carryOutAll ctx s.tasks := by
  cases t with
  | act x h =>
      simp only [next, bind_assoc, pure_bind]
      exact (bind_pure _).symm
  | token t => exact carryOut_token t
  | text content =>
      simp only [next, bind_assoc, pure_bind, Stride.to, carryOutAll_singleton]
      rfl
  | expand table opened refs =>
      cases refs with
      | nil =>
          rw [carryOut, expandAll]
          rfl
      | cons r rest =>
          cases r with
          | unterminated text =>
              rw [carryOut, expandAll]
              rfl
          | named name => exact carryOut_reference table opened rest name
  | subset text base =>
      simp only [next, bind_assoc, pure_bind, Stride.to, carryOutAll_singleton]
      rfl
  | externalSubset publicId systemId => exact carryOut_external publicId systemId
  | run frames => exact carryOut_frames frames

/-- The tasks of a document make up its check. -/
theorem carryOutAll_start (document : Markup.Document) (ledger : Ledger) :
    carryOutAll ctx (Config.start document ledger).tasks = checkDocument ctx document := by
  have htokens (tokens : List Markup.Token) :
      carryOutAll ctx (tokens.map .token) = checkTokens ctx tokens := by
    induction tokens with
    | nil => rfl
    | cons t rest ih =>
        rw [List.map_cons, carryOutAll, ih]
        rfl
  rw [Config.start, carryOutAll_append, htokens, carryOutAll_singleton]
  rfl

end Meaning

end Machine

end XmlBounds
