import XmlBounds.Proofs.Check.Termination

/-!
# Plain documents

What becomes of a subset without references, and of a reference to an internal entity. With these
a small document can be followed through its check step by step. Another document refers to an
external entity, and is checked with a reporter that interrupts.
-/

namespace XmlBounds

namespace Checked
variable {ctx : CheckContext}

def dispatchAll (ctx : CheckContext) : List Dtd.Event → Checked Unit
  | [] => return
  | e :: rest => do
      dispatch ctx e
      dispatchAll ctx rest

/-- A subset that refers to no parameter entity is dispatched event by event. -/
theorem runFrames_plain (entity : Option String) {events : List Dtd.Event}
    (h : ∀ name, .parameterReference name ∉ events) :
    runFrames ctx [⟨entity, events⟩] = dispatchAll ctx events := by
  induction events with
  | nil =>
      funext pass
      rw [runFrames, runFrames]
      rfl
  | cons e rest ih =>
      funext pass
      have hstep : step ctx (Frame.opened [⟨entity, e :: rest⟩]) e pass =
          (dispatch ctx e >>= fun _ => pure none) pass := by
        cases e with
        | parameterReference name => exact absurd List.mem_cons_self (h name)
        | _ => rfl
      have hrest := ih fun name hmem => h name (List.mem_cons_of_mem e hmem)
      cases hd : dispatch ctx e pass with
      | error fault mid =>
          have hs : step ctx (Frame.opened [⟨entity, e :: rest⟩]) e pass = .error fault mid := by
            rw [hstep]
            simp only [Bind.bind, EStateM.bind, hd]
          rw [runFrames, hs]
          simp only [dispatchAll, Bind.bind, EStateM.bind, hd]
      | ok done mid =>
          have hs : step ctx (Frame.opened [⟨entity, e :: rest⟩]) e pass = .ok none mid := by
            rw [hstep, bind_of_ok hd]
            rfl
          rw [runFrames, hs, dispatchAll, bind_of_ok hd]
          exact congrFun hrest mid

/-- The expansion of an internal entity is counted, and then its text is searched. -/
theorem expandAll_internal {table : Dtd.EntityTable} {opened : List String} {name text : String}
    {d : Dtd.EntityDecl} (rest : List Reference) (hbuiltIn : isBuiltIn name = false)
    (hd : table.general? name = some d) (hkind : d.kind = .internal text)
    (hopened : name ∉ opened) :
    expandAll ctx table opened (.named name :: rest) = (do
      countExpansion ctx .general name d
      expandAll ctx table (name :: opened) (references text)
      expandAll ctx table opened rest) := by
  have hleft : isLeftAlone ctx d = false := by
    simp [isLeftAlone, Dtd.EntityDecl.isExternal, hkind]
  have hreplacement : replacement ctx name d = (do
      countExpansion ctx .general name d
      pure text) := by
    simp only [replacement, hkind]
  rw [expandAll]
  split
  · next h =>
      rw [hbuiltIn] at h
      cases h
  · split
    · next h =>
        rw [hd] at h
        cases h
    · next d' h =>
        rw [hd] at h
        cases h
        rw [if_neg (by simp [hleft]), hreplacement]
        simp only [bind_assoc, pure_bind]
end Checked

/-- A reader with the initial policy, of which the features are on that are given. -/
def DocumentReader.plain (isEnabled : Feature → Bool) (resolver : Option EntityResolver) :
    DocumentReader where
  configuration := {
    overrides := .none
    resolution := ⟨fun s => ⟨Policy.initial.value s, .default⟩, fun f => ⟨isEnabled f, .default⟩⟩
    policy := .initial
    resolver
    reporter := .logging
    ledger := .empty }
  systemId := none

namespace Plain

theorem eq_ok_of_toOption {ε α : Type} {x : Except ε α} {a : α} (h : x.toOption = some a) :
    x = .ok a := by
  cases x with
  | ok b =>
      cases h
      rfl
  | error fault => cases h

def noFiles : Files := ⟨"/", [], []⟩

/-- A check with all features off. -/
def offline : CheckContext := (DocumentReader.plain (fun _ => false) none).context noFiles

/-- How a check stands once it has read the DOCTYPE and declared an internal entity of one
character. -/
def declaredPass (name : String) : Pass :=
  { Pass.start ⟨1, [], [.counted name 1, .declared name "x"]⟩ with
    doctype := some "a"
    table := Dtd.EntityTable.empty.declare ⟨name, .internal "x"⟩ }

/-- How it stands after an element that refers to the entity once. -/
def expandedPass (name : String) : Pass :=
  { declaredPass name with
    ledger := ⟨1, [], [.expanded .general name ⟨name, .internal "x"⟩, .counted name 1,
      .declared name "x"]⟩
    elements := 1
    maxDepth := 1
    expansions := 1 }

open Checked

variable {content subset reference name : String} {tag : Markup.Tag}

theorem dispatch_declaration (name : String) :
    dispatch offline (.internalEntity name "x") { Pass.start .empty with doctype := some "a" } =
      .ok () (declaredPass name) := by
  have hsize : Policy.initial.checkEntitySize 1 (Counter.add 0 1).toNat
      (Dtd.isParameterName name) = [] := by
    cases Dtd.isParameterName name <;> decide
  have hcount : countEntity Policy.initial .logging name 1 1 ⟨0, [], [.declared name "x"]⟩ =
      .ok () ⟨1, [], [.counted name 1, .declared name "x"]⟩ := by
    rw [countEntity_apply, hsize]
    rfl
  have hmonitor : sizeMonitor Policy.initial .logging (.internalEntity name "x") .empty =
      .ok (some (.internalEntity name "x")) ⟨1, [], [.counted name 1, .declared name "x"]⟩ := by
    rw [sizeMonitor_internal]
    exact (bind_of_ok hcount).trans rfl
  have hdeliver : accounted ((monitoredPipeline Policy.initial .logging).deliver
      (.internalEntity name "x")) { Pass.start .empty with doctype := some "a" } =
        .ok (some (.internalEntity name "x"))
          { Pass.start ⟨1, [], [.counted name 1, .declared name "x"]⟩ with
            doctype := some "a" } := by
    rw [Contract.deliver_monitored]
    simp only [accounted, Accounted.within, Pass.start, hmonitor]
  exact (bind_of_ok hdeliver).trans rfl

theorem checkDoctype_plain
    (hsplit : Dtd.Doctype.split content = .ok ⟨"a", none, none, some subset⟩)
    (hscan : Dtd.scan subset none = .ok [.internalEntity name "x"]) :
    checkDoctype offline content (.start .empty) = .ok () (declaredPass name) := by
  have hoff : offline.isEnabled .disallowDoctype = false := rfl
  have hsubset : runInternalSubset offline (some subset) =
      dispatchAll offline [.internalEntity name "x"] := by
    have hbase : offline.systemId = none := rfl
    rw [← runFrames_plain none (by simp)]
    simp only [runInternalSubset, runSubset, scanned, hbase, hscan]
    rfl
  have hrun : dispatchAll offline [.internalEntity name "x"]
      { Pass.start .empty with doctype := some "a" } = .ok () (declaredPass name) :=
    bind_of_ok (dispatch_declaration name)
  have hroot : (modify fun pass => { pass with doctype := some "a" } : Checked PUnit)
      (.start .empty) = .ok () { Pass.start .empty with doctype := some "a" } := rfl
  have hstart : dispatch offline (.startDtd "a" none none)
      { Pass.start .empty with doctype := some "a" } =
        .ok () { Pass.start .empty with doctype := some "a" } := rfl
  simp only [checkDoctype, hoff, hsplit, hsubset]
  exact (bind_of_ok hroot).trans ((bind_of_ok hstart).trans ((bind_of_ok hrun).trans rfl))

/-- An element that refers to an entity of one character, after a DOCTYPE that declares it. -/
theorem checkDocument_plain
    (hsplit : Dtd.Doctype.split content = .ok ⟨"a", none, none, some subset⟩)
    (hscan : Dtd.scan subset none = .ok [.internalEntity name "x"])
    (htag : tag.attributes = ⟨[], none⟩) (hreference : references reference = [.named name])
    (hname : isBuiltIn name = false) :
    checkDocument offline
      ⟨[.doctype content, .startTag tag, .text reference, .endTag], none⟩ (.start .empty) =
        .ok () (expandedPass name) := by
  have hopen : openElement offline tag (declaredPass name) = .ok ()
      { declaredPass name with elements := 1, maxDepth := 1, depth := 1, scopes := [[]] } := by
    simp only [openElement, startElement, htag]
    rfl
  have hexpand : expandText offline reference
      { declaredPass name with elements := 1, maxDepth := 1, depth := 1, scopes := [[]] } = .ok ()
      { expandedPass name with depth := 1, scopes := [[]] } := by
    have hfound : (declaredPass name).table.general? name = some ⟨name, .internal "x"⟩ := by
      refine (Dtd.EntityTable.find?_declare .empty ⟨name, .internal "x"⟩ name).trans ?_
      simp [Dtd.EntityTable.find?, Dtd.EntityTable.empty]
    have hnone : references "x" = [] := by decide +kernel
    have hall : expandAll offline (declaredPass name).table [] (references reference) =
        countExpansion offline .general name ⟨name, .internal "x"⟩ := by
      rw [hreference, expandAll_internal [] hname hfound rfl (by simp), hnone]
      simp only [expandAll, bind_pure_unit, pure_bind]
    have hget : expandText offline reference
        { declaredPass name with elements := 1, maxDepth := 1, depth := 1, scopes := [[]] } =
          expandAll offline (declaredPass name).table [] (references reference)
            { declaredPass name with elements := 1, maxDepth := 1, depth := 1, scopes := [[]] } :=
      rfl
    rw [hget, hall]
    rfl
  have hclose : closeElement { expandedPass name with depth := 1, scopes := [[]] } =
      .ok () (expandedPass name) := rfl
  exact (bind_of_ok ((bind_of_ok (checkDoctype_plain hsplit hscan)).trans
    ((bind_of_ok hopen).trans ((bind_of_ok hexpand).trans (bind_of_ok hclose))))).trans rfl

theorem checkText_plain {text : String} (subset name : String)
    (hread : Markup.read text =
      ⟨[.doctype content, .startTag tag, .text reference, .endTag], none⟩)
    (hsplit : (Dtd.Doctype.split content).toOption = some ⟨"a", none, none, some subset⟩)
    (hscan : (Dtd.scan subset none).toOption = some [.internalEntity name "x"])
    (htag : tag.attributes = ⟨[], none⟩) (hreference : references reference = [.named name])
    (hname : isBuiltIn name = false) :
    ∃ r, DocumentReader.checkText noFiles text (.plain (fun _ => false) none) =
        (.ok (expandedPass name).report, r) ∧
      r.configuration.ledger = (expandedPass name).ledger := by
  have hrun : Checked.checkDocument ((DocumentReader.plain (fun _ => false) none).context noFiles)
      (Markup.read text) (.start .empty) = .ok () (expandedPass name) := by
    rw [hread]
    exact checkDocument_plain (eq_ok_of_toOption hsplit) (eq_ok_of_toOption hscan)
      htag hreference hname
  have hcheck := DocumentReader.checkText_eq noFiles text (.plain (fun _ => false) none)
  have hstart : (DocumentReader.plain (fun _ => false) none).configuration.startParse.ledger =
      .empty := rfl
  rw [hstart, hrun] at hcheck
  exact ⟨_, hcheck, rfl⟩

end Plain

namespace Interrupting

/-- A reader that is to report to one who interrupts it. Whatever entity it asks for, it gets a
reference to another. -/
def reader (policy : Policy) : DocumentReader where
  systemId := none
  configuration := {
    (DocumentReader.plain (· == .externalGeneralEntities)
      (some fun _ _ => .ok (some (.ofText "e" "&x;")))).configuration with
    policy := policy.setExternalDtd (some accessAll)
    reporter := ⟨fun _ => .error (.io ⟨.interrupted, none⟩), false⟩ }

def text : String := "<!DOCTYPE a [<!ENTITY x ''><!ENTITY e SYSTEM 'e'>]><a>&e;</a>"

/-- A policy under which the three characters of the external entity are one too many. -/
def strict : Policy := Policy.initial.setTotalEntitySize 2

theorem exists_checkText {policy : Policy} {entityText expansions : Nat}
    (h : (Machine.resultWithin ((reader policy).context Plain.noFiles) 30
        (.start (Markup.read text) .empty)).map (fun result => (Machine.answer result).toOption.map
          fun report => (report.entityText, report.expansions)) =
      some (some (entityText, expansions))) :
    ∃ report r, DocumentReader.checkText Plain.noFiles text (reader policy) = (.ok report, r) ∧
      report.entityText = entityText ∧ report.expansions = expansions := by
  obtain ⟨result, hresult, hanswer⟩ := Option.map_eq_some_iff.mp h
  obtain ⟨report, hreport, hcounts⟩ := Option.map_eq_some_iff.mp hanswer
  cases hcounts
  have hcheck := (DocumentReader.checkText_of_resultWithin hresult).1
  rw [Plain.eq_ok_of_toOption hreport] at hcheck
  exact ⟨report, _, Prod.ext hcheck rfl, rfl, rfl⟩

end Interrupting

end XmlBounds
