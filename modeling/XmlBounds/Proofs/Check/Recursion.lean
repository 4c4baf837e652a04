import Mathlib.Logic.Relation
import XmlBounds.Proofs.Check.Blame
import XmlBounds.Proofs.Entity.Answering

/-!
# Recursive references

Entities refer to each other in their replacement texts. The expansion of a text finds a recursive
reference only if it can reach a cycle of these references, and it cannot succeed if it can reach
one. On the way, each open entity has led to all that is still to be expanded; afterwards, nothing
that was expanded leads on for ever.
-/

namespace XmlBounds

open Relation

/-- The text of a resource is the one that is given for its identifier, whenever it is fetched. -/
def CheckContext.FixedTexts (ctx : CheckContext) (texts : ResourceId → String) : Prop :=
  ∀ {id : ResourceId} {l l' : Ledger} {text : String} {base : Option String},
    fetch ctx .entity id l = .ok (text, base) l' → text = texts id

/-- The replacement text of an entity; none if a reference to it is not replaced. -/
def CheckContext.textOf? (ctx : CheckContext) (texts : ResourceId → String)
    (d : Dtd.EntityDecl) : Option String :=
  match d.kind with
  | .internal text => some text
  | .external publicId systemId base =>
      if ctx.isEnabled .externalGeneralEntities then
        some (texts ⟨publicId, some systemId, base, some d.name⟩)
      else none
  | .unparsed .. => none

/-- The name is that of a declared entity, and among the references. -/
structure Dtd.EntityTable.Names (table : EntityTable) (refs : List Reference) (name : String) :
    Prop where
  mem : .named name ∈ refs
  notBuiltIn : isBuiltIn name = false
  declared : (table.general? name).isSome = true

theorem Dtd.EntityTable.Names.tail {table : EntityTable} {r : Reference} {rest : List Reference}
    {name : String} (h : table.Names rest name) : table.Names (r :: rest) name :=
  ⟨List.mem_cons_of_mem r h.mem, h.notBuiltIn, h.declared⟩

/-- What expansion goes by: the context, the texts of external entities, and the declarations. -/
structure ReferenceGraph where
  ctx : CheckContext
  texts : ResourceId → String
  table : Dtd.EntityTable

namespace ReferenceGraph

/-- The replacement text of the first entity refers to the second. -/
def Edge (g : ReferenceGraph) (a b : String) : Prop :=
  ∃ d text, g.table.general? a = some d ∧ g.ctx.textOf? g.texts d = some text ∧
    g.table.Names (references text) b

def ReachesCycle (g : ReferenceGraph) (refs : List Reference) : Prop :=
  ∃ first on, g.table.Names refs first ∧ ReflTransGen g.Edge first on ∧ TransGen g.Edge on on

variable {g : ReferenceGraph}

/-! ## What is expanded -/

open Checked

/-- What is expanded for a reference is the text of the entity in the graph. -/
theorem textOf?_of_replacement (hfixed : g.ctx.FixedTexts g.texts) {name text : String}
    {d : Dtd.EntityDecl} {pass pass' : Pass} (hleft : isLeftAlone g.ctx d = false)
    (h : replacement g.ctx name d pass = .ok text pass') : g.ctx.textOf? g.texts d = some text := by
  obtain ⟨entity, kind⟩ := d
  cases kind with
  | internal text =>
      obtain ⟨_, mid, _, hpure⟩ := ok_of_bind h
      cases hpure
      rfl
  | external publicId systemId base =>
      have hon : g.ctx.isEnabled .externalGeneralEntities = true := by
        simpa [isLeftAlone, Dtd.EntityDecl.isExternal] using hleft
      obtain ⟨⟨fetched, fetchedBase⟩, mid, hentity, hpure⟩ := ok_of_bind h
      cases hpure
      obtain ⟨_, counted, _, hfetch⟩ := ok_of_bind hentity
      simp only [accounted, Accounted.within] at hfetch
      split at hfetch
      · next hok =>
          cases hfetch
          rw [hfixed hok]
          simp only [CheckContext.textOf?, hon, if_true]
      · cases hfetch
  | unparsed systemId notationName => cases h

theorem not_edge_of_isLeftAlone {a b : String} {d : Dtd.EntityDecl}
    (hd : g.table.general? a = some d) (hleft : isLeftAlone g.ctx d = true) : ¬ g.Edge a b := by
  rintro ⟨d', text, hd', htext, _⟩
  rw [hd] at hd'
  cases hd'
  obtain ⟨name, kind⟩ := d
  cases kind with
  | external publicId systemId base =>
      have hoff : g.ctx.isEnabled .externalGeneralEntities = false := by
        simpa [isLeftAlone, Dtd.EntityDecl.isExternal] using hleft
      simp [CheckContext.textOf?, hoff] at htext
  | _ => cases hleft

/-! ## No cycle, no recursion -/

def Acyclic (g : ReferenceGraph) (refs : List Reference) : Prop := ¬ g.ReachesCycle refs

/-- Every open entity has led to the references. -/
def LedHere (g : ReferenceGraph) (opened : List String) (refs : List Reference) : Prop :=
  ∀ a ∈ opened, ∀ b, g.table.Names refs b → TransGen g.Edge a b

theorem Acyclic.tail {r : Reference} {rest : List Reference} (h : g.Acyclic (r :: rest)) :
    g.Acyclic rest := by
  rintro ⟨first, on, hfirst, hreach, hcycle⟩
  exact h ⟨first, on, hfirst.tail, hreach, hcycle⟩

theorem Acyclic.inner {refs : List Reference} {name text : String} {d : Dtd.EntityDecl}
    (h : g.Acyclic refs) (hname : g.table.Names refs name)
    (hd : g.table.general? name = some d) (htext : g.ctx.textOf? g.texts d = some text) :
    g.Acyclic (references text) := by
  rintro ⟨first, on, hfirst, hreach, hcycle⟩
  have hedge : g.Edge name first := ⟨d, text, hd, htext, hfirst⟩
  exact h ⟨name, on, hname, .head hedge hreach, hcycle⟩

theorem LedHere.tail {opened : List String} {r : Reference} {rest : List Reference}
    (h : g.LedHere opened (r :: rest)) : g.LedHere opened rest :=
  fun a ha b hb => h a ha b hb.tail

theorem LedHere.inner {opened : List String} {refs : List Reference} {name text : String}
    {d : Dtd.EntityDecl} (h : g.LedHere opened refs) (hname : g.table.Names refs name)
    (hd : g.table.general? name = some d) (htext : g.ctx.textOf? g.texts d = some text) :
    g.LedHere (name :: opened) (references text) := by
  intro a ha b hb
  have hedge : g.Edge name b := ⟨d, text, hd, htext, hb⟩
  rcases List.mem_cons.mp ha with rfl | ha
  · exact .single hedge
  · exact (h a ha name hname).tail hedge

theorem spares_expandAll (hfixed : g.ctx.FixedTexts g.texts) {opened : List String}
    {refs : List Reference} (hacyclic : g.Acyclic refs) (hopened : g.LedHere opened refs) :
    Spares (·.ledger) g.ctx.Excuses (expandAll g.ctx g.table opened refs) := by
  induction opened, refs using expandAll.induct g.table with
  | case1 opened =>
      rw [expandAll]
      exact spares_pure _
  | case2 opened text rest =>
      rw [expandAll]
      exact spares_throw False.elim
  | case3 opened name rest inner outer =>
      rw [expandAll_named]
      refine Spares.bind ?_ fun _ => outer hacyclic.tail hopened.tail
      unfold expandReference
      split
      · exact spares_pure _
      · next hbuiltIn =>
          split
          · exact spares_undeclared name
          · next d hd =>
              have hname : g.table.Names (.named name :: rest) name :=
                ⟨List.mem_cons_self, by simpa using hbuiltIn, by rw [hd]; rfl⟩
              split
              · exact spares_pure _
              · next hleft =>
                  split
                  · next ho =>
                      -- an open entity has led to this reference to it: that is a cycle
                      have hcycle := hopened name ho name hname
                      exact absurd ⟨name, name, hname, .refl, hcycle⟩ hacyclic
                  · next ho =>
                      refine (spares_replacement name d).next ?_
                      intro pass text pass' hreplaced
                      have htext := textOf?_of_replacement hfixed (by simpa using hleft) hreplaced
                      exact inner d hd ho text (hacyclic.inner hname hd htext)
                        (hopened.inner hname hd htext)

/-! ## Success, no cycle -/

/-- The entity leads only to the end, whichever references are followed. -/
def Grounded (g : ReferenceGraph) (name : String) : Prop := Acc (fun b a => g.Edge a b) name

theorem Grounded.not_cycle {name : String} (h : g.Grounded name) :
    ∀ on, ReflTransGen g.Edge name on → ¬ TransGen g.Edge on on := by
  induction h with
  | intro name _ ih =>
      intro on hreach hcycle
      rcases hreach.cases_head with rfl | ⟨b, hedge, hreach⟩
      · obtain ⟨b, hedge, hreach⟩ := TransGen.head'_iff.mp hcycle
        exact ih b hedge name hreach hcycle
      · exact ih b hedge on hreach hcycle

theorem grounded_of_expandAll (hfixed : g.ctx.FixedTexts g.texts) {opened : List String}
    {refs : List Reference} {pass pass' : Pass}
    (h : expandAll g.ctx g.table opened refs pass = .ok () pass') {name : String}
    (hname : g.table.Names refs name) : g.Grounded name := by
  induction opened, refs using expandAll.induct g.table generalizing pass pass' name with
  | case1 opened => cases hname.mem
  | case2 opened text rest =>
      rw [expandAll] at h
      cases h
  | case3 opened first rest inner outer =>
      rw [expandAll_named] at h
      obtain ⟨_, mid, hfirst, hrest⟩ := ok_of_bind h
      rcases List.mem_cons.mp hname.mem with hmem | hmem
      · cases hmem
        obtain ⟨d, hd⟩ := Option.isSome_iff_exists.mp hname.declared
        simp only [expandReference, hname.notBuiltIn, hd, Bool.false_eq_true, if_false] at hfirst
        split at hfirst
        · next hleft => exact ⟨_, fun b hedge => absurd hedge (not_edge_of_isLeftAlone hd hleft)⟩
        · next hleft =>
            split at hfirst
            · exact absurd hfirst not_ok_raise
            · next ho =>
                obtain ⟨text, entered, hreplaced, hinner⟩ := ok_of_bind hfirst
                have htext := textOf?_of_replacement hfixed (by simpa using hleft) hreplaced
                -- all that the text refers to is grounded, and nothing else leads on
                refine ⟨_, ?_⟩
                rintro b ⟨d', text', hd', htext', hb⟩
                rw [hd] at hd'
                cases hd'
                rw [htext] at htext'
                cases htext'
                exact inner d hd ho text hinner hb
      · exact outer hrest ⟨hmem, hname.notBuiltIn, hname.declared⟩

end ReferenceGraph

def CheckContext.graph (ctx : CheckContext) (texts : ResourceId → String) (pass : Pass) :
    ReferenceGraph := ⟨ctx, texts, pass.table⟩

/-- A text whose references reach no cycle never fails with a recursive reference, and a text that
is expanded reaches none. -/
theorem recursion_of_expandText {ctx : CheckContext} {texts : ResourceId → String}
    (hfixed : ctx.FixedTexts texts) (text : String) (pass : Pass) :
    (¬ (ctx.graph texts pass).ReachesCycle (references text) →
      ∀ fault pass', Checked.expandText ctx text pass = .error fault pass' →
        pass.ledger.Quiet pass'.ledger ∧ (fault.IsRecursion → ctx.Excuses fault)) ∧
    ∀ pass', Checked.expandText ctx text pass = .ok () pass' →
      ¬ (ctx.graph texts pass).ReachesCycle (references text) := by
  have hexpand : Checked.expandText ctx text pass =
      Checked.expandAll ctx pass.table [] (references text) pass := rfl
  constructor
  · intro hacyclic fault pass' h
    have hopened : (ctx.graph texts pass).LedHere [] (references text) := by
      intro a ha
      cases ha
    exact (ReferenceGraph.spares_expandAll (g := ctx.graph texts pass) hfixed hacyclic
      hopened).of_error h
  · rintro pass' h ⟨first, on, hfirst, hreach, hcycle⟩
    have hgrounded := ReferenceGraph.grounded_of_expandAll (g := ctx.graph texts pass) hfixed h
      hfirst
    exact hgrounded.not_cycle on hreach hcycle

/-- A context in which external general entities are fetched from a resolver that has texts. -/
def CheckContext.answering (texts : ResourceId → String) : CheckContext where
  policy := .initial
  isEnabled f := f = .externalGeneralEntities
  reporter := .recording
  resolver := some (.answering texts)
  files := ⟨"/", [], []⟩
  systemId := none

def Pass.pair : Pass :=
  { Pass.start .empty with
    table := ⟨[⟨"a", .internal "&b;"⟩, ⟨"b", .external none "b.ent" none⟩,
      ⟨"c", .internal "&d;"⟩], [], []⟩ }

/-- The text of the external entity refers back to the internal one. -/
def ReferenceGraph.pair : ReferenceGraph :=
  (CheckContext.answering fun _ => "&a;").graph (fun _ => "&a;") .pair

/-- Two entities that refer to each other cannot be expanded. One whose text refers to what is not
declared cannot either, but is not taken for recursive. -/
theorem not_expanded_pair :
    ReferenceGraph.pair.ReachesCycle (references "&a;") ∧
      (∀ pass', Checked.expandText ReferenceGraph.pair.ctx "&a;" .pair ≠ .ok () pass') ∧
      ∀ fault pass', Checked.expandText ReferenceGraph.pair.ctx "&c;" .pair = .error fault pass' →
        Pass.pair.ledger.Quiet pass'.ledger := by
  have hrefs : references "&a;" = [.named "a"] ∧ references "&b;" = [.named "b"] ∧
      references "&c;" = [.named "c"] ∧ references "&d;" = [.named "d"] := by decide +kernel
  obtain ⟨ha, hb, hc, hd⟩ := hrefs
  have hfixed : ReferenceGraph.pair.ctx.FixedTexts ReferenceGraph.pair.texts :=
    fun h => text_of_fetch rfl (Reporter.neverInterrupts_failOnFatal true) h
  have hnames : ReferenceGraph.pair.table.Names (references "&a;") "a" ∧
      ReferenceGraph.pair.table.Names (references "&b;") "b" := by
    rw [ha, hb]
    exact ⟨⟨by simp, by decide, by decide⟩, ⟨by simp, by decide, by decide⟩⟩
  have hab : ReferenceGraph.pair.Edge "a" "b" := ⟨⟨"a", _⟩, "&b;", rfl, rfl, hnames.2⟩
  have hba : ReferenceGraph.pair.Edge "b" "a" := ⟨⟨"b", _⟩, "&a;", rfl, rfl, hnames.1⟩
  have hcycle : ReferenceGraph.pair.ReachesCycle (references "&a;") :=
    ⟨"a", "a", hnames.1, .refl, .head hab (.single hba)⟩
  have hgrounded : ReferenceGraph.pair.Grounded "c" := by
    refine ⟨_, ?_⟩
    rintro b ⟨decl, text, hdecl, htext, hname⟩
    cases hdecl
    cases htext
    have hmem := hname.mem
    have hdeclared := hname.declared
    rw [hd] at hmem
    cases List.mem_singleton.mp hmem
    cases hdeclared
  refine ⟨hcycle, ?_, ?_⟩
  · intro pass' h
    exact (recursion_of_expandText hfixed "&a;" .pair).2 pass' h hcycle
  · intro fault pass' h
    refine ((recursion_of_expandText hfixed "&c;" .pair).1 ?_ fault pass' h).1
    rintro ⟨first, on, hfirst, hreach, hon⟩
    have hmem := hfirst.mem
    rw [hc] at hmem
    cases List.mem_singleton.mp hmem
    exact hgrounded.not_cycle on hreach hon

end XmlBounds
