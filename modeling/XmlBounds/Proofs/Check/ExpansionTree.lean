import Mathlib.Algebra.GroupWithZero.Nat
import Mathlib.Data.Finset.Card
import XmlBounds.Proofs.Check.Plain
import XmlBounds.Proofs.Check.Recursion

/-!
# The tree of expansions

The internal entities of a table without recursion unfold into a tree below each text: one branch
for each reference, with the tree of the replacement text at its end. The expansion of a text takes
as many expansions as the tree has branches, or stops with the first one beyond the limit.
-/

namespace XmlBounds

open Relation

namespace Dtd.EntityTable

variable {t : EntityTable}

/-- The replacement text of the first entity refers to the second. -/
def Refers (t : EntityTable) (a b : String) : Prop :=
  ∃ d text, t.general? a = some d ∧ d.kind = .internal text ∧ t.Names (references text) b

/-- No entity leads back to itself. -/
def Acyclic (t : EntityTable) : Prop := ∀ name, ¬ TransGen t.Refers name name

/-! ## Size -/

/-- The replacement text that an internal entity has for a reference to it. -/
def replacement? (t : EntityTable) : Reference → Option String
  | .unterminated _ => none
  | .named name =>
      if isBuiltIn name then none
      else
        match t.general? name with
        | some ⟨_, .internal text⟩ => some text
        | _ => none

/-- The replacement texts for references, one for each occurrence. -/
def replacements (t : EntityTable) (refs : List Reference) : List String :=
  refs.filterMap t.replacement?

theorem replacement?_eq_some {r : Reference} {text : String} :
    t.replacement? r = some text ↔ ∃ name d, r = .named name ∧ isBuiltIn name = false ∧
      t.general? name = some d ∧ d.kind = .internal text := by
  constructor
  · intro h
    cases r with
    | unterminated _ => cases h
    | named name =>
        simp only [replacement?] at h
        split at h
        · cases h
        · next hbuiltIn =>
            split at h
            · next hd =>
                cases h
                exact ⟨name, _, rfl, by simpa using hbuiltIn, hd, rfl⟩
            · cases h
  · rintro ⟨name, ⟨entity, kind⟩, rfl, hbuiltIn, hd, hkind⟩
    cases hkind
    simp only [replacement?, hbuiltIn, hd, Bool.false_eq_true, if_false]

/-- The declared entities that a text leads to. -/
noncomputable def reachable (t : EntityTable) (text : String) : Finset String :=
  open Classical in
  (t.entities.map (·.name)).toFinset.filter fun name =>
    ∃ first, t.Names (references text) first ∧ ReflTransGen t.Refers first name

theorem mem_reachable {text name : String} : name ∈ t.reachable text ↔
    name ∈ t.entities.map (·.name) ∧
      ∃ first, t.Names (references text) first ∧ ReflTransGen t.Refers first name := by
  simp only [reachable, Finset.mem_filter, List.mem_toFinset]

/-- Each replacement text leads to fewer entities: not to the one that it replaces. -/
theorem reachable_ssubset (h : t.Acyclic) {text inner : String}
    (hinner : inner ∈ t.replacements (references text)) : t.reachable inner ⊂ t.reachable text := by
  obtain ⟨r, hr, hreplaced⟩ := List.mem_filterMap.mp hinner
  obtain ⟨name, d, rfl, hbuiltIn, hd, hkind⟩ := replacement?_eq_some.mp hreplaced
  have hname : t.Names (references text) name := ⟨hr, hbuiltIn, by rw [hd]; rfl⟩
  have hrefers {first : String} (hfirst : t.Names (references inner) first) :
      t.Refers name first := ⟨d, inner, hd, hkind, hfirst⟩
  -- All that the replacement text leads to stays, and the entity that it replaces is lost.
  refine Finset.ssubset_iff_of_subset ?_ |>.mpr ⟨name, ?_, ?_⟩
  · intro other hother
    obtain ⟨hdeclared, first, hfirst, hreach⟩ := mem_reachable.mp hother
    exact mem_reachable.mpr ⟨hdeclared, name, hname, .head (hrefers hfirst) hreach⟩
  · obtain ⟨hmem, rfl⟩ := mem_of_find? hd
    exact mem_reachable.mpr ⟨List.mem_map_of_mem hmem, _, hname, .refl⟩
  · intro hback
    obtain ⟨_, first, hfirst, hreach⟩ := mem_reachable.mp hback
    exact h name (.head' (hrefers hfirst) hreach)

/-- The number of expansions in the tree below a text. -/
def expansionSize (t : EntityTable) (h : t.Acyclic) (text : String) : Nat :=
  ((t.replacements (references text)).attach.map fun inner =>
    1 + t.expansionSize h inner.1).sum
termination_by (t.reachable text).card
decreasing_by exact Finset.card_lt_card (reachable_ssubset h inner.2)

/-- The number of expansions in the trees below references. -/
def referencesSize (t : EntityTable) (h : t.Acyclic) (refs : List Reference) : Nat :=
  ((t.replacements refs).map fun inner => 1 + t.expansionSize h inner).sum

/-- Each reference to an entity counts once, and so does all that its replacement text leads to. -/
theorem expansionSize_eq (h : t.Acyclic) (text : String) :
    t.expansionSize h text = t.referencesSize h (references text) := by
  rw [expansionSize]
  exact congrArg List.sum (List.attach_map_val (f := fun inner => 1 + t.expansionSize h inner))

theorem referencesSize_cons (h : t.Acyclic) (r : Reference) (rest : List Reference) :
    t.referencesSize h (r :: rest) =
      ((t.replacement? r).elim 0 fun inner => 1 + t.expansionSize h inner) +
        t.referencesSize h rest := by
  unfold referencesSize replacements
  cases hr : t.replacement? r with
  | none => simp [hr]
  | some inner => simp [hr]

/-! ## Tables that need nothing else -/

/-- Every reference is terminated, and names a character or an entity that is there. -/
def Settles (t : EntityTable) (refs : List Reference) : Prop :=
  ∀ r ∈ refs, ∃ name, r = .named name ∧ (isBuiltIn name = true ∨ (t.general? name).isSome = true)

/-- A table of internal entities without recursion, of which no replacement text refers to anything
that is not there. -/
structure SelfContained (t : EntityTable) : Prop where
  internal : ∀ {name d}, t.general? name = some d → ∃ text, d.kind = .internal text
  acyclic : t.Acyclic
  settled : ∀ {name d text}, t.general? name = some d → d.kind = .internal text →
    t.Settles (references text)

theorem Settles.names {name : String} {rest : List Reference}
    (h : t.Settles (.named name :: rest)) (hbuiltIn : isBuiltIn name = false) :
    t.Names (.named name :: rest) name := by
  obtain ⟨_, hname, hthere⟩ := h _ List.mem_cons_self
  cases hname
  refine ⟨List.mem_cons_self, hbuiltIn, hthere.resolve_left ?_⟩
  rw [hbuiltIn]
  exact Bool.false_ne_true

/-- In a table of internal entities it is the table that says what refers to what. -/
theorem SelfContained.not_cycle (h : t.SelfContained) (ctx : CheckContext)
    (texts : ResourceId → String) (name : String) :
    ¬ TransGen (ReferenceGraph.Edge ⟨ctx, texts, t⟩) name name := by
  intro hcycle
  refine h.acyclic name (hcycle.lift id ?_)
  rintro a b ⟨d, text, hd, htext, hname⟩
  obtain ⟨own, hkind⟩ := h.internal hd
  rw [CheckContext.textOf?, hkind] at htext
  cases htext
  exact ⟨d, text, hd, hkind, hname⟩

end Dtd.EntityTable

/-! ## Spending -/

namespace Checked

variable {ctx : CheckContext} {t : Dtd.EntityTable} {x y : Checked Unit} {m n : Nat}

/-- From the pass on, the computation takes so many expansions from what the limit leaves, and
reports nothing; if the limit leaves fewer, the one beyond is counted and raised. -/
structure Spends (ctx : CheckContext) (n : Nat) (x : Checked Unit) (pass : Pass) : Prop where
  within : pass.expansions + n ≤ (ctx.policy.limit .entityExpansions).toNat →
    ∃ pass', x pass = .ok () pass' ∧ pass'.expansions = pass.expansions + n ∧
      pass'.ledger.reports = pass.ledger.reports
  beyond : (ctx.policy.limit .entityExpansions).toNat < pass.expansions + n →
    ∃ pass', x pass = .error (ctx.reporter.verdict
        (.fatal .entityExpansions [ctx.policy.limitArg .entityExpansions])) pass' ∧
      pass'.expansions = (ctx.policy.limit .entityExpansions).toNat + 1 ∧
      pass'.ledger.reports = pass.ledger.reports ++
        [⟨.fatal .entityExpansions [ctx.policy.limitArg .entityExpansions], ctx.reporter.records⟩]

/-- It does so from everywhere within the limit. -/
def AlwaysSpends (ctx : CheckContext) (n : Nat) (x : Checked Unit) : Prop :=
  ∀ pass, pass.expansions ≤ (ctx.policy.limit .entityExpansions).toNat → Spends ctx n x pass

theorem alwaysSpends_pure : AlwaysSpends ctx 0 (pure ()) := by
  intro pass hpass
  constructor
  · intro _
    exact ⟨pass, rfl, rfl, rfl⟩
  · intro hbeyond
    exact absurd hpass (Nat.not_le.mpr hbeyond)

theorem AlwaysSpends.bind (hx : AlwaysSpends ctx m x) (hy : AlwaysSpends ctx n y) :
    AlwaysSpends ctx (m + n) (x >>= fun _ => y) := by
  intro pass hpass
  have hfirst := hx pass hpass
  by_cases hm : pass.expansions + m ≤ (ctx.policy.limit .entityExpansions).toNat
  · obtain ⟨mid, hmid, hcount, hreports⟩ := hfirst.within hm
    have hsecond := hy mid (hcount.trans_le hm)
    have hrun : (x >>= fun _ => y) pass = y mid := bind_of_ok hmid
    constructor
    · intro hwithin
      obtain ⟨pass', hpass', hcount', hreports'⟩ := hsecond.within (by omega)
      exact ⟨pass', hrun.trans hpass', by omega, hreports'.trans hreports⟩
    · intro hbeyond
      obtain ⟨pass', hpass', hcount', hreports'⟩ := hsecond.beyond (by omega)
      exact ⟨pass', hrun.trans hpass', hcount', by rw [hreports', hreports]⟩
  · constructor
    · intro hwithin
      exact absurd hwithin (by omega)
    · intro _
      obtain ⟨pass', hpass', hstopped⟩ := hfirst.beyond (Nat.not_le.mp hm)
      exact ⟨pass', bind_of_error hpass', hstopped⟩

theorem alwaysSpends_countExpansion (name : String) (d : Dtd.EntityDecl) :
    AlwaysSpends ctx 1 (countExpansion ctx .general name d) := by
  intro pass _
  constructor
  · intro hwithin
    have hnone : ctx.policy.checkExpansions (pass.expansions + 1) = none := by
      rw [Policy.checkExpansions, if_neg]
      rw [Policy.exceeds_iff]
      exact Nat.not_lt.mpr hwithin
    rw [countExpansion_apply, hnone]
    exact ⟨_, rfl, rfl, rfl⟩
  · intro hbeyond
    have hsome : ctx.policy.checkExpansions (pass.expansions + 1) =
        some (.fatal .entityExpansions [ctx.policy.limitArg .entityExpansions]) := by
      rw [Policy.checkExpansions, if_pos (Policy.exceeds_iff.mpr hbeyond)]
    rw [countExpansion_apply, hsome, raiseIf_some]
    refine ⟨_, bind_of_error (raise_apply ctx _ _), ?_, rfl⟩
    have hnext : pass.expansions + 1 = (ctx.policy.limit .entityExpansions).toNat + 1 := by omega
    exact hnext

/-- The expansion of references spends what their trees come to. -/
theorem alwaysSpends_expandAll (ht : t.SelfContained) {opened : List String}
    {refs : List Reference} (hsettled : t.Settles refs)
    (hopened : ReferenceGraph.LedHere ⟨ctx, fun _ => "", t⟩ opened refs) :
    AlwaysSpends ctx (t.referencesSize ht.acyclic refs) (expandAll ctx t opened refs) := by
  induction opened, refs using expandAll.induct t with
  | case1 opened =>
      rw [expandAll]
      exact alwaysSpends_pure
  | case2 opened text rest =>
      obtain ⟨name, hname, _⟩ := hsettled _ List.mem_cons_self
      cases hname
  | case3 opened name rest inner outer =>
      have hrest := outer (fun r hr => hsettled r (List.mem_cons_of_mem _ hr)) hopened.tail
      rw [Dtd.EntityTable.referencesSize_cons]
      by_cases hbuiltIn : isBuiltIn name = true
      · have hnone : t.replacement? (.named name) = none := by
          simp only [Dtd.EntityTable.replacement?, if_pos hbuiltIn]
        rw [hnone, expandAll_named, expandReference, if_pos hbuiltIn]
        exact alwaysSpends_pure.bind hrest
      · have hname := hsettled.names (by simpa using hbuiltIn)
        obtain ⟨d, hd⟩ := Option.isSome_iff_exists.mp hname.declared
        obtain ⟨text, hkind⟩ := ht.internal hd
        have htext : CheckContext.textOf? ctx (fun _ => "") d = some text := by
          rw [CheckContext.textOf?, hkind]
        -- An open entity has led to this reference, so a reference to it would close a cycle.
        have ho : name ∉ opened := fun ho =>
          ht.not_cycle ctx _ name (hopened name ho name hname)
        have hinner := inner d hd ho text (ht.settled hd hkind) (hopened.inner hname hd htext)
        have hsome : t.replacement? (.named name) = some text :=
          Dtd.EntityTable.replacement?_eq_some.mpr ⟨name, d, rfl, hname.notBuiltIn, hd, hkind⟩
        rw [hsome, expandAll_internal rest hname.notBuiltIn hd hkind ho, Option.elim_some,
          Dtd.EntityTable.expansionSize_eq, Nat.add_assoc]
        exact (alwaysSpends_countExpansion name d).bind (hinner.bind hrest)

end Checked

/-- A text that is expanded with a table that needs nothing else, at a count within the limit: it
passes exactly if its tree fits into what the limit leaves, which is then what it has taken.
Otherwise the first expansion beyond the limit is raised. -/
theorem spends_expandText (ctx : CheckContext) {text : String} {pass : Pass}
    (htable : pass.table.SelfContained) (htext : pass.table.Settles (references text))
    (hcount : pass.expansions ≤ (ctx.policy.limit .entityExpansions).toNat) :
    Checked.Spends ctx (pass.table.expansionSize htable.acyclic text)
      (Checked.expandText ctx text) pass := by
  have hopened : ReferenceGraph.LedHere ⟨ctx, fun _ => "", pass.table⟩ [] (references text) := by
    intro a ha
    cases ha
  have hspends := Checked.alwaysSpends_expandAll htable htext hopened pass hcount
  rw [← Dtd.EntityTable.expansionSize_eq] at hspends
  exact ⟨hspends.within, hspends.beyond⟩

/-! ## An example -/

namespace ExpansionTree

/-- Two entities, of which the second refers to the first twice. -/
def twice : Dtd.EntityTable := ⟨[⟨"e", .internal "x"⟩, ⟨"f", .internal "&e;&e;"⟩], [], []⟩

theorem references_twice : references "x" = [] ∧ references "&e;&e;" = [.named "e", .named "e"] ∧
    references "&f;&amp;&f;" = [.named "f", .named "amp", .named "f"] := by decide +kernel

theorem twice_internal {name : String} {d : Dtd.EntityDecl} (h : twice.general? name = some d) :
    d = ⟨"e", .internal "x"⟩ ∨ d = ⟨"f", .internal "&e;&e;"⟩ := by
  have hmem := (Dtd.EntityTable.mem_of_find? h).1
  simpa [twice] using hmem

theorem twice_refers {a b : String} (h : twice.Refers a b) : a = "f" ∧ b = "e" := by
  obtain ⟨d, text, hd, hkind, hname⟩ := h
  obtain ⟨he, hf, _⟩ := references_twice
  have hmem := hname.mem
  have hown := (Dtd.EntityTable.mem_of_find? hd).2
  rcases twice_internal hd with rfl | rfl
  · cases hkind
    rw [he] at hmem
    cases hmem
  · cases hkind
    rw [hf] at hmem
    exact ⟨hown.symm, by simpa using hmem⟩

theorem selfContained_twice : twice.SelfContained where
  internal hd := by
    rcases twice_internal hd with rfl | rfl
    · exact ⟨_, rfl⟩
    · exact ⟨_, rfl⟩
  acyclic name hcycle := by
    obtain ⟨b, hfirst, _⟩ := TransGen.head'_iff.mp hcycle
    obtain ⟨c, _, hlast⟩ := TransGen.tail'_iff.mp hcycle
    have hsame := (twice_refers hfirst).1.symm.trans (twice_refers hlast).2
    revert hsame
    decide
  settled hd hkind := by
    obtain ⟨he, hf, _⟩ := references_twice
    rcases twice_internal hd with rfl | rfl
    · cases hkind
      rw [he]
      intro r hr
      cases hr
    · cases hkind
      rw [hf]
      intro r hr
      exact ⟨"e", by simpa using hr, .inr (by decide)⟩

theorem expansionSize_twice (h : twice.Acyclic) : twice.expansionSize h "&f;&amp;&f;" = 6 := by
  obtain ⟨he, hf, htext⟩ := references_twice
  have hreplaced : twice.replacement? (.named "e") = some "x" ∧
      twice.replacement? (.named "f") = some "&e;&e;" ∧
      twice.replacement? (.named "amp") = none := by decide
  obtain ⟨hre, hrf, hamp⟩ := hreplaced
  have hx : twice.expansionSize h "x" = 0 := by
    rw [Dtd.EntityTable.expansionSize_eq, he]
    rfl
  have hinner : twice.expansionSize h "&e;&e;" = 2 := by
    rw [Dtd.EntityTable.expansionSize_eq, hf]
    simp [Dtd.EntityTable.referencesSize, Dtd.EntityTable.replacements, hre, hx]
  rw [Dtd.EntityTable.expansionSize_eq, htext]
  simp [Dtd.EntityTable.referencesSize, Dtd.EntityTable.replacements, hrf, hamp, hinner]

/-- A check without external entities, with a limit for expansions. -/
def limited (n : Int32) : CheckContext :=
  { Plain.offline with policy := Policy.initial.setLimit .entityExpansions n }

/-- A check that has expanded one entity. -/
def begun : Pass := { Pass.start .empty with table := twice, expansions := 1 }

/-- Six more expansions take a limit of seven. -/
theorem expansions_twice :
    (∃ pass', Checked.expandText (limited 7) "&f;&amp;&f;" begun = .ok () pass' ∧
      pass'.expansions = 7) ∧
    ∃ pass', Checked.expandText (limited 6) "&f;&amp;&f;" begun =
        .error (.fatal (.fatal .entityExpansions [.number 6])) pass' ∧
      pass'.expansions = 7 := by
  have htable : begun.table.SelfContained := selfContained_twice
  have hsettled : begun.table.Settles (references "&f;&amp;&f;") := by
    rw [references_twice.2.2]
    intro r hr
    simp only [List.mem_cons, List.not_mem_nil, or_false] at hr
    rcases hr with rfl | rfl | rfl
    · exact ⟨"f", rfl, .inr (by decide)⟩
    · exact ⟨"amp", rfl, .inl (by decide)⟩
    · exact ⟨"f", rfl, .inr (by decide)⟩
  have hsize : begun.table.expansionSize htable.acyclic "&f;&amp;&f;" = 6 :=
    expansionSize_twice htable.acyclic
  have hseven := spends_expandText (limited 7) htable hsettled (by decide)
  have hsix := spends_expandText (limited 6) htable hsettled (by decide)
  rw [hsize] at hseven hsix
  constructor
  · obtain ⟨pass', hrun, hcount, _⟩ := hseven.within (by decide)
    exact ⟨pass', hrun, hcount⟩
  · obtain ⟨pass', hrun, hcount, _⟩ := hsix.beyond (by decide)
    exact ⟨pass', hrun, hcount⟩

end ExpansionTree

end XmlBounds
