import XmlBounds.Proofs.Resolution.Answers

/-!
# The rank of the sources of a limit

A limit is resolved from five sources in a fixed rank. A number that the caller sets is normalized;
one that comes from outside the program either holds as it is or lifts the limit, and a text that is
no number is passed over for the next source. Nothing that is said about another setting or a
feature has a part in it.
-/

namespace XmlBounds

/-- Every limit that the caller has set as a property is a number. -/
def Overrides.Numeric (o : Overrides) : Prop :=
  ∀ k v, o.settings (.limit k) = some v → ∃ n, v = .int n

theorem Overrides.numeric_none : Overrides.none.Numeric := by
  intro k v hv
  cases hv

theorem Overrides.Numeric.putLimit {o : Overrides} (h : o.Numeric) (k : LimitKind) (n : Int32) :
    (o.putSetting (.limit k) (.int n)).Numeric := by
  intro k' v hv
  by_cases hk : Setting.limit k' = .limit k
  · have hset : v = .int n := by simpa [putSetting, hk] using hv.symm
    exact ⟨n, hset⟩
  · exact h k' v (by simpa [putSetting, hk] using hv)

def ReadsLimit (raw : Option String) (n : Int32) : Prop :=
  ∃ text, raw = some text ∧ Text.readInt32 (Text.trim text.toList) = .ok n

/-- The limit that a number from outside the program stands for. -/
def limitOfSource (n : Int32) : Int32 := if 0 < n then n else Limit.unlimited.toInt32

/-- What a limit resolves to where the file and the process have these texts for it. -/
inductive Prevails (o : Overrides) (p : Policy) (k : LimitKind) (file process : Option String) :
    Resolved PropertyValue → Prop where
  | policy : p.isOwned (.limit k) = true →
      Prevails o p k file process ⟨p.value (.limit k), .callerPolicy⟩
  | property {n : Int32} : p.isOwned (.limit k) = false → o.settings (.limit k) = some (.int n) →
      Prevails o p k file process ⟨.int (Limit.normalize n).toInt32, .callerProperty⟩
  | file {n : Int32} : p.isOwned (.limit k) = false → o.settings (.limit k) = none →
      ReadsLimit file n →
      Prevails o p k file process ⟨.int (limitOfSource n), .deploymentFile⟩
  | process {n : Int32} : p.isOwned (.limit k) = false → o.settings (.limit k) = none →
      (∀ m, ¬ ReadsLimit file m) → ReadsLimit process n →
      Prevails o p k file process ⟨.int (limitOfSource n), .processProperty⟩
  | default : p.isOwned (.limit k) = false → o.settings (.limit k) = none →
      (∀ m, ¬ ReadsLimit file m) → (∀ m, ¬ ReadsLimit process m) →
      Prevails o p k file process ⟨.int (defaultLimit k), .default⟩

theorem ReadsLimit.unique {raw : Option String} {m n : Int32} (h : ReadsLimit raw m)
    (h' : ReadsLimit raw n) : m = n := by
  obtain ⟨text, rfl, hm⟩ := h
  obtain ⟨text', htext, hn⟩ := h'
  cases htext
  have hsame := hm.symm.trans hn
  cases hsame
  rfl

theorem not_readsLimit_none (n : Int32) : ¬ ReadsLimit none n := by
  rintro ⟨text, htext, _⟩
  cases htext

theorem not_readsLimit_of_error {text : String} {fault : Text.IntegerFault} (n : Int32)
    (h : Text.readInt32 (Text.trim text.toList) = .error fault) : ¬ ReadsLimit (some text) n := by
  rintro ⟨text', htext, hn⟩
  cases htext
  rw [h] at hn
  cases hn

structure AgreeOn (k : LimitKind) (o o' : Overrides) (p p' : Policy) : Prop where
  property : o'.settings (.limit k) = o.settings (.limit k)
  owner : p'.isOwned (.limit k) = p.isOwned (.limit k)
  value : p.isOwned (.limit k) = true → p'.value (.limit k) = p.value (.limit k)

namespace Prevails

variable {o o' : Overrides} {p p' : Policy} {k : LimitKind} {file process : Option String}
  {v w : Resolved PropertyValue}

/-- Only what is said about the limit itself has a part in its value. -/
theorem congr (h : Prevails o p k file process v) (hagree : AgreeOn k o o' p p') :
    Prevails o' p' k file process v := by
  obtain ⟨hproperty, howner, hvalue⟩ := hagree
  cases h with
  | policy howned =>
      rw [← hvalue howned]
      exact .policy (howner.trans howned)
  | property hfree hset => exact .property (howner.trans hfree) (hproperty.trans hset)
  | file hfree hnone hfile => exact .file (howner.trans hfree) (hproperty.trans hnone) hfile
  | process hfree hnone hfile hprocess =>
      exact .process (howner.trans hfree) (hproperty.trans hnone) hfile hprocess
  | default hfree hnone hfile hprocess =>
      exact .default (howner.trans hfree) (hproperty.trans hnone) hfile hprocess

theorem eq_policy (h : Prevails o p k file process v) (howned : p.isOwned (.limit k) = true) :
    v = ⟨p.value (.limit k), .callerPolicy⟩ := by
  cases h with
  | policy _ => rfl
  | property hfree _ | file hfree _ _ | process hfree _ _ _ | default hfree _ _ _ =>
      rw [howned] at hfree
      cases hfree

theorem eq_property {n : Int32} (h : Prevails o p k file process v)
    (hfree : p.isOwned (.limit k) = false) (hset : o.settings (.limit k) = some (.int n)) :
    v = ⟨.int (Limit.normalize n).toInt32, .callerProperty⟩ := by
  cases h with
  | policy howned =>
      rw [hfree] at howned
      cases howned
  | property _ hset' =>
      rw [hset] at hset'
      cases hset'
      rfl
  | file _ hnone _ | process _ hnone _ _ | default _ hnone _ _ =>
      rw [hset] at hnone
      cases hnone

theorem eq_of_sources (h : Prevails o p k file process v) (h' : Prevails o p k file process w)
    (hfree : p.isOwned (.limit k) = false) (hnone : o.settings (.limit k) = none) : v = w := by
  have hcases : ∀ {u}, Prevails o p k file process u →
      (∃ n, ReadsLimit file n ∧ u = ⟨.int (limitOfSource n), .deploymentFile⟩) ∨
      (∀ m, ¬ ReadsLimit file m) ∧
        ((∃ n, ReadsLimit process n ∧ u = ⟨.int (limitOfSource n), .processProperty⟩) ∨
          (∀ m, ¬ ReadsLimit process m) ∧ u = ⟨.int (defaultLimit k), .default⟩) := by
    intro u hu
    cases hu with
    | policy howned =>
        rw [hfree] at howned
        cases howned
    | property _ hset =>
        rw [hnone] at hset
        cases hset
    | file _ _ hfile => exact .inl ⟨_, hfile, rfl⟩
    | process _ _ hfile hprocess => exact .inr ⟨hfile, .inl ⟨_, hprocess, rfl⟩⟩
    | default _ _ hfile hprocess => exact .inr ⟨hfile, .inr ⟨hprocess, rfl⟩⟩
  rcases hcases h with ⟨n, hfile, rfl⟩ | ⟨hfile, hv⟩
  · rcases hcases h' with ⟨m, hfile', rfl⟩ | ⟨hfile', _⟩
    · rw [hfile.unique hfile']
    · exact absurd hfile (hfile' n)
  · rcases hcases h' with ⟨m, hfile', _⟩ | ⟨_, hw⟩
    · exact absurd hfile' (hfile m)
    · rcases hv with ⟨n, hprocess, rfl⟩ | ⟨hprocess, rfl⟩
      · rcases hw with ⟨m, hprocess', rfl⟩ | ⟨hprocess', _⟩
        · rw [hprocess.unique hprocess']
        · exact absurd hprocess (hprocess' n)
      · rcases hw with ⟨m, hprocess', _⟩ | ⟨_, rfl⟩
        · exact absurd hprocess' (hprocess m)
        · rfl

theorem unique (h : Prevails o p k file process v) (h' : Prevails o p k file process w) :
    v = w := by
  cases h with
  | policy howned => exact (h'.eq_policy howned).symm
  | property hfree hset => exact (h'.eq_property hfree hset).symm
  | file hfree hnone hfile => exact eq_of_sources (.file hfree hnone hfile) h' hfree hnone
  | process hfree hnone hfile hprocess =>
      exact eq_of_sources (.process hfree hnone hfile hprocess) h' hfree hnone
  | default hfree hnone hfile hprocess =>
      exact eq_of_sources (.default hfree hnone hfile hprocess) h' hfree hnone

end Prevails

/-! ## The sources outside the program -/

namespace Sources

variable {σ : Type}

/-- Asked for the property one after the other, at some moment, the sources answer so. -/
def Supplies (sources : Sources (StateM σ)) (name : String) (file process : Option String) :
    Prop :=
  ∃ s, (sources.deployment name s).1 = file ∧
    (sources.process name (sources.deployment name s).2).1 = process

/-- The sources answer so whenever they are asked for the property. -/
def Steady (sources : Sources (StateM σ)) (name : String) (file process : Option String) : Prop :=
  ∀ s, (sources.deployment name s).1 = file ∧ (sources.process name s).1 = process

theorem Supplies.eq_of_steady {sources : Sources (StateM σ)} {name : String}
    {file file' process process' : Option String} (h : sources.Supplies name file process)
    (h' : sources.Steady name file' process') : file = file' ∧ process = process' := by
  obtain ⟨s, rfl, rfl⟩ := h
  exact ⟨(h' s).1, (h' _).2⟩

theorem steady_ofProperties (deployment process : Properties) (name : String) :
    (ofProperties deployment process : Sources (StateM Unit)).Steady name
      (deployment.find? name) (process.find? name) := fun _ => ⟨rfl, rfl⟩

variable {text : String}

theorem firstLimit_of_ok {n : Int32} (h : Text.readInt32 (Text.trim text.toList) = .ok n)
    (fallback : Int32) (origin : Origin) (rest : List (Resolved String)) :
    firstLimit fallback (⟨text, origin⟩ :: rest) = ⟨limitOfSource n, origin⟩ := by
  simp only [firstLimit, h, limitOfSource]

theorem firstLimit_of_error {fault : Text.IntegerFault}
    (h : Text.readInt32 (Text.trim text.toList) = .error fault)
    (fallback : Int32) (origin : Origin) (rest : List (Resolved String)) :
    firstLimit fallback (⟨text, origin⟩ :: rest) = firstLimit fallback rest := by
  simp only [firstLimit, h]

end Sources

section Ranking

variable {o : Overrides} {p : Policy} {k : LimitKind} {file process : Option String}

theorem prevails_of_process (hfree : p.isOwned (.limit k) = false)
    (hnone : o.settings (.limit k) = none) (hfile : ∀ m, ¬ ReadsLimit file m) :
    Prevails o p k file process
      ((Sources.firstLimit (defaultLimit k)
        (process.map (⟨·, .processProperty⟩)).toList).map .int) := by
  cases process with
  | none => exact .default hfree hnone hfile not_readsLimit_none
  | some text =>
      simp only [Option.map_some, Option.toList_some]
      cases hread : Text.readInt32 (Text.trim text.toList) with
      | ok n =>
          rw [Sources.firstLimit_of_ok hread]
          exact .process hfree hnone hfile ⟨text, rfl, hread⟩
      | error fault =>
          rw [Sources.firstLimit_of_error hread]
          exact .default hfree hnone hfile fun m => not_readsLimit_of_error m hread

theorem prevails_of_candidates (hfree : p.isOwned (.limit k) = false)
    (hnone : o.settings (.limit k) = none) :
    Prevails o p k file process
      ((Sources.firstLimit (defaultLimit k)
        ((file.map (⟨·, .deploymentFile⟩)).toList ++
          (process.map (⟨·, .processProperty⟩)).toList)).map .int) := by
  cases file with
  | none => exact prevails_of_process hfree hnone not_readsLimit_none
  | some text =>
      simp only [Option.map_some, Option.toList_some, List.singleton_append]
      cases hread : Text.readInt32 (Text.trim text.toList) with
      | ok n =>
          rw [Sources.firstLimit_of_ok hread]
          exact .file hfree hnone ⟨text, rfl, hread⟩
      | error fault =>
          rw [Sources.firstLimit_of_error hread]
          exact prevails_of_process hfree hnone fun m => not_readsLimit_of_error m hread

end Ranking

/-! ## Success -/

variable {σ ε α β : Type}

/-- From every state the computation succeeds, with a result of the kind. -/
def Succeeds (x : ExceptT ε (StateM σ) α) (P : α → Prop) : Prop :=
  ∀ s, ∃ a t, x.run s = (.ok a, t) ∧ P a

theorem succeeds_pure {a : α} {P : α → Prop} (h : P a) :
    Succeeds (pure a : ExceptT ε (StateM σ) α) P := fun s => ⟨a, s, rfl, h⟩

theorem succeeds_lift (x : StateM σ α) :
    Succeeds (liftM x : ExceptT ε (StateM σ) α) fun _ => True :=
  fun s => ⟨(x s).1, (x s).2, rfl, trivial⟩

theorem succeeds_bind {x : ExceptT ε (StateM σ) α} {f : α → ExceptT ε (StateM σ) β}
    {P : α → Prop} {Q : β → Prop} (hx : Succeeds x P) (hf : ∀ a, P a → Succeeds (f a) Q) :
    Succeeds (x >>= f) Q := by
  intro s
  obtain ⟨a, t, hrun, ha⟩ := hx s
  obtain ⟨b, u, hrun', hb⟩ := hf a ha t
  refine ⟨b, u, ?_, hb⟩
  have hbind : (x >>= f).run s = ExceptT.bindCont f (x.run s).1 (x.run s).2 := rfl
  rw [hbind, hrun]
  exact hrun'

theorem succeeds_limits {f : LimitKind → ExceptT ε (StateM σ) α} {P : LimitKind → α → Prop}
    (h : ∀ k, Succeeds (f k) (P k)) :
    Succeeds (LimitKind.tabulateM f) fun g => ∀ k, P k (g k) := by
  unfold LimitKind.tabulateM
  refine succeeds_bind (h .entityExpansions) fun _ h₁ => ?_
  refine succeeds_bind (h .elementAttributes) fun _ h₂ => ?_
  refine succeeds_bind (h .elementDepth) fun _ h₃ => ?_
  refine succeeds_bind (h .maxOccurs) fun _ h₄ => ?_
  refine succeeds_bind (h .generalEntitySize) fun _ h₅ => ?_
  refine succeeds_bind (h .parameterEntitySize) fun _ h₆ => ?_
  refine succeeds_bind (h .totalEntitySize) fun _ h₇ => succeeds_pure ?_
  intro k
  cases k <;> assumption

/-- The value prevails over what the sources answered when they were asked for the limit. -/
def PrevailsAt (sources : Sources (StateM σ)) (o : Overrides) (p : Policy) (k : LimitKind)
    (v : Resolved PropertyValue) : Prop :=
  ∃ file process, sources.Supplies k.propertyName file process ∧ Prevails o p k file process v

section Resolving

variable {o : Overrides}

theorem PrevailsAt.of_steady {sources : Sources (StateM σ)} {p : Policy} {k : LimitKind}
    {file process : Option String} {v : Resolved PropertyValue} (h : PrevailsAt sources o p k v)
    (hsteady : sources.Steady k.propertyName file process) : Prevails o p k file process v := by
  obtain ⟨file', process', hsupplies, hv⟩ := h
  obtain ⟨rfl, rfl⟩ := hsupplies.eq_of_steady hsteady
  exact hv

theorem succeeds_limit (ho : o.Numeric) (sources : Sources (StateM σ)) (p : Policy) (s : σ)
    (k : LimitKind) :
    Succeeds (Resolve.limit sources o p k) (PrevailsAt sources o p k) := by
  -- Where no source is asked, any answers will do: those of the given state.
  have hasked : ∀ {v}, (∀ file process, Prevails o p k file process v) →
      PrevailsAt sources o p k v := by
    intro v hv
    exact ⟨_, _, ⟨s, rfl, rfl⟩, hv _ _⟩
  unfold Resolve.limit
  split
  · next howned => exact succeeds_pure (hasked fun _ _ => .policy howned)
  · next howned =>
      have hfree : p.isOwned (.limit k) = false := by simpa [Policy.isOwned] using howned
      split
      · next v hset =>
          obtain ⟨n, rfl⟩ := ho k v hset
          let asked : ExceptT ValueFault (StateM σ) Int32 :=
            ExceptT.mk (pure (PropertyValue.int n).asLimit)
          have hvalue : Succeeds asked (· = n) := fun t => ⟨n, t, rfl, rfl⟩
          refine succeeds_bind hvalue ?_
          rintro _ rfl
          exact succeeds_pure (hasked fun _ _ => .property hfree hset)
      · next hnone =>
          intro t
          exact ⟨_, _, rfl, _, _, ⟨t, rfl, rfl⟩, prevails_of_candidates hfree hnone⟩

theorem succeeds_resolve (ho : o.Numeric) (sources : Sources (StateM σ)) (p : Policy) (s : σ) :
    Succeeds (resolve sources o p) fun r =>
      ∀ k, PrevailsAt sources o p k (r.setting (.limit k)) := by
  refine succeeds_bind (succeeds_limits (succeeds_limit ho sources p s)) fun limits hlimits => ?_
  refine succeeds_bind (succeeds_lift _) fun gate _ => ?_
  refine succeeds_bind (succeeds_lift _) fun lists _ => succeeds_pure ?_
  exact hlimits

end Resolving

/-- If the limits that the caller has set are numbers, resolution succeeds, and each limit has the
value that prevails by its rank. Another resolution, whatever its features, its other settings and
the other fields of its policy, gives a limit the same value if the two agree about that limit and
their sources have the same to say of it whenever they are asked. -/
theorem exists_resolve_prevails {o : Overrides} (ho : o.Numeric) (sources : Sources (StateM σ))
    (p : Policy) (s : σ) :
    ∃ r t, (resolve sources o p).run s = (.ok r, t) ∧ ∀ k,
      (∃ file process, sources.Supplies k.propertyName file process ∧
        Prevails o p k file process (r.setting (.limit k))) ∧
      ∀ {σ' : Type} (sources' : Sources (StateM σ')) (o' : Overrides) (p' : Policy) (s' : σ')
        (file process : Option String), o'.Numeric → AgreeOn k o o' p p' →
        sources.Steady k.propertyName file process →
        sources'.Steady k.propertyName file process →
        ∃ r' t', (resolve sources' o' p').run s' = (.ok r', t') ∧
          r'.setting (.limit k) = r.setting (.limit k) := by
  obtain ⟨r, t, hrun, hlimits⟩ := succeeds_resolve ho sources p s s
  refine ⟨r, t, hrun, fun k => ⟨hlimits k, ?_⟩⟩
  intro σ' sources' o' p' s' file process ho' hagree hsteady hsteady'
  obtain ⟨r', t', hrun', hlimits'⟩ := succeeds_resolve ho' sources' p' s' s'
  refine ⟨r', t', hrun', ?_⟩
  have hv := ((hlimits k).of_steady hsteady).congr hagree
  exact ((hlimits' k).of_steady hsteady').unique hv

/-- Sources of which the file has a text that is no number for a limit, and the process a number. -/
def misspelled : Sources (StateM Unit) :=
  .ofProperties (Properties.empty.insert "jdk.xml.maxOccur" "many")
    (Properties.empty.insert "jdk.xml.maxOccur" " 42 ")

def negativeDepth : Overrides := Overrides.none.putSetting (.limit .elementDepth) (.int (-7))

/-- A caller who has turned secure processing off and has nothing to say about depth. -/
def insecure : Overrides :=
  (Overrides.none.putFeature .secureProcessing false).putSetting (.limit .elementAttributes)
    (.int 3)

/-- The process is listened to where the file has no number, and the caller before either. What
anyone says about the depth makes no difference to the occurrences. -/
theorem exists_resolve_misspelled : negativeDepth.Numeric ∧ insecure.Numeric ∧ ∃ r t,
    (resolve misspelled negativeDepth .initial).run () = (.ok r, t) ∧
      r.setting (.limit .maxOccurs) = ⟨.int 42, .processProperty⟩ ∧
      r.setting (.limit .elementDepth) = ⟨.int 0, .callerProperty⟩ ∧ ∃ r' t',
        (resolve misspelled insecure (Policy.initial.setLimit .elementDepth 9)).run () =
          (.ok r', t') ∧
        r'.setting (.limit .maxOccurs) = r.setting (.limit .maxOccurs) := by
  have hnumeric : negativeDepth.Numeric := Overrides.numeric_none.putLimit _ _
  have hinsecure : insecure.Numeric := by
    have hoff : (Overrides.none.putFeature .secureProcessing false).Numeric :=
      Overrides.numeric_none
    exact hoff.putLimit _ _
  obtain ⟨r, t, hrun, hlimits⟩ := exists_resolve_prevails hnumeric misspelled .initial ()
  refine ⟨hnumeric, hinsecure, r, t, hrun, ?_, ?_, ?_⟩
  · obtain ⟨⟨file, process, hsupplies, hprevails⟩, _⟩ := hlimits .maxOccurs
    obtain ⟨rfl, rfl⟩ := hsupplies.eq_of_steady (Sources.steady_ofProperties _ _ _)
    have hfile : ∀ m, ¬ ReadsLimit (some "many") m :=
      fun m => not_readsLimit_of_error m (by rfl)
    have hprocess : ReadsLimit (some " 42 ") 42 := ⟨" 42 ", rfl, by rfl⟩
    exact hprevails.unique (.process rfl rfl hfile hprocess)
  · obtain ⟨⟨file, process, _, hprevails⟩, _⟩ := hlimits .elementDepth
    exact hprevails.eq_property rfl rfl
  · have hagree : AgreeOn .maxOccurs negativeDepth insecure .initial
        (Policy.initial.setLimit .elementDepth 9) := ⟨rfl, rfl, fun _ => rfl⟩
    exact (hlimits .maxOccurs).2 misspelled insecure _ () _ _ hinsecure hagree
      (Sources.steady_ofProperties _ _ _) (Sources.steady_ofProperties _ _ _)

end XmlBounds
