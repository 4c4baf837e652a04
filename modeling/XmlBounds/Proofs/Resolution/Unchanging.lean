import Mathlib.Logic.Relation
import XmlBounds.Properties.Deployment
import XmlBounds.Proofs.Resolution.Precedence
import XmlBounds.Proofs.Resolution.Writing

/-!
# Resolution over sources that do not change

Asking a source may have an effect on it, as reading a file into a cache has. While the answers stay
the same in spite of that, a resolution depends on nothing but what the caller has set as properties
and what he owns on the policy, and so does the policy that it is written to.
-/

namespace XmlBounds

namespace Sources

variable {σ : Type} {sources : Sources (StateM σ)} {file process : String → Option String} {s t : σ}

/-- What becomes of the sources when one of them is asked for a property. -/
inductive Asked (sources : Sources (StateM σ)) (s : σ) : σ → Prop where
  | deployment (name : String) : Asked sources s (sources.deployment name s).2
  | process (name : String) : Asked sources s (sources.process name s).2

/-- The file and the process answer so from the state on, whatever they are asked. -/
def Unchanging (sources : Sources (StateM σ)) (file process : String → Option String) (s : σ) :
    Prop :=
  ∀ t, Relation.ReflTransGen sources.Asked s t → ∀ name,
    (sources.deployment name t).1 = file name ∧ (sources.process name t).1 = process name

theorem Unchanging.answers (h : sources.Unchanging file process s) (name : String) :
    (sources.deployment name s).1 = file name ∧ (sources.process name s).1 = process name :=
  h s .refl name

theorem Unchanging.asked (h : sources.Unchanging file process s) (hasked : sources.Asked s t) :
    sources.Unchanging file process t := by
  intro u hu
  exact h u (.head hasked hu)

end Sources

/-- Once no change of the properties file is coming, its sources do not change, although the first
to ask has the file read. -/
theorem Deployment.unchanging {d : Deployment} (h : d.coming = []) (process : Properties) :
    (sources process).Unchanging (d.cache.find? d.file) process.find? d := by
  obtain ⟨cache, file, _⟩ := d
  cases h
  let fresh : Deployment := ⟨cache, file, []⟩
  let read : Deployment := ⟨cache.refresh file, file, []⟩
  have hread : ∀ name, find? name fresh = (cache.find? file name, read) := fun _ => rfl
  have hagain : ∀ name, find? name read = (cache.find? file name, read) := by
    intro name
    have hstate : find? name read = (((cache.refresh file).refresh file).properties.bind
        (·.find? name), ⟨(cache.refresh file).refresh file, file, []⟩) := rfl
    rw [hstate, PropertiesCache.refresh_refresh]
    rfl
  -- The cache is as it was found, or as the first look at the file has left it.
  have hstates : ∀ t, Relation.ReflTransGen (sources process).Asked fresh t →
      t = fresh ∨ t = read := by
    intro t ht
    induction ht with
    | refl => exact .inl rfl
    | tail _ hasked ih =>
        cases hasked with
        | process _ => exact ih
        | deployment name =>
            right
            rcases ih with rfl | rfl
            · exact congrArg Prod.snd (hread name)
            · exact congrArg Prod.snd (hagain name)
  intro t ht name
  refine ⟨?_, rfl⟩
  rcases hstates t ht with rfl | rfl
  · exact congrArg Prod.fst (hread name)
  · exact congrArg Prod.fst (hagain name)

/-! ## What can be foretold -/

section Foretelling

variable {σ ε α β : Type} {I : σ → Prop}

/-- From every state of the kind the computation gives the same, and it leads to one of the kind. -/
def Foretold (I : σ → Prop) (x : StateM σ α) : Prop := ∃ a, ∀ s, I s → (x s).1 = a ∧ I (x s).2

theorem foretold_pure (a : α) : Foretold I (pure a) := ⟨a, fun _ hs => ⟨rfl, hs⟩⟩

theorem foretold_bind {x : StateM σ α} {f : α → StateM σ β} (hx : Foretold I x)
    (hf : ∀ a, Foretold I (f a)) : Foretold I (x >>= f) := by
  obtain ⟨a, ha⟩ := hx
  obtain ⟨b, hb⟩ := hf a
  refine ⟨b, ?_⟩
  intro s hs
  obtain ⟨hvalue, hkind⟩ := ha s hs
  have hbind : (x >>= f) s = f (x s).1 (x s).2 := rfl
  rw [hbind, hvalue]
  exact hb _ hkind

theorem foretold_bindExcept {x : ExceptT ε (StateM σ) α} {f : α → ExceptT ε (StateM σ) β}
    (hx : Foretold I x.run) (hf : ∀ a, Foretold I (f a).run) : Foretold I (x >>= f).run := by
  have hbind : (x >>= f).run = x.run >>= ExceptT.bindCont f := rfl
  rw [hbind]
  refine foretold_bind hx ?_
  intro answer
  cases answer with
  | ok a => exact hf a
  | error fault => exact foretold_pure _

theorem foretold_lift {x : StateM σ α} (hx : Foretold I x) :
    Foretold I (liftM x : ExceptT ε (StateM σ) α).run :=
  foretold_bind hx fun _ => foretold_pure _

theorem foretold_limits {f : LimitKind → ExceptT ε (StateM σ) α}
    (h : ∀ k, Foretold I (f k).run) : Foretold I (LimitKind.tabulateM f).run := by
  unfold LimitKind.tabulateM
  iterate 7
    refine foretold_bindExcept (h _) ?_
    intro _
  exact foretold_pure _

theorem foretold_lists {f : AccessList → StateM σ α} (h : ∀ a, Foretold I (f a)) :
    Foretold I (AccessList.tabulateM f) := by
  unfold AccessList.tabulateM
  refine foretold_bind (h _) fun _ => ?_
  exact foretold_bind (h _) fun _ => foretold_pure _

end Foretelling

section Resolving

variable {σ : Type} {sources : Sources (StateM σ)} {file process : String → Option String}

theorem foretold_candidates (sources : Sources (StateM σ)) (file process : String → Option String)
    (name : String) :
    Foretold (sources.Unchanging file process) (sources.candidates name) := by
  have hfile : Foretold (sources.Unchanging file process) (sources.deployment name) :=
    ⟨file name, fun _ hs => ⟨(hs.answers name).1, hs.asked (.deployment name)⟩⟩
  have hprocess : Foretold (sources.Unchanging file process) (sources.process name) :=
    ⟨process name, fun _ hs => ⟨(hs.answers name).2, hs.asked (.process name)⟩⟩
  exact foretold_bind hfile fun _ => foretold_bind hprocess fun _ => foretold_pure _

variable (o : Overrides) (p : Policy)

theorem foretold_limit (k : LimitKind) :
    Foretold (sources.Unchanging file process) (Resolve.limit sources o p k).run := by
  unfold Resolve.limit
  split
  · exact foretold_pure _
  · split
    · exact foretold_bindExcept (foretold_pure _) fun _ => foretold_pure _
    · have hfound := foretold_bind (foretold_candidates sources file process k.propertyName)
        fun found => foretold_pure (Sources.firstLimit (defaultLimit k) found)
      exact foretold_bindExcept (foretold_lift hfound) fun _ => foretold_pure _

theorem foretold_gate (isSecure : Bool) :
    Foretold (sources.Unchanging file process) (Resolve.gate sources isSecure) := by
  unfold Resolve.gate
  split
  · have hswitch := foretold_bind
      (foretold_candidates sources file process resolveExternalEntities)
      fun found => foretold_pure (Sources.firstSwitch false found)
    exact foretold_bind hswitch fun _ => foretold_pure _
  · exact foretold_pure _

theorem foretold_access (gate : Resolved Bool) (a : AccessList) :
    Foretold (sources.Unchanging file process) (Resolve.access sources o p gate a) := by
  unfold Resolve.access
  split
  · exact foretold_pure _
  · split
    · exact foretold_pure _
    · split
      · have htext := foretold_bind (foretold_candidates sources file process a.propertyName)
          fun found => foretold_pure (Sources.firstText (Resolve.listOfGate gate.value) found)
        exact foretold_bind htext fun _ => foretold_pure _
      · exact foretold_pure _

/-- Over sources that do not change, everything resolves to the same at any time. -/
theorem foretold_resolve :
    Foretold (sources.Unchanging file process) (resolve sources o p).run := by
  unfold resolve
  refine foretold_bindExcept (foretold_limits (foretold_limit o p)) fun _ => ?_
  refine foretold_bindExcept (foretold_lift (foretold_gate o.isSecure)) fun gate => ?_
  refine foretold_bindExcept (foretold_lift (foretold_lists ?_)) fun _ => foretold_pure _
  exact foretold_access o p gate

end Resolving

/-! ## Policies owned alike -/

namespace Policy

variable {p q : Policy}

/-- The caller owns the same settings on both policies, with the same values. -/
structure OwnsAlike (p q : Policy) : Prop where
  owner : ∀ t, q.isOwned t = p.isOwned t
  value : ∀ t, p.isOwned t = true → q.value t = p.value t

theorem OwnsAlike.refl (p : Policy) : p.OwnsAlike p := ⟨fun _ => rfl, fun _ _ => rfl⟩

theorem OwnsAlike.symm (h : p.OwnsAlike q) : q.OwnsAlike p := by
  refine ⟨fun t => (h.owner t).symm, ?_⟩
  intro t howned
  exact (h.value t ((h.owner t).symm.trans howned)).symm

theorem OwnsAlike.trans {q' : Policy} (h : p.OwnsAlike q) (h' : q.OwnsAlike q') :
    p.OwnsAlike q' := by
  refine ⟨fun t => (h'.owner t).trans (h.owner t), ?_⟩
  intro t howned
  exact (h'.value t ((h.owner t).trans howned)).trans (h.value t howned)

theorem OwnsAlike.disown (h : p.OwnsAlike q) (t : Setting) :
    (p.disown t).OwnsAlike (q.disown t) := by
  constructor
  · intro u
    simp [h.owner]
  · intro u howned
    rw [isOwned_disown] at howned
    split at howned
    · cases howned
    · simpa using h.value u howned

theorem ext_value (hvalue : ∀ t, p.value t = q.value t) (howner : ∀ t, p.isOwned t = q.isOwned t) :
    p = q := by
  apply ext_entries
  · intro k
    have hint : (p.limit k).toInt32 = (q.limit k).toInt32 :=
      PropertyValue.int.inj (hvalue (.limit k))
    have hnat := congrArg Int32.toInt hint
    rw [Limit.toInt_toInt32, Limit.toInt_toInt32] at hnat
    have hlimit : p.limit k = q.limit k := by
      cases hp : p.limit k
      cases hq : q.limit k
      rw [hp, hq] at hnat
      cases hnat
      rfl
    have howned := howner (.limit k)
    cases hp : p.limitEntry k
    cases hq : q.limitEntry k
    simp_all [limit, isOwned]
  · intro a
    have hlist : p.access a = q.access a := by
      have htext := congrArg PropertyValue.asText (hvalue (.access a))
      simpa [value] using htext
    have howned := howner (.access a)
    cases hp : p.accessEntry a
    cases hq : q.accessEntry a
    simp_all [access, isOwned]

end Policy

section Alike

variable {σ : Type} {p q p' q' : Policy} {o : Overrides} {r : Resolution}

theorem resolve_congr (h : p.OwnsAlike q) (sources : Sources (StateM σ)) (o : Overrides) :
    resolve sources o q = resolve sources o p := by
  have hlimit : Resolve.limit sources o q = Resolve.limit sources o p := by
    funext k
    have howner : (q.limitEntry k).isOwned = (p.limitEntry k).isOwned := h.owner (.limit k)
    unfold Resolve.limit
    rw [howner]
    split
    · next howned => rw [h.value (.limit k) howned]
    · rfl
  have haccess : Resolve.access sources o q = Resolve.access sources o p := by
    funext gate a
    have howner : (q.accessEntry a).isOwned = (p.accessEntry a).isOwned := h.owner (.access a)
    unfold Resolve.access
    rw [howner]
    split
    · next howned => rw [h.value (.access a) howned]
    · rfl
  unfold resolve
  rw [hlimit, haccess]

theorem ResolvesTo.origin_iff {t : Setting} {v : Resolved PropertyValue} (h : ResolvesTo o p t v) :
    v.origin = .callerPolicy ↔ p.isOwned t = true := by
  cases h with
  | owned howned => exact iff_of_true rfl howned
  | limitProperty hfree _ _ | listProperty hfree _ =>
      refine iff_of_false (by simp) ?_
      simp [hfree]
  | limitSource hfree _ _ horigin | listSource hfree _ horigin =>
      refine iff_of_false ?_ (by simp [hfree])
      rintro rfl
      cases horigin

theorem PropertyValue.KeptAs.unique {t : Setting} {v live live' : PropertyValue}
    (h : KeptAs t v live) (h' : KeptAs t v live') : live = live' := by
  cases h with
  | limit hn =>
      cases h' with
      | limit hn' =>
          rw [hn] at hn'
          cases hn'
          rfl
  | list htext =>
      cases h' with
      | list htext' =>
          rw [htext] at htext'
          cases htext'
          rfl

/-- What is written to policies that are owned alike makes them equal. -/
theorem eq_of_applyTo (halike : p.OwnsAlike q)
    (howned : ∀ t, (r.setting t).origin = .callerPolicy → p.isOwned t = true)
    (hp : r.applyTo p = .ok () p') (hq : r.applyTo q = .ok () q') : p' = q' := by
  obtain ⟨hframe, howner⟩ := Resolution.frame_of_applyAll hp
  obtain ⟨hframe', howner'⟩ := Resolution.frame_of_applyAll hq
  apply Policy.ext_value
  · intro t
    by_cases horigin : (r.setting t).origin = .callerPolicy
    · calc
        p'.value t = p.value t := hframe t (.inr horigin)
        _ = q.value t := (halike.value t (howned t horigin)).symm
        _ = q'.value t := (hframe' t (.inr horigin)).symm
    · have hkept := Resolution.keptAs_of_applyAll hp (Setting.mem_all t) horigin
      exact hkept.unique (Resolution.keptAs_of_applyAll hq (Setting.mem_all t) horigin)
  · intro t
    calc
      p'.isOwned t = p.isOwned t := howner t
      _ = q.isOwned t := (halike.owner t).symm
      _ = q'.isOwned t := (howner' t).symm

end Alike

end XmlBounds
