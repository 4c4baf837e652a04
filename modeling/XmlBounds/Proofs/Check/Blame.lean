import XmlBounds.Proofs.Check.Accounts

/-!
# Who speaks of recursion

Counting, gating, fetching and reading have much to complain about, but never that a reference is
recursive. A fault that says so all the same is one that the reporter gave for another diagnostic,
or the answer of the installed resolver.
-/

namespace XmlBounds

/-- The fault is the diagnostic of a recursive reference. -/
def Fault.IsRecursion : Fault → Prop
  | .fatal d => d.key = .recursiveReference
  | _ => False

/-- What was reported meanwhile says nothing of recursion. -/
def Ledger.Quiet (l l' : Ledger) : Prop :=
  l.SilentOn .recursiveReference l'

/-- The reporter gives the fault for a diagnostic that is not about recursion, or the installed
resolver answers with it. -/
def CheckContext.Excuses (ctx : CheckContext) (fault : Fault) : Prop :=
  (∃ d : Diagnostic, d.key ≠ .recursiveReference ∧ ctx.reporter.respond d = .error fault) ∨
    ∃ resolve journal id, ctx.resolver = some resolve ∧ resolve journal id = .error fault

/-- The computation reports nothing about recursion, and fails with nothing about it unless it is
excused. -/
structure Spares {σ α : Type} (view : σ → Ledger) (excused : Fault → Prop)
    (x : EStateM Fault σ α) : Prop where
  of_ok {s : σ} {a : α} {t : σ} : x s = .ok a t → (view s).Quiet (view t)
  of_error {s : σ} {fault : Fault} {t : σ} : x s = .error fault t →
    (view s).Quiet (view t) ∧ (fault.IsRecursion → excused fault)

/-- What is reported and failed with by one who speaks of recursion only if excused. -/
def sparing (excused : Fault → Prop) : Outcomes Ledger where
  success := Ledger.Quiet
  failure fault l l' := l.Quiet l' ∧ (fault.IsRecursion → excused fault)

theorem not_isRecursion {fault : Fault} (h : fault.isViolation = false) : ¬ fault.IsRecursion := by
  cases fault with
  | fatal d => cases h
  | _ => exact id

instance {excused : Fault → Prop} : (sparing excused).Composes where
  refl _ := .of_eq rfl
  trans := .trans
  stop _ h := ⟨.of_eq rfl, fun hrecursion => absurd hrecursion (not_isRecursion h)⟩
  after h h' := ⟨h.trans h'.1, h'.2⟩

section Composing

variable {σ α β : Type} {view : σ → Ledger} {excused : Fault → Prop}

theorem spares_iff {x : EStateM Fault σ α} :
    Spares view excused x ↔ ((sparing excused).along view).judgement.Always x :=
  ⟨fun h _ => ⟨h.of_ok, h.of_error⟩, fun h => ⟨fun hx => (h _).1 hx, fun hx => (h _).2 hx⟩⟩

theorem spares_pure (a : α) : Spares view excused (pure a) :=
  spares_iff.mpr (Judgement.always_pure a)

theorem spares_throw {fault : Fault} (hfault : fault.IsRecursion → excused fault) :
    Spares view excused (throw fault : EStateM Fault σ α) :=
  spares_iff.mpr fun _ => Outcomes.applies_throw ⟨.of_eq rfl, hfault⟩

/-- What comes second need only spare what it can be given. -/
theorem Spares.next {x : EStateM Fault σ α} {f : α → EStateM Fault σ β}
    (hx : Spares view excused x)
    (hf : ∀ {s a t}, x s = .ok a t → Spares view excused (f a)) :
    Spares view excused (x >>= f) :=
  spares_iff.mpr fun s =>
    Judgement.Composes.bind (spares_iff.mp hx s) fun ha => spares_iff.mp (hf ha) _

theorem Spares.bind {x : EStateM Fault σ α} {f : α → EStateM Fault σ β}
    (hx : Spares view excused x) (hf : ∀ a, Spares view excused (f a)) :
    Spares view excused (x >>= f) := hx.next fun _ => hf _

end Composing

section Expanding

open Checked

variable {ctx : CheckContext}

theorem coversSteps_sparing : (sparing ctx.Excuses).judgement.CoversSteps ctx := by
  refine Outcomes.coversSteps (fun h => .of_eq h) ?_ ?_ fun _ h => h.1
  · intro d l hd
    refine ⟨.of_report hd.1 l, fun hrecursion => ?_⟩
    unfold Reporter.verdict at hrecursion ⊢
    split at hrecursion
    · exact absurd hrecursion hd.1
    · next hrespond => exact .inl ⟨d, hd.1, hrespond⟩
  · intro resolve journal id' fault l hresolver hfault
    exact ⟨.of_eq rfl, fun _ => .inr ⟨resolve, journal, id', hresolver, hfault⟩⟩

theorem spares_replacement (name : String) (d : Dtd.EntityDecl) :
    Spares (·.ledger) ctx.Excuses (replacement ctx name d) := by
  refine spares_iff.mpr ?_
  unfold replacement
  split
  · exact (coversSteps_sparing.countExpansion Outcomes.liftsTo _ _ _).bind fun _ =>
      Judgement.always_pure _
  · exact (coversSteps_sparing.fetchEntity Outcomes.liftsTo _ _ _ _ _ _).bind fun _ =>
      Judgement.always_pure _
  · exact Judgement.always_throw _

theorem spares_undeclared (name : String) :
    Spares (·.ledger) ctx.Excuses (undeclared name) := by
  refine spares_iff.mpr (Judgement.always_read (fun _ _ halike => by rw [halike]) fun pass => ?_)
  split
  · exact Judgement.always_pure _
  · exact Judgement.always_throw _

end Expanding

end XmlBounds
