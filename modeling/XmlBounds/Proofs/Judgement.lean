import XmlBounds.Contract

/-!
# Judgements of computations

What may be said of a computation and the state that it starts from, in such a way that it can be
said of a sequence of steps if it can be said of each of them: that it keeps to a contract, say, or
that it does not mind what was done before.
-/

namespace XmlBounds

/-- The fault is a violation, which may not go by without having been reported. -/
def Fault.isViolation : Fault → Bool
  | fatal _ => true
  | _ => false

/-- Something that can be said of a computation and the state that it starts from. -/
structure Judgement (σ : Type) where
  Applies : {α : Type} → EStateM Fault σ α → σ → Prop
  /-- The second state may stand in for the first. -/
  alike : σ → σ → Prop

namespace Judgement

variable {σ α β : Type} {J : Judgement σ}

def Always (J : Judgement σ) (x : EStateM Fault σ α) : Prop := ∀ s, J.Applies x s

/-- Doing nothing can be judged so, and so can a sequence of what is judged so. Violations are left
out: for them, each judgement has to say itself how they may be thrown. -/
class Composes (J : Judgement σ) : Prop where
  pure : ∀ {α : Type} (a : α) (s : σ), J.Applies (pure a) s
  throw : ∀ {α : Type} {fault : Fault} (s : σ), fault.isViolation = false →
    J.Applies (throw fault : EStateM Fault σ α) s
  bind : ∀ {α β : Type} {x : EStateM Fault σ α} {f : α → EStateM Fault σ β} {s : σ},
    J.Applies x s → (∀ {a t}, x s = .ok a t → J.Applies (f a) t) → J.Applies (x >>= f) s
  /-- To go by the state is allowed as far as alike states lead to the same. -/
  read : ∀ {α : Type} {f : σ → EStateM Fault σ α} {s : σ},
    (∀ t, J.alike s t → f t = f s) → J.Applies (f s) s → J.Applies (get >>= f) s

section Composing

variable [J.Composes] {x : EStateM Fault σ α} {f : α → EStateM Fault σ β}

theorem always_pure (a : α) : J.Always (pure a) := Composes.pure a

theorem always_throw (fault : Fault) (h : fault.isViolation = false := by rfl) :
    J.Always (throw fault : EStateM Fault σ α) := fun s => Composes.throw s h

theorem Always.bind (hx : J.Always x) (hf : ∀ a, J.Always (f a)) : J.Always (x >>= f) :=
  fun s => Composes.bind (hx s) fun _ => hf _ _

theorem always_read {g : σ → EStateM Fault σ α} (halike : ∀ s t, J.alike s t → g t = g s)
    (hg : ∀ s, J.Always (g s)) : J.Always (get >>= g) :=
  fun s => Composes.read (halike s) (hg s s)

end Composing

end Judgement

/-- What a computation may make of its state, and with which fault it may fail on the way. -/
structure Outcomes (σ : Type) where
  success : σ → σ → Prop
  failure : Fault → σ → σ → Prop

namespace Outcomes

variable {σ τ α : Type} {O : Outcomes σ}

class Composes (O : Outcomes σ) : Prop where
  refl : ∀ s, O.success s s
  trans : ∀ {s t u}, O.success s t → O.success t u → O.success s u
  stop : ∀ {fault : Fault} (s : σ), fault.isViolation = false → O.failure fault s s
  after : ∀ {fault s t u}, O.success s t → O.failure fault t u → O.failure fault s u

/-- What comes of the computation, from the state, is among the outcomes. -/
def judgement (O : Outcomes σ) : Judgement σ where
  Applies x s := (∀ {a t}, x s = .ok a t → O.success s t) ∧
    ∀ {fault t}, x s = .error fault t → O.failure fault s t
  alike s t := t = s

/-- The outcomes as they show in a view of the state. -/
def along (O : Outcomes σ) (view : τ → σ) : Outcomes τ where
  success s t := O.success (view s) (view t)
  failure fault s t := O.failure fault (view s) (view t)

instance [hO : O.Composes] (view : τ → σ) : (O.along view).Composes where
  refl s := hO.refl (view s)
  trans h h' := hO.trans h h'
  stop s h := hO.stop (view s) h
  after h h' := hO.after h h'

theorem applies_pure [O.Composes] (a : α) (s : σ) : O.judgement.Applies (pure a) s := by
  constructor
  · intro a' t h
    cases h
    exact Composes.refl s
  · intro fault t h
    cases h

theorem applies_throw {fault : Fault} {s : σ} (h : O.failure fault s s) :
    O.judgement.Applies (throw fault : EStateM Fault σ α) s := by
  constructor
  · intro a t hx
    cases hx
  · intro fault' t hx
    cases hx
    exact h

theorem always_modify {f : σ → σ} (h : ∀ s, O.success s (f s)) :
    O.judgement.Always (modify f : EStateM Fault σ PUnit) := by
  intro s
  constructor
  · intro a t hx
    cases hx
    exact h s
  · intro fault t hx
    cases hx

instance [hO : O.Composes] : O.judgement.Composes where
  pure := applies_pure
  throw s h := applies_throw (hO.stop s h)
  bind {α β x f s} hx hf := by
    constructor
    · intro b u h
      obtain ⟨a, t, ha, hb⟩ := ok_of_bind h
      exact hO.trans (hx.1 ha) ((hf ha).1 hb)
    · intro fault u h
      rcases error_of_bind h with ha | ⟨a, t, ha, hb⟩
      · exact hx.2 ha
      · exact hO.after (hx.1 ha) ((hf ha).2 hb)
  read _ h := h

end Outcomes

namespace Contract

variable {σ α : Type} {C : Contract σ} {x : EStateM Fault σ α}

/-- A contract allows every fault. -/
def outcomes (C : Contract σ) : Outcomes σ := ⟨C.success, fun _ => C.failure⟩

theorem always_iff : C.outcomes.judgement.Always x ↔ C.Holds x :=
  ⟨fun h => ⟨fun hx => (h _).1 hx, fun hx => (h _).2 hx⟩, fun h _ => ⟨h.of_ok, h.of_error⟩⟩

instance [hC : C.Composes] : C.outcomes.Composes where
  refl := hC.refl
  trans := hC.trans
  stop s _ := hC.stop s
  after := hC.after

end Contract

end XmlBounds
