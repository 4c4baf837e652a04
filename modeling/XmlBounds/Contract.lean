import XmlBounds.Fault

/-!
# Contracts

What a computation makes of its state, said apart for its success and for its failure. A contract
that composes holds of a sequence of steps if it holds of each step.
-/

namespace XmlBounds

section Bind

variable {σ α β : Type} {x : EStateM Fault σ α} {f : α → EStateM Fault σ β} {s u : σ}

theorem ok_of_bind {b : β} (h : (x >>= f) s = .ok b u) :
    ∃ a t, x s = .ok a t ∧ f a t = .ok b u := by
  simp only [Bind.bind, EStateM.bind] at h
  split at h
  · next a t ha => exact ⟨a, t, ha, h⟩
  · cases h

theorem error_of_bind {fault : Fault} (h : (x >>= f) s = .error fault u) :
    x s = .error fault u ∨ ∃ a t, x s = .ok a t ∧ f a t = .error fault u := by
  simp only [Bind.bind, EStateM.bind] at h
  split at h
  · next a t ha => exact .inr ⟨a, t, ha, h⟩
  · next ha =>
      cases h
      exact .inl ha

theorem bind_of_ok {a : α} {t : σ} (h : x s = .ok a t) : (x >>= f) s = f a t := by
  simp only [Bind.bind, EStateM.bind, h]

theorem bind_of_error {fault : Fault} {t : σ} (h : x s = .error fault t) :
    (x >>= f) s = .error fault t := by
  simp only [Bind.bind, EStateM.bind, h]

end Bind

/-- How the state afterwards relates to the state before. -/
structure Contract (σ : Type) where
  success : σ → σ → Prop
  failure : σ → σ → Prop

namespace Contract

variable {σ α β : Type} {C : Contract σ}

/-- The computation keeps to the contract from every state. -/
structure Holds (C : Contract σ) (x : EStateM Fault σ α) : Prop where
  of_ok : ∀ {s a t}, x s = .ok a t → C.success s t
  of_error : ∀ {s fault t}, x s = .error fault t → C.failure s t

/-- Doing nothing keeps to the contract, and so does going on after what kept to it. -/
class Composes (C : Contract σ) : Prop where
  refl : ∀ s, C.success s s
  trans : ∀ {s t u}, C.success s t → C.success t u → C.success s u
  stop : ∀ s, C.failure s s
  after : ∀ {s t u}, C.success s t → C.failure t u → C.failure s u

theorem holds_pure [C.Composes] (a : α) : C.Holds (pure a) where
  of_ok h := by
    cases h
    exact Composes.refl _
  of_error h := by cases h

theorem holds_throw [C.Composes] (fault : Fault) :
    C.Holds (throw fault : EStateM Fault σ α) where
  of_ok h := by cases h
  of_error h := by
    cases h
    exact Composes.stop _

theorem holds_get [C.Composes] : C.Holds (get : EStateM Fault σ σ) where
  of_ok h := by
    cases h
    exact Composes.refl _
  of_error h := by cases h

theorem holds_modify {f : σ → σ} (hf : ∀ s, C.success s (f s)) :
    C.Holds (modify f : EStateM Fault σ PUnit) where
  of_ok h := by
    cases h
    exact hf _
  of_error h := by cases h

theorem Holds.bind [C.Composes] {x : EStateM Fault σ α} {f : α → EStateM Fault σ β}
    (hx : C.Holds x) (hf : ∀ a, C.Holds (f a)) : C.Holds (x >>= f) where
  of_ok h := by
    obtain ⟨a, t, ha, hb⟩ := ok_of_bind h
    exact Composes.trans (hx.of_ok ha) ((hf a).of_ok hb)
  of_error h := by
    rcases error_of_bind h with ha | ⟨a, t, ha, hb⟩
    · exact hx.of_error ha
    · exact Composes.after (hx.of_ok ha) ((hf a).of_error hb)

/-- To compute with the result changes nothing that a contract is about. -/
theorem Holds.thenPure {x : EStateM Fault σ α} (h : C.Holds x) (f : α → β) :
    C.Holds (x >>= fun a => pure (f a)) where
  of_ok hx := by
    obtain ⟨a, t, ha, hb⟩ := ok_of_bind hx
    cases hb
    exact h.of_ok ha
  of_error hx := by
    rcases error_of_bind hx with ha | ⟨a, t, ha, hb⟩
    · exact h.of_error ha
    · cases hb

end Contract

end XmlBounds
