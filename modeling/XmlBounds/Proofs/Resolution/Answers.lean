import XmlBounds.Resolution.Basic

/-!
# What settings resolve to

Property sources may answer differently each time they are asked. Whatever they answer, a value
that is resolved comes from one place: the caller's policy, a property that the caller has set, or
a source or default that cannot lower a limit to nothing.
-/

namespace XmlBounds

/-- Whether a value was written by the caller. -/
def Origin.isCallers : Origin → Bool
  | callerPolicy | callerProperty => true
  | deploymentFile | processProperty | secureProcessing | default => false

variable {σ ε α β : Type}

def Answers (x : StateM σ α) (a : α) : Prop := ∃ s t, x s = (a, t)

theorem answers_pure {a b : α} (h : Answers (pure a : StateM σ α) b) : b = a := by
  obtain ⟨s, t, hst⟩ := h
  cases hst
  rfl

theorem answers_bind {x : StateM σ α} {f : α → StateM σ β} {b : β} (h : Answers (x >>= f) b) :
    ∃ a, Answers x a ∧ Answers (f a) b := by
  obtain ⟨s, u, hsu⟩ := h
  exact ⟨(x s).1, ⟨s, (x s).2, rfl⟩, ⟨(x s).2, u, hsu⟩⟩

/-- The computation can succeed, and then gives the value. -/
def Gives (x : ExceptT ε (StateM σ) α) (a : α) : Prop := Answers x.run (.ok a)

theorem gives_pure {a b : α} (h : Gives (pure a : ExceptT ε (StateM σ) α) b) : b = a := by
  have hb := answers_pure h
  cases hb
  rfl

theorem gives_bind {x : ExceptT ε (StateM σ) α} {f : α → ExceptT ε (StateM σ) β} {b : β}
    (h : Gives (x >>= f) b) : ∃ a, Gives x a ∧ Gives (f a) b := by
  have hrun : Answers (x.run >>= ExceptT.bindCont f) (.ok b) := h
  obtain ⟨answer, hx, hf⟩ := answers_bind hrun
  cases answer with
  | ok a => exact ⟨a, hx, hf⟩
  | error fault =>
      have hb := answers_pure hf
      cases hb

theorem gives_lift {x : StateM σ α} {a : α}
    (h : Gives (liftM x : ExceptT ε (StateM σ) α) a) : Answers x a := by
  obtain ⟨s, t, hst⟩ := h
  refine ⟨s, t, ?_⟩
  cases hst
  rfl

theorem gives_adapt {ε' : Type} {f : ε → ε'} {x : ExceptT ε (StateM σ) α} {a : α}
    (h : Gives (ExceptT.adapt f x) a) : Gives x a := by
  have hrun : Answers (Except.mapError f <$> x.run) (.ok a) := h
  rw [map_eq_pure_bind] at hrun
  obtain ⟨answer, hx, hf⟩ := answers_bind hrun
  cases answer with
  | ok b =>
      cases answers_pure hf
      exact hx
  | error fault => cases answers_pure hf

/-- Each value of a table was given by the computation for its limit. -/
theorem gives_limits {f : LimitKind → ExceptT ε (StateM σ) α} {g : LimitKind → α}
    (h : Gives (LimitKind.tabulateM f) g) (k : LimitKind) : Gives (f k) (g k) := by
  unfold LimitKind.tabulateM at h
  obtain ⟨a₁, h₁, h⟩ := gives_bind h
  obtain ⟨a₂, h₂, h⟩ := gives_bind h
  obtain ⟨a₃, h₃, h⟩ := gives_bind h
  obtain ⟨a₄, h₄, h⟩ := gives_bind h
  obtain ⟨a₅, h₅, h⟩ := gives_bind h
  obtain ⟨a₆, h₆, h⟩ := gives_bind h
  obtain ⟨a₇, h₇, h⟩ := gives_bind h
  rw [gives_pure h]
  cases k <;> assumption

theorem answers_lists {f : AccessList → StateM σ α} {g : AccessList → α}
    (h : Answers (AccessList.tabulateM f) g) (a : AccessList) : Answers (f a) (g a) := by
  unfold AccessList.tabulateM at h
  obtain ⟨a₁, h₁, h⟩ := answers_bind h
  obtain ⟨a₂, h₂, h⟩ := answers_bind h
  rw [answers_pure h]
  cases a <;> assumption

namespace Sources

theorem isCallers_of_mem_candidates {sources : Sources (StateM σ)} {name : String}
    {found : List (Resolved String)} (h : Answers (sources.candidates name) found) :
    ∀ c ∈ found, c.origin.isCallers = false := by
  unfold candidates at h
  obtain ⟨file, _, h⟩ := answers_bind h
  obtain ⟨process, _, h⟩ := answers_bind h
  rw [answers_pure h]
  intro c hc
  rcases List.mem_append.mp hc with hc | hc
  · obtain ⟨text, _, rfl⟩ := Option.map_eq_some_iff.mp (Option.mem_toList.mp hc)
    rfl
  · obtain ⟨text, _, rfl⟩ := Option.map_eq_some_iff.mp (Option.mem_toList.mp hc)
    rfl

theorem firstLimit_spec {fallback : Int32} (hf : 0 < fallback) {found : List (Resolved String)}
    (h : ∀ c ∈ found, c.origin.isCallers = false) :
    0 < (firstLimit fallback found).value ∧
      (firstLimit fallback found).origin.isCallers = false := by
  induction found with
  | nil => exact ⟨hf, rfl⟩
  | cons c rest ih =>
      unfold firstLimit
      split
      · next n _ =>
          refine ⟨?_, h c List.mem_cons_self⟩
          by_cases hn : 0 < n
          · simp [hn]
          · simp only [hn, if_false]
            decide
      · exact ih fun d hd => h d (List.mem_cons_of_mem c hd)

theorem isCallers_firstText {fallback : String} {found : List (Resolved String)}
    (h : ∀ c ∈ found, c.origin.isCallers = false) :
    (firstText fallback found).origin.isCallers = false := by
  cases found with
  | nil => rfl
  | cons c rest => exact h c List.mem_cons_self

theorem isCallers_firstSwitch {fallback : Bool} {found : List (Resolved String)}
    (h : ∀ c ∈ found, c.origin.isCallers = false) :
    (firstSwitch fallback found).origin.isCallers = false := by
  cases found with
  | nil => rfl
  | cons c rest => exact h c List.mem_cons_self

end Sources

end XmlBounds
