import XmlBounds.Contract
import XmlBounds.Entity.Size

/-!
# How the ledger grows

Nothing that is in the journal is ever changed. What a computation on the ledger does is told by
the entries that it adds, the newest first, and the total has taken note of each of them.
-/

namespace XmlBounds

/-- What an entry has added to the total. -/
def Entry.amount : Entry → Nat
  | counted _ amount => amount
  | _ => 0

def Entry.amounts : List Entry → Nat
  | [] => 0
  | e :: older => e.amount + amounts older

theorem Entry.amounts_append (newer older : List Entry) :
    amounts (newer ++ older) = amounts newer + amounts older := by
  induction newer with
  | nil => simp [amounts]
  | cons e newer ih =>
      simp only [List.cons_append, amounts, ih]
      omega

/-- The second account is the first with new entries. -/
structure Ledger.Grows (l l' : Ledger) (new : List Entry) : Prop where
  journal : l'.journal = new ++ l.journal
  total : l'.total = l.total.add (Entry.amounts new)

namespace Ledger.Grows

variable {l l' l'' : Ledger} {older newer : List Entry}

theorem refl (l : Ledger) : l.Grows l [] := ⟨rfl, (Counter.add_zero _).symm⟩

theorem trans (h : l.Grows l' older) (h' : l'.Grows l'' newer) : l.Grows l'' (newer ++ older) where
  journal := by rw [h'.journal, h.journal, List.append_assoc]
  total := by
    rw [h'.total, h.total, Counter.add_add, Entry.amounts_append, Nat.add_comm]

end Ledger.Grows

/-- Entries that may be added by a success, and entries that may be added by a failure. Adding one
after the other is allowed as long as nothing has failed. -/
class Additive (G F : List Entry → Prop) : Prop where
  nil : G []
  append : ∀ {older newer}, G older → G newer → G (newer ++ older)
  stop : F []
  appendFailure : ∀ {older newer}, G older → F newer → F (newer ++ older)

namespace Contract

variable {α β : Type} {G F G' F' : List Entry → Prop}

/-- Where a failure will do for a success, so will what is taken up again after it. -/
theorem Holds.takenUp {C : Contract Ledger} {x : Accounted Unit} (h : C.Holds x)
    (hfailure : ∀ {l l'}, C.failure l l' → C.success l l') : C.Holds x.takenUp where
  of_ok hx := by
    rcases Accounted.ok_of_takenUp hx with ⟨_, hok⟩ | ⟨_, fault, _, herror⟩
    · exact h.of_ok hok
    · exact hfailure (h.of_error herror)
  of_error hx := h.of_error (Accounted.error_of_takenUp hx)

/-- The computation adds to the ledger, and only what is allowed. -/
def writes (G F : List Entry → Prop) : Contract Ledger where
  success l l' := ∃ new, l.Grows l' new ∧ G new
  failure l l' := ∃ new, l.Grows l' new ∧ F new

instance [Additive G F] : (writes G F).Composes where
  refl l := ⟨[], .refl l, Additive.nil F⟩
  trans := by
    rintro l l' l'' ⟨older, hgrows, hold⟩ ⟨newer, hgrows', hnew⟩
    exact ⟨newer ++ older, hgrows.trans hgrows', Additive.append F hold hnew⟩
  stop l := ⟨[], .refl l, Additive.stop G⟩
  after := by
    rintro l l' l'' ⟨older, hgrows, hold⟩ ⟨newer, hgrows', hnew⟩
    exact ⟨newer ++ older, hgrows.trans hgrows', Additive.appendFailure hold hnew⟩

theorem Holds.mono {x : Accounted α} (h : (writes G F).Holds x)
    (hG : ∀ {new}, G new → G' new) (hF : ∀ {new}, F new → F' new) :
    (writes G' F').Holds x where
  of_ok hx := by
    obtain ⟨new, hgrows, hnew⟩ := h.of_ok hx
    exact ⟨new, hgrows, hG hnew⟩
  of_error hx := by
    obtain ⟨new, hgrows, hnew⟩ := h.of_error hx
    exact ⟨new, hgrows, hF hnew⟩

theorem writes_pure (a : α) (hG : G []) : (writes G F).Holds (pure a : Accounted α) where
  of_ok h := by
    cases h
    exact ⟨[], .refl _, hG⟩
  of_error h := by cases h

theorem writes_throw (fault : Fault) (hF : F []) :
    (writes G F).Holds (throw fault : Accounted α) where
  of_ok h := by cases h
  of_error h := by
    cases h
    exact ⟨[], .refl _, hF⟩

/-- What one computation after the other adds, in what the second may make of the result of the
first. -/
theorem Holds.next {G₁ F₁ G₂ F₂ : List Entry → Prop} {x : Accounted α} {f : α → Accounted β}
    (hx : (writes G₁ F₁).Holds x)
    (hf : ∀ {l a l'}, x l = .ok a l' → (writes G₂ F₂).Holds (f a))
    (hG : ∀ {older newer}, G₁ older → G₂ newer → G (newer ++ older))
    (hF : ∀ {new}, F₁ new → F new)
    (hGF : ∀ {older newer}, G₁ older → F₂ newer → F (newer ++ older)) :
    (writes G F).Holds (x >>= f) where
  of_ok h := by
    obtain ⟨a, mid, ha, hb⟩ := ok_of_bind h
    obtain ⟨older, hgrows, hold⟩ := hx.of_ok ha
    obtain ⟨newer, hgrows', hnew⟩ := (hf ha).of_ok hb
    exact ⟨newer ++ older, hgrows.trans hgrows', hG hold hnew⟩
  of_error h := by
    rcases error_of_bind h with ha | ⟨a, mid, ha, hb⟩
    · obtain ⟨new, hgrows, hnew⟩ := hx.of_error ha
      exact ⟨new, hgrows, hF hnew⟩
    · obtain ⟨older, hgrows, hold⟩ := hx.of_ok ha
      obtain ⟨newer, hgrows', hnew⟩ := (hf ha).of_error hb
      exact ⟨newer ++ older, hgrows.trans hgrows', hGF hold hnew⟩

theorem holds_note {e : Entry} (he : e.amount = 0) (hG : G [e]) :
    (writes G F).Holds (Accounted.note e) where
  of_ok h := by
    cases h
    refine ⟨[e], ⟨rfl, ?_⟩, hG⟩
    simp [Entry.amounts, he]
  of_error h := by cases h

/-- A diagnostic that is raised goes to the reporter, and nothing to the journal. -/
theorem holds_raise (reporter : Reporter) (d : Diagnostic) (hF : F []) :
    (writes G F).Holds (Accounted.raise reporter d : Accounted α) where
  of_ok h := by
    rw [Accounted.raise_apply] at h
    cases h
  of_error h := by
    rw [Accounted.raise_apply] at h
    cases h
    exact ⟨[], ⟨rfl, (Counter.add_zero _).symm⟩, hF⟩

def fails : Contract Ledger := writes (fun _ => False) (· = [])

theorem holds_note_fails {e : Entry} {x : Accounted α} (he : e.amount = 0) (hx : fails.Holds x) :
    (writes (fun _ => False) (· = [e])).Holds (Accounted.note e >>= fun _ => x) := by
  have hnote : (writes (· = [e]) fun _ => False).Holds (Accounted.note e) := holds_note he rfl
  refine hnote.next (fun _ => hx) (fun _ h => h.elim) False.elim ?_
  rintro older newer rfl rfl
  rfl

end Contract

/-- Successes keep the total within a bound. -/
def Contract.bounds (bound : Nat) : Contract Ledger where
  success l l' := l.total.toNat ≤ bound → l'.total.toNat ≤ bound
  failure _ _ := True

instance (bound : Nat) : (Contract.bounds bound).Composes where
  refl _ h := h
  trans h h' hl := h' (h hl)
  stop _ := trivial
  after _ _ := trivial

theorem Contract.bounds_of_eq {bound : Nat} {l l' : Ledger} (h : l'.total = l.total) :
    (Contract.bounds bound).success l l' := by
  intro hl
  rw [h]
  exact hl

theorem Contract.bounds_note {bound : Nat} (e : Entry) :
    (Contract.bounds bound).Holds (Accounted.note e) :=
  holds_modify fun _ => bounds_of_eq rfl

theorem Contract.bounds_raise {bound : Nat} {α : Type} (reporter : Reporter) (d : Diagnostic) :
    (Contract.bounds bound).Holds (Accounted.raise reporter d : Accounted α) where
  of_ok h := by
    rw [Accounted.raise_apply] at h
    cases h
  of_error _ := trivial

theorem Contract.bounds_of_writes {α : Type} {bound : Nat} {G F : List Entry → Prop}
    {x : Accounted α} (h : (Contract.writes G F).Holds x)
    (hamounts : ∀ {new}, G new → Entry.amounts new = 0) : (Contract.bounds bound).Holds x where
  of_ok hx := by
    obtain ⟨new, hgrows, hnew⟩ := h.of_ok hx
    apply Contract.bounds_of_eq
    rw [hgrows.total, hamounts hnew, Counter.add_zero]
  of_error _ := trivial

end XmlBounds
