import XmlBounds.Proofs.Ledger.Growth

/-!
# The order of entries

The journal says in what order things were done. A rule of the order says of each entry what must
have come before it; it is kept by a sequence of steps if each step keeps to it, since nothing that
has come before is ever taken back.
-/

namespace XmlBounds

/-- Each entry stands in the relation to the entries before it. -/
def Follows (P : Entry → List Entry → Prop) : List Entry → Prop
  | [] => True
  | e :: older => P e older ∧ Follows P older

/-- What an entry requires of its past, a longer past has too. -/
class Lasting (P : Entry → List Entry → Prop) : Prop where
  append : ∀ {e older} (more : List Entry), P e older → P e (older ++ more)

section Follows

variable {P : Entry → List Entry → Prop} {older newer : List Entry}

theorem Follows.append [Lasting P] (h : Follows P older) (h' : Follows P newer) :
    Follows P (newer ++ older) := by
  induction newer with
  | nil => exact h
  | cons e newer ih => exact ⟨Lasting.append older h'.1, ih h'.2⟩

/-- The past of each entry is all that comes behind it. -/
theorem Follows.split {e : Entry} (h : Follows P (newer ++ e :: older)) : P e older := by
  induction newer with
  | nil => exact h.1
  | cons d newer ih => exact ih h.2

theorem follows_of_all (h : ∀ e ∈ newer, ∀ older, P e older) : Follows P newer := by
  induction newer with
  | nil => trivial
  | cons e newer ih =>
      exact ⟨h e List.mem_cons_self newer, ih fun d hd => h d (List.mem_cons_of_mem e hd)⟩

instance [Lasting P] : Additive (Follows P) (Follows P) where
  nil := trivial
  append h h' := h.append h'
  stop := trivial
  appendFailure h h' := h.append h'

end Follows

/-- The entry is that an expansion was accepted. -/
def Entry.isExpansion : Entry → Bool
  | expanded .. => true
  | _ => false

/-- The entry is the newest of its sort. -/
def Newest (sort : Entry → Bool) (e : Entry) (entries : List Entry) : Prop :=
  ∃ between rest, entries = between ++ e :: rest ∧ ∀ d ∈ between, sort d = false

section Newest

variable {sort : Entry → Bool} {e : Entry} {entries : List Entry}

theorem Newest.append (more : List Entry) (h : Newest sort e entries) :
    Newest sort e (entries ++ more) := by
  obtain ⟨between, rest, rfl, hbetween⟩ := h
  exact ⟨between, rest ++ more, by simp, hbetween⟩

theorem Newest.after {later : List Entry} (h : Newest sort e entries)
    (hlater : ∀ d ∈ later, sort d = false) : Newest sort e (later ++ entries) := by
  obtain ⟨between, rest, rfl, hbetween⟩ := h
  refine ⟨later ++ between, rest, by simp, ?_⟩
  intro d hd
  rcases List.mem_append.mp hd with hd | hd
  · exact hlater d hd
  · exact hbetween d hd

theorem Newest.cons {d : Entry} (h : Newest sort e entries) (hd : sort d = false) :
    Newest sort e (d :: entries) :=
  h.after (List.forall_mem_singleton.mpr hd)

theorem newest_cons (rest : List Entry) : Newest sort e (e :: rest) :=
  ⟨[], rest, rfl, fun _ h => by cases h⟩

theorem Newest.mem (h : Newest sort e entries) : e ∈ entries := by
  obtain ⟨between, rest, rfl, _⟩ := h
  simp

end Newest

/-- What two ledgers differ by is one list of entries. -/
theorem Ledger.Grows.unique {l l' : Ledger} {new new' : List Entry} (h : l.Grows l' new)
    (h' : l.Grows l' new') : new = new' := by
  have hsame := h.journal.symm.trans h'.journal
  exact List.append_cancel_right hsame

end XmlBounds
