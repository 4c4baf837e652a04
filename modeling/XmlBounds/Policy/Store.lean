import XmlBounds.Policy

/-!
# Shared policies

A policy may be held by several parties at once. Each holds a handle to a cell of a store, and sees
what any other writes through a handle to the same cell.
-/

namespace XmlBounds

/-- A handle to a cell of a store. -/
structure PolicyHandle where
  cell : Nat
  deriving DecidableEq, Repr

/-- The cells. -/
structure PolicyStore where
  cells : List Policy
  deriving DecidableEq, Repr

namespace PolicyStore

def empty : PolicyStore := ⟨[]⟩

/-- Puts a policy into a cell of its own. -/
def add (store : PolicyStore) (policy : Policy) : PolicyHandle × PolicyStore :=
  (⟨store.cells.length⟩, ⟨store.cells ++ [policy]⟩)

/-- The policy that a handle leads to, if the store has its cell. -/
def read? (store : PolicyStore) (handle : PolicyHandle) : Option Policy := store.cells[handle.cell]?

/-- Replaces the policy that a handle leads to. -/
def write (store : PolicyStore) (handle : PolicyHandle) (policy : Policy) : PolicyStore :=
  ⟨store.cells.set handle.cell policy⟩

/-- Whether two handles lead to equal policies. -/
def sameContent (store : PolicyStore) (a b : PolicyHandle) : Bool := store.read? a = store.read? b

theorem read?_write_of_ne {store : PolicyStore} {a b : PolicyHandle} (policy : Policy)
    (h : a ≠ b) : (store.write a policy).read? b = store.read? b := by
  have : a.cell ≠ b.cell := by
    intro hc
    apply h
    cases a
    cases b
    simp_all
  simp [read?, write, this]

theorem read?_write_self {store : PolicyStore} {handle : PolicyHandle} (policy : Policy)
    (h : (store.read? handle).isSome) : (store.write handle policy).read? handle = some policy := by
  simp only [read?, Option.isSome_iff_exists, List.getElem?_eq_some_iff] at h
  obtain ⟨_, hlt, _⟩ := h
  simp [read?, write, hlt]

end PolicyStore

end XmlBounds
