/-!
# Stored limits

A limit as it is stored lies between 0, which refuses the first use, and the largest number of 31
bits, which stands for no limit at all.
-/

namespace XmlBounds

/-- A stored limit. -/
structure Limit where
  toNat : Nat
  toNat_le : toNat ≤ 2147483647 := by decide
  deriving DecidableEq, Repr

namespace Limit

/-- The stored value that stands for no limit. -/
def unlimited : Limit := ⟨2147483647, by decide⟩

/-- The stored value that refuses the first use. -/
def zero : Limit := ⟨0, by decide⟩

/-- What a caller's number is stored as: a positive one as itself, zero as no limit, and a
negative one as zero. -/
def normalize (n : Int32) : Limit :=
  if 0 < n then
    ⟨n.toInt.toNat, by have := n.toInt_lt; omega⟩
  else if n = 0 then unlimited
  else zero

/-- The limit as a number that a caller can pass. -/
def toInt32 (l : Limit) : Int32 := Int32.ofNat l.toNat

/-- Whether a quantity exceeds a limit; below zero, a limit counts as zero. -/
def isExceeded (limit : Int) (observed : Nat) : Bool := decide (limit.toNat < observed)

theorem toInt_toInt32 (l : Limit) : l.toInt32.toInt = l.toNat := by
  have := l.toNat_le
  exact Int32.toInt_ofNat_of_lt (by omega)

theorem toNat_normalize_of_pos {n : Int32} (h : 0 < n.toInt) :
    (normalize n).toNat = n.toInt.toNat := by
  have h' : (0 : Int32) < n := Int32.lt_iff_toInt_lt.mpr (by simpa using h)
  simp [normalize, h']

@[simp] theorem normalize_zero : normalize 0 = unlimited := rfl

theorem normalize_of_neg {n : Int32} (h : n.toInt < 0) : normalize n = zero := by
  have h1 : ¬ (0 : Int32) < n := by
    intro hn
    have := Int32.lt_iff_toInt_lt.mp hn
    simp at this
    omega
  have h2 : n ≠ 0 := by
    rintro rfl
    simp at h
  simp [normalize, h1, h2]

/-- Passing a stored limit again keeps it, unless it is zero. -/
theorem normalize_toInt32 {l : Limit} (h : l ≠ zero) : normalize l.toInt32 = l := by
  have hl : 0 < l.toNat := by
    apply Nat.pos_of_ne_zero
    intro h0
    apply h
    cases l
    simp_all [zero]
  have hi := toInt_toInt32 l
  have := toNat_normalize_of_pos (n := l.toInt32) (by omega)
  cases hn : normalize l.toInt32
  cases l
  simp_all

end Limit

end XmlBounds
