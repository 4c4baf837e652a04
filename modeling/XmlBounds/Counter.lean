/-!
# Counters

Entity text is counted in 64 bits. A counter that has no room for more starts again at zero.
-/

namespace XmlBounds

/-- A running count. -/
structure Counter where
  bits : UInt64
  deriving DecidableEq, Repr

namespace Counter

variable {c : Counter} {m n : Nat}

def ofNat (n : Nat) : Counter := ⟨.ofNat n⟩

def toNat (c : Counter) : Nat := c.bits.toNat

instance (n : Nat) : OfNat Counter n := ⟨ofNat n⟩

instance : Coe Nat Counter := ⟨ofNat⟩

instance : Coe Counter Nat := ⟨toNat⟩

/-- The counter once it has counted so much more. -/
def add (c : Counter) (n : Nat) : Counter := ⟨c.bits + .ofNat n⟩

theorem toNat_lt (c : Counter) : c.toNat < UInt64.size := c.bits.toNat_lt

theorem toNat_add (c : Counter) (n : Nat) : (c.add n).toNat = (c.toNat + n) % UInt64.size := by
  simp [add, toNat]

/-- A counter that has room counts exactly. -/
theorem toNat_add_of_lt (h : c.toNat + n < UInt64.size) : (c.add n).toNat = c.toNat + n := by
  rw [toNat_add, Nat.mod_eq_of_lt h]

@[simp] theorem add_zero (c : Counter) : c.add 0 = c := by simp [add]

@[simp] theorem zero_add (n : Nat) : (0 : Counter).add n = ofNat n := by
  simp [add, ofNat, OfNat.ofNat]

@[simp] theorem add_add (c : Counter) (m n : Nat) : (c.add m).add n = c.add (m + n) := by
  simp [add, UInt64.add_assoc, UInt64.ofNat_add]

end Counter

end XmlBounds
