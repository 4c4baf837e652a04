/-!
# Grouped integers

An integer in decimal with its digits in groups of three, counted from the right and parted by
commas.
-/

namespace XmlBounds.Text

/-- Parts a run of digits into groups of three, counted from the right. -/
def separate : List Char → List Char
  | [] => []
  | d :: rest =>
      if rest ≠ [] ∧ rest.length % 3 = 0 then d :: ',' :: separate rest else d :: separate rest

/-- The decimal text of `n` with its thousands grouped. -/
def grouped (n : Int) : String :=
  String.ofList ((if n < 0 then ['-'] else []) ++ separate (Nat.toDigits 10 n.natAbs))

@[simp] theorem separate_nil : separate [] = [] := rfl

/-- Taking the commas out again gives the digits back. -/
theorem filter_separate {s : List Char} (h : ',' ∉ s) : (separate s).filter (· != ',') = s := by
  induction s with
  | nil => rfl
  | cons d s ih =>
      simp only [List.mem_cons, not_or] at h
      have hd : d ≠ ',' := Ne.symm h.1
      rw [separate]
      split <;> simp [hd, ih h.2]

end XmlBounds.Text
