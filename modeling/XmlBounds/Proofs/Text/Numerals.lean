import XmlBounds.Text.Integer

/-!
# Decimal numerals

A text of decimal digits denotes a number. It may have leading zeros, and may be of any length.
-/

namespace XmlBounds.Text

/-- A text of decimal digits, and the number that it denotes. -/
structure Denotes (s : List Char) (n : Nat) : Prop where
  nonempty : s ≠ []
  digits : ∀ c ∈ s, c.isDigit = true
  value : Nat.ofDigitChars 10 s 0 = n

theorem digit?_of_isDigit {c : Char} (h : c.isDigit = true) :
    digit? 10 c = some (c.toNat - '0'.toNat) := by
  have hrange := Char.isDigit_iff_toNat.mp h
  have hdigit : '0' ≤ c ∧ c ≤ '9' := hrange
  have hlt : c.toNat - 48 < 10 := by
    have h9 : c.toNat ≤ 57 := hrange.2
    omega
  simp [digit?, hdigit, hlt]

theorem le_ofDigitChars (s : List Char) (acc : Nat) : acc ≤ Nat.ofDigitChars 10 s acc := by
  rw [Nat.ofDigitChars_eq_ofDigitChars_zero]
  exact Nat.le_add_right_of_le (Nat.le_mul_of_pos_left acc (Nat.pow_pos (by decide)))

/-- Digits are read as the number that they denote, unless it is beyond the bound. -/
theorem readDigits_eq {bound : Nat} {beyond : IntegerFault} {s : List Char} {acc : Nat}
    (hs : ∀ c ∈ s, c.isDigit = true) (hacc : acc ≤ bound) :
    readDigits 10 bound beyond acc s =
      if bound < Nat.ofDigitChars 10 s acc then .error beyond
      else .ok (Nat.ofDigitChars 10 s acc) := by
  induction s generalizing acc with
  | nil => rw [readDigits, Nat.ofDigitChars_nil, if_neg (Nat.not_lt.mpr hacc)]
  | cons c s ih =>
      have hle := le_ofDigitChars s (acc * 10 + (c.toNat - '0'.toNat))
      rw [readDigits, digit?_of_isDigit (hs c List.mem_cons_self), Nat.ofDigitChars_cons,
        Nat.mul_comm 10 acc]
      simp only
      split
      · next hbeyond => rw [if_pos (Nat.lt_of_lt_of_le hbeyond hle)]
      · next hwithin =>
          exact ih (fun c' hc' => hs c' (List.mem_cons_of_mem c hc')) (Nat.not_lt.mp hwithin)

theorem Denotes.readNat_eq {s : List Char} {n : Nat} (h : Denotes s n) (bound : Nat) :
    readNat 10 bound s = if bound < n then .error .tooLarge else .ok n := by
  obtain ⟨hne, hdigits, rfl⟩ := h
  have hplus : '+' ∉ s := fun hmem => absurd (hdigits _ hmem) (by decide)
  unfold readNat
  split
  · exact absurd rfl hne
  · exact absurd List.mem_cons_self hplus
  · exact absurd List.mem_cons_self hplus
  · exact readDigits_eq hdigits (Nat.zero_le bound)

end XmlBounds.Text
