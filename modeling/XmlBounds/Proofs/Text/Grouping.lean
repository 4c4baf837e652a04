import Mathlib.Logic.Function.Defs
import XmlBounds.Text.Grouped

/-!
# Groups of thousands

The digits of a number are parted from the left, but the groups are counted from the right: what is
left over for the first group is what the others leave of the number of digits.
-/

namespace XmlBounds.Text

variable {s first : List Char} {groups : List (List Char)} {n : Int}

/-- A first group of one to three digits, and further groups of three. -/
structure IsGrouping (first : List Char) (groups : List (List Char)) : Prop where
  ne_nil : first ≠ []
  length_le : first.length ≤ 3
  length_eq : ∀ g ∈ groups, g.length = 3
  isDigit : ∀ g ∈ first :: groups, ∀ c ∈ g, c.isDigit = true

/-- The groups with a comma before each but the first. -/
def joined (first : List Char) (groups : List (List Char)) : List Char :=
  first ++ groups.flatMap (',' :: ·)

theorem exists_separate_eq (hne : s ≠ []) (hs : ∀ c ∈ s, c.isDigit = true) :
    ∃ first groups, IsGrouping first groups ∧ first.length % 3 = s.length % 3 ∧
      separate s = joined first groups := by
  -- A digit before full groups begins a group, and any other joins the first group.
  induction s with
  | nil => exact absurd rfl hne
  | cons d rest ih =>
      obtain ⟨hd, hrest⟩ := List.forall_mem_cons.mp hs
      rw [separate]
      cases rest with
      | nil =>
          refine ⟨[d], [], ⟨by simp, by simp, by simp, ?_⟩, rfl, rfl⟩
          simpa using hd
      | cons e rest =>
          obtain ⟨first, groups, h, hlength, heq⟩ := ih (by simp) hrest
          have hpos : 0 < first.length := List.length_pos_iff.mpr h.ne_nil
          have hle := h.length_le
          rw [heq]
          split
          · next hfull =>
              -- The first group so far is full.
              have hthree : first.length = 3 := by
                rw [hfull.2] at hlength
                omega
              refine ⟨[d], first :: groups, ⟨by simp, by simp, ?_, ?_⟩, ?_, by simp [joined]⟩
              · exact List.forall_mem_cons.mpr ⟨hthree, h.length_eq⟩
              · exact List.forall_mem_cons.mpr ⟨by simpa using hd, h.isDigit⟩
              · have hlen : (d :: e :: rest).length = (e :: rest).length + 1 := rfl
                rw [hlen, Nat.add_mod, hfull.2]
                rfl
          · next hopen =>
              have hmod : (e :: rest).length % 3 ≠ 0 := fun hzero => hopen ⟨by simp, hzero⟩
              obtain ⟨hfirst, hgroups⟩ := List.forall_mem_cons.mp h.isDigit
              refine ⟨d :: first, groups, ⟨by simp, ?_, h.length_eq, ?_⟩, ?_, rfl⟩
              · rw [List.length_cons]
                omega
              · exact List.forall_mem_cons.mpr ⟨List.forall_mem_cons.mpr ⟨hd, hfirst⟩, hgroups⟩
              · rw [List.length_cons, List.length_cons, Nat.add_mod, hlength, ← Nat.add_mod]

/-- The sign of a number, which stands before its digits. -/
def sign (n : Int) : List Char := if n < 0 then ['-'] else []

theorem isDigit_of_mem_decimal {m : Nat} {c : Char} (h : c ∈ Nat.toDigits 10 m) :
    c.isDigit = true :=
  Nat.isDigit_of_mem_toDigits (by decide) (by decide) h

theorem toList_grouped (n : Int) :
    (grouped n).toList = sign n ++ separate (Nat.toDigits 10 n.natAbs) := by
  rw [grouped, String.toList_ofList, sign]

theorem toList_toString (n : Int) :
    (toString n).toList = sign n ++ Nat.toDigits 10 n.natAbs := by
  rw [Int.toString_eq_repr, Int.repr_eq_if, sign]
  by_cases hn : n < 0
  · rw [if_neg (by omega), if_pos hn, String.toList_append, Nat.toList_repr]
    have habs : (-n).toNat = n.natAbs := by omega
    rw [habs]
    rfl
  · rw [if_pos (by omega), if_neg hn, Nat.toList_repr]
    have habs : n.toNat = n.natAbs := by omega
    rw [habs]
    rfl

theorem filter_grouped (n : Int) :
    (grouped n).toList.filter (· != ',') = (toString n).toList := by
  have hcomma : ',' ∉ Nat.toDigits 10 n.natAbs := by
    intro hmem
    have hdigit := isDigit_of_mem_decimal hmem
    cases hdigit
  have hsign : (sign n).filter (· != ',') = sign n := by
    unfold sign
    split
    · rfl
    · rfl
  rw [toList_grouped, toList_toString, List.filter_append, filter_separate hcomma, hsign]

theorem sign_append_inj {m n : Int} {c d : Char} {u v : List Char} (hc : c.isDigit = true)
    (hd : d.isDigit = true) (h : sign m ++ c :: u = sign n ++ d :: v) :
    sign m = sign n ∧ c :: u = d :: v := by
  have hminus : ∀ e : Char, e.isDigit = true → e ≠ '-' := by
    rintro e he rfl
    cases he
  unfold sign at h ⊢
  split at h
  · split at h
    · next hm hn =>
        rw [if_pos hm, if_pos hn]
        exact ⟨rfl, (List.cons.inj h).2⟩
    · exact absurd (List.cons.inj h).1.symm (hminus d hd)
  · split at h
    · exact absurd (List.cons.inj h).1 (hminus c hc)
    · next hm hn =>
        rw [if_neg hm, if_neg hn]
        exact ⟨rfl, h⟩

theorem neg_iff_of_sign {m n : Int} (h : sign m = sign n) : m < 0 ↔ n < 0 := by
  unfold sign at h
  split at h
  · next hm =>
      split at h
      · next hn => exact iff_of_true hm hn
      · cases h
  · next hm =>
      split at h
      · cases h
      · next hn => exact iff_of_false hm hn

theorem eq_of_toString {m n : Int} (h : (toString m).toList = (toString n).toList) : m = n := by
  have hdigits (k : Int) : ∃ c u, Nat.toDigits 10 k.natAbs = c :: u ∧ c.isDigit = true := by
    obtain ⟨c, u, heq⟩ := List.exists_cons_of_ne_nil (Nat.toDigits_ne_nil (b := 10) (n := k.natAbs))
    exact ⟨c, u, heq, isDigit_of_mem_decimal (heq ▸ List.mem_cons_self)⟩
  obtain ⟨c, u, hm, hc⟩ := hdigits m
  obtain ⟨d, v, hn, hd⟩ := hdigits n
  rw [toList_toString, toList_toString, hm, hn] at h
  obtain ⟨hsign, heq⟩ := sign_append_inj hc hd h
  have habs : m.natAbs = n.natAbs := by
    calc
      m.natAbs = Nat.ofDigitChars 10 (Nat.toDigits 10 m.natAbs) 0 :=
        Nat.ofDigitChars_ten_toDigits.symm
      _ = Nat.ofDigitChars 10 (Nat.toDigits 10 n.natAbs) 0 := by rw [hm, hn, heq]
      _ = n.natAbs := Nat.ofDigitChars_ten_toDigits
  have hneg := neg_iff_of_sign hsign
  omega

theorem exists_toList_grouped (n : Int) : ∃ first groups, IsGrouping first groups ∧
    (grouped n).toList = sign n ++ joined first groups := by
  have hdigits : ∀ c ∈ Nat.toDigits 10 n.natAbs, c.isDigit = true :=
    fun c hc => isDigit_of_mem_decimal hc
  obtain ⟨first, groups, h, _, heq⟩ := exists_separate_eq Nat.toDigits_ne_nil hdigits
  exact ⟨first, groups, h, by rw [toList_grouped, heq]⟩

/-- Without its commas a grouped number is its decimal text. The commas part groups of three digits,
behind a first group of one to three, and none comes first or next to the sign. Two numbers never
have the same grouped text. -/
theorem grouped_faithful :
    (∀ n : Int, (grouped n).toList.filter (· != ',') = (toString n).toList ∧
      (∃ first groups, IsGrouping first groups ∧
        (grouped n).toList = sign n ++ joined first groups) ∧
      ∀ s, (grouped n).toList ≠ ',' :: s ∧ (grouped n).toList ≠ '-' :: ',' :: s) ∧
    Function.Injective grouped := by
  refine ⟨fun n => ⟨filter_grouped n, exists_toList_grouped n, ?_⟩, ?_⟩
  · intro s
    obtain ⟨first, groups, h, heq⟩ := exists_toList_grouped n
    obtain ⟨c, first, rfl⟩ := List.exists_cons_of_ne_nil h.ne_nil
    have hc : c.isDigit = true := h.isDigit _ List.mem_cons_self c List.mem_cons_self
    have hcomma : c ≠ ',' := by
      rintro rfl
      cases hc
    have hminus : c ≠ '-' := by
      rintro rfl
      cases hc
    rw [heq, joined, sign]
    split
    · simp [hcomma]
    · simp [hcomma, hminus]
  · intro m n h
    apply eq_of_toString
    rw [← filter_grouped, ← filter_grouped, h]

/-- The least number of 64 bits, whose amount is no such number. -/
example : grouped (-9223372036854775808) = "-9,223,372,036,854,775,808" := by decide +kernel

end XmlBounds.Text
