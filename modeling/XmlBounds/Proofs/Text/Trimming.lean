import Mathlib.Data.List.TakeWhile
import XmlBounds.Text.Blank

/-!
# Trimming

Trimming takes the blanks from the ends of a text, and nothing from within it.
-/

namespace XmlBounds.Text

variable {s t : List Char}

theorem trimStart_append_of_blank (h : ∀ c ∈ s, isBlank c = true) :
    trimStart (s ++ t) = trimStart t := List.dropWhile_append_of_pos h

theorem trimStart_append (h : trimStart s ≠ []) : trimStart (s ++ t) = trimStart s ++ t := by
  unfold trimStart at h ⊢
  rw [List.dropWhile_append, if_neg]
  simpa using h

theorem length_trimStart_le (s : List Char) : (trimStart s).length ≤ s.length :=
  (List.dropWhile_suffix _).length_le

theorem trimStart_eq_nil_iff : trimStart s = [] ↔ ∀ c ∈ s, isBlank c = true :=
  List.dropWhile_eq_nil_iff

theorem trimStart_eq_self_iff : trimStart s = s ↔ ∀ c ∈ s.head?, isBlank c = false := by
  cases s with
  | nil => simp
  | cons c s =>
      cases hc : isBlank c with
      | false => simp [trimStart, hc]
      | true =>
          refine iff_of_false (fun hs => ?_) (by simp [hc])
          have hlength := congrArg List.length hs
          have hle := length_trimStart_le s
          simp only [trimStart, List.dropWhile_cons, hc, if_true, List.length_cons] at hlength hle
          omega

theorem trimEnd_eq (s : List Char) : trimEnd s = (trimStart s.reverse).reverse := rfl

theorem trimEnd_append_of_blank (h : ∀ c ∈ t, isBlank c = true) :
    trimEnd (s ++ t) = trimEnd s := by
  rw [trimEnd_eq, List.reverse_append, trimStart_append_of_blank, ← trimEnd_eq]
  intro c hc
  exact h c (List.mem_reverse.mp hc)

theorem trimEnd_eq_nil_iff : trimEnd s = [] ↔ ∀ c ∈ s, isBlank c = true := by
  rw [trimEnd_eq, List.reverse_eq_nil_iff, trimStart_eq_nil_iff]
  simp only [List.mem_reverse]

theorem trimEnd_append (h : trimEnd t ≠ []) : trimEnd (s ++ t) = s ++ trimEnd t := by
  rw [trimEnd_eq, List.reverse_append, trimStart_append, List.reverse_append, List.reverse_reverse,
    ← trimEnd_eq]
  intro hnil
  exact h (by rw [trimEnd_eq, hnil, List.reverse_nil])

theorem trimEnd_eq_self_iff : trimEnd s = s ↔ ∀ c ∈ s.getLast?, isBlank c = false := by
  rw [trimEnd_eq, List.reverse_eq_iff, trimStart_eq_self_iff, List.head?_reverse]

theorem exists_trimEnd (s : List Char) :
    ∃ blanks, s = trimEnd s ++ blanks ∧ ∀ c ∈ blanks, isBlank c = true := by
  refine ⟨(s.reverse.takeWhile isBlank).reverse, ?_, ?_⟩
  · rw [trimEnd, ← List.reverse_append, List.takeWhile_append_dropWhile, List.reverse_reverse]
  · intro c hc
    exact List.all_eq_true.mp List.all_takeWhile c (List.mem_reverse.mp hc)

theorem trimEnd_append_trimEnd (s t : List Char) : trimEnd (s ++ trimEnd t) = trimEnd (s ++ t) := by
  obtain ⟨blanks, ht, hblanks⟩ := exists_trimEnd t
  calc
    trimEnd (s ++ trimEnd t) = trimEnd (s ++ trimEnd t ++ blanks) :=
      (trimEnd_append_of_blank hblanks).symm
    _ = trimEnd (s ++ t) := by rw [List.append_assoc, ← ht]

theorem trim_append_of_blank (h : ∀ c ∈ t, isBlank c = true) : trim (s ++ t) = trim s := by
  by_cases hs : trimStart s = []
  · have hall := trimStart_eq_nil_iff.mp hs
    have hst : trimStart (s ++ t) = [] := by
      rw [trimStart_append_of_blank hall, trimStart_eq_nil_iff]
      exact h
    rw [trim, hst, trim, hs]
  · rw [trim, trimStart_append hs, trimEnd_append_of_blank h, trim]

theorem trim_of_blank_append (h : ∀ c ∈ s, isBlank c = true) : trim (s ++ t) = trim t := by
  rw [trim, trimStart_append_of_blank h, trim]

theorem exists_trim (s : List Char) : ∃ front back, s = front ++ (trim s ++ back) ∧
    (∀ c ∈ front, isBlank c = true) ∧ ∀ c ∈ back, isBlank c = true := by
  obtain ⟨back, hback, hblank⟩ := exists_trimEnd (trimStart s)
  refine ⟨s.takeWhile isBlank, back, ?_, List.all_eq_true.mp List.all_takeWhile, hblank⟩
  calc
    s = s.takeWhile isBlank ++ trimStart s := List.takeWhile_append_dropWhile.symm
    _ = s.takeWhile isBlank ++ (trim s ++ back) := by rw [trim, ← hback]

end XmlBounds.Text
