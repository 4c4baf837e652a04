import Mathlib.Data.List.TakeWhile

/-!
# Spans of a text

A text begins with a span of characters of a class, which ends where the first other character
stands.
-/

namespace XmlBounds.Text

variable {p : Char → Bool} {s t : List Char}

theorem takeWhile_append_stop (hs : ∀ c ∈ s, p c = true) (ht : ∀ c ∈ t.head?, p c = false) :
    (s ++ t).takeWhile p = s := by
  rw [List.takeWhile_append_of_pos hs]
  cases t with
  | nil => simp
  | cons c t => simp [ht c rfl]

theorem dropWhile_append_stop (hs : ∀ c ∈ s, p c = true) (ht : ∀ c ∈ t.head?, p c = false) :
    (s ++ t).dropWhile p = t := by
  rw [List.dropWhile_append_of_pos hs]
  cases t with
  | nil => rfl
  | cons c t => simp [ht c rfl]

theorem not_of_dropWhile_eq_cons {c : Char} (h : s.dropWhile p = c :: t) : p c = false := by
  have hstop := List.head?_dropWhile_not p s
  rwa [h] at hstop

theorem not_of_dropWhile_eq_append {u v : List Char} (h : s.dropWhile p = u ++ v) :
    ∀ c ∈ u.head?, p c = false := by
  cases u with
  | nil => simp
  | cons c u =>
      rintro _ ⟨⟩
      exact not_of_dropWhile_eq_cons h

end XmlBounds.Text
