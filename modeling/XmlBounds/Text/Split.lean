/-!
# Splitting a text

A text is cut at a separator, or into its lines.
-/

namespace XmlBounds.Text

variable {α : Type} [DecidableEq α]

/-- The pieces between the separators: always one more than there are separators. -/
def splitOn (sep : α) : List α → List (List α)
  | [] => [[]]
  | c :: rest =>
      match splitOn sep rest with
      | [] => [[]]
      | piece :: pieces => if c = sep then [] :: piece :: pieces else (c :: piece) :: pieces

theorem splitOn_ne_nil (sep : α) (s : List α) : splitOn sep s ≠ [] := by
  induction s with
  | nil => simp [splitOn]
  | cons c s ih =>
      rw [splitOn]
      split
      · simp
      · split <;> simp

/-- The pieces of a text are those of what precedes a separator, then those of what follows it. -/
theorem splitOn_append_cons (sep : α) (s t : List α) :
    splitOn sep (s ++ sep :: t) = splitOn sep s ++ splitOn sep t := by
  induction s with
  | nil =>
      obtain ⟨piece, pieces, h⟩ := List.exists_cons_of_ne_nil (splitOn_ne_nil sep t)
      simp [splitOn, h]
  | cons c s ih =>
      obtain ⟨piece, pieces, h⟩ := List.exists_cons_of_ne_nil (splitOn_ne_nil sep s)
      simp only [List.cons_append, splitOn, ih, h]
      split <;> rfl

theorem splitOn_of_notMem {sep : α} {s : List α} (h : sep ∉ s) : splitOn sep s = [s] := by
  induction s with
  | nil => rfl
  | cons c s ih =>
      have hc : c ≠ sep := fun heq => h (heq ▸ List.mem_cons_self)
      rw [splitOn, ih fun hmem => h (List.mem_cons_of_mem c hmem)]
      simp only [if_neg hc]

/-- The text without one carriage return at its end. -/
def dropReturn (s : List Char) : List Char := if s.getLast? = some '\r' then s.dropLast else s

/-- The lines of a text. A line feed ends a line, together with a carriage return in front of it;
what follows the last line feed is a line if it is not empty. -/
def lines (s : List Char) : List (List Char) :=
  let pieces := splitOn '\n' s
  pieces.dropLast.map dropReturn ++ pieces.getLast?.toList.filter (· ≠ [])

end XmlBounds.Text
