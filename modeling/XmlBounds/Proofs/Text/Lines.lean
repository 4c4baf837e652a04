import Mathlib.Data.List.Basic
import XmlBounds.Text.Blank
import XmlBounds.Text.Split

/-!
# The lines of a text

A text is read line by line. What follows a line end is read as if it were a text of its own.
-/

namespace XmlBounds.Text

variable {line rest : List Char}

@[simp] theorem lines_nil : lines [] = [] := rfl

theorem dropReturn_concat (line : List Char) : dropReturn (line ++ ['\r']) = line := by
  simp [dropReturn]

/-- A carriage return in front of a line feed is a blank that is not part of the line. -/
theorem exists_dropReturn (line : List Char) :
    ∃ blanks, line = dropReturn line ++ blanks ∧ ∀ c ∈ blanks, isBlank c = true := by
  unfold dropReturn
  split
  · next hlast =>
      refine ⟨['\r'], (List.dropLast_append_getLast? '\r' hlast).symm, ?_⟩
      intro c hc
      rw [List.mem_singleton.mp hc]
      decide
  · exact ⟨[], by simp, by simp⟩

theorem lines_append (h : '\n' ∉ line) (rest : List Char) :
    lines (line ++ '\n' :: rest) = dropReturn line :: lines rest := by
  have hne := splitOn_ne_nil '\n' rest
  rw [lines, splitOn_append_cons, splitOn_of_notMem h]
  simp [lines, List.dropLast_cons_of_ne_nil hne, List.getLast?_cons,
    List.getLast?_eq_some_getLast hne]

theorem lines_append_return (h : '\n' ∉ line) (rest : List Char) :
    lines (line ++ '\r' :: '\n' :: rest) = line :: lines rest := by
  have hreturn : '\n' ∉ line ++ ['\r'] := by simpa using h
  have hsplit : line ++ '\r' :: '\n' :: rest = (line ++ ['\r']) ++ '\n' :: rest := by simp
  rw [hsplit, lines_append hreturn, dropReturn_concat]

theorem lines_of_notMem (h : '\n' ∉ line) : lines line = if line = [] then [] else [line] := by
  rw [lines, splitOn_of_notMem h]
  split <;> simp_all

end XmlBounds.Text
