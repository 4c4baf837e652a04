import Mathlib.Data.List.Basic
import XmlBounds.Properties.Basic
import XmlBounds.Proofs.Text.Trimming

/-!
# Lines that go on

A natural line goes on with the next one if it ends in an odd number of backslashes. Of a line that
continues another the blanks at its end are taken away before the backslashes are counted, of a line
that begins a logical line they are not: so the end of the line alone does not tell whether it goes
on. And a line that holds nothing but a backslash leaves nothing to go on with, so that the next
line is taken for a beginning.
-/

namespace XmlBounds.Properties

variable {s t : List Char}

/-! ## Backslashes at the end -/

@[simp] theorem continues_nil : continues [] = false := rfl

theorem continues_append (h : ∀ c ∈ s.getLast?, c ≠ '\\') (t : List Char) :
    continues (s ++ t) = continues t := by
  have hstop : s.reverse.takeWhile (· == '\\') = [] := by
    cases hs : s.reverse with
    | nil => rfl
    | cons c rest =>
        have hc : c ≠ '\\' := by
          apply h
          rw [← List.head?_reverse, hs]
          rfl
        simp [hc]
  unfold continues
  rw [List.reverse_append, List.takeWhile_append, hstop, List.append_nil]
  split
  · next hlength => rw [(List.takeWhile_prefix _).eq_of_length hlength]
  · rfl

/-- The line ends in an odd number of backslashes. -/
def EndsOdd (s : List Char) : Prop :=
  ∃ front n, s = front ++ List.replicate (2 * n + 1) '\\' ∧ ∀ c ∈ front.getLast?, c ≠ '\\'

theorem continues_iff : continues s = true ↔ EndsOdd s := by
  constructor
  · intro h
    let backslashes := s.reverse.takeWhile (· == '\\')
    let front := s.reverse.dropWhile (· == '\\')
    have hlength : backslashes.length % 2 = 1 := by simpa [continues] using h
    have hall : backslashes = List.replicate backslashes.length '\\' := by
      apply List.eq_replicate_of_mem
      intro c hc
      exact eq_of_beq (List.all_eq_true.mp List.all_takeWhile c hc)
    have hodd : 2 * (backslashes.length / 2) + 1 = backslashes.length := by omega
    refine ⟨front.reverse, backslashes.length / 2, ?_, ?_⟩
    · rw [hodd, ← List.reverse_replicate, ← hall, ← List.reverse_append,
        List.takeWhile_append_dropWhile, List.reverse_reverse]
    · rw [List.getLast?_reverse]
      rintro _ hc rfl
      have hstop := List.head?_dropWhile_not (· == '\\') s.reverse
      rw [hc] at hstop
      cases hstop
  · rintro ⟨front, n, rfl, hfront⟩
    rw [continues_append hfront]
    simp [continues]

instance : DecidablePred EndsOdd := fun _ => decidable_of_iff _ continues_iff

theorem getLast?_ne_of_blank (h : ∀ c ∈ s, Text.isBlank c = true) : ∀ c ∈ s.getLast?, c ≠ '\\' := by
  rintro _ hc rfl
  have hblank := h _ (List.mem_of_getLast? hc)
  revert hblank
  decide

theorem continues_trimStart (s : List Char) : continues (Text.trimStart s) = continues s := by
  have hsplit : s = s.takeWhile Text.isBlank ++ Text.trimStart s :=
    List.takeWhile_append_dropWhile.symm
  conv => rhs; rw [hsplit]
  rw [continues_append]
  exact getLast?_ne_of_blank (List.all_eq_true.mp List.all_takeWhile)

theorem continues_trim (s : List Char) : continues (Text.trim s) = continues (Text.trimEnd s) := by
  obtain ⟨front, back, hs, hfront, hback⟩ := Text.exists_trim s
  have hend : Text.trimEnd s = Text.trimEnd (front ++ Text.trim s) := by
    conv => lhs; rw [hs]
    rw [← List.append_assoc, Text.trimEnd_append_of_blank hback]
  have htrim : Text.trimEnd (Text.trim s) = Text.trim s := by
    have hcut := Text.trimEnd_append_trimEnd [] (Text.trimStart s)
    exact hcut
  by_cases hnil : Text.trim s = []
  · rw [hend, hnil, List.append_nil, Text.trimEnd_eq_nil_iff.mpr hfront]
  · rw [hend, Text.trimEnd_append (by rwa [htrim]), htrim,
      continues_append (getLast?_ne_of_blank hfront)]

theorem getLast?_of_continues (h : continues s = true) : s.getLast? = some '\\' := by
  rw [← List.head?_reverse]
  unfold continues at h
  cases hs : s.reverse with
  | nil =>
      rw [hs] at h
      cases h
  | cons c rest =>
      rw [hs, List.takeWhile_cons] at h
      split at h
      · next hc => rw [List.head?_cons, eq_of_beq hc]
      · cases h

theorem trimEnd_of_continues (h : continues s = true) : Text.trimEnd s = s := by
  rw [Text.trimEnd_eq_self_iff, getLast?_of_continues h]
  rintro _ ⟨⟩
  decide

theorem dropLast_of_continues (h : continues s = true) : s.dropLast ++ ['\\'] = s :=
  List.dropLast_append_getLast? '\\' (getLast?_of_continues h)

/-! ## Reading on -/

/-- Reads a natural line: what has been read and the text that is pending become what they are for
the next one. -/
def readLine (state : Properties × List Char) (natural : List Char) : Properties × List Char :=
  let (p, pending) := state
  let line := if pending = [] then Text.trimStart natural else Text.trim natural
  if pending = [] ∧ isSkipped line then (p, [])
  else if continues line then (p, pending ++ line.dropLast)
  else (p.insertLine (pending ++ line), [])

variable {p : Properties} {pending natural : List Char} {before after : List (List Char)}

theorem readLines_cons (p : Properties) (pending natural : List Char) (rest : List (List Char)) :
    readLines p pending (natural :: rest) =
      readLines (readLine (p, pending) natural).1 (readLine (p, pending) natural).2 rest := by
  rw [readLines]
  simp only [readLine]
  generalize (if pending = [] then Text.trimStart natural else Text.trim natural) = line
  split
  · rfl
  · split <;> rfl

/-- What has been read and what is pending after the first lines of a text. -/
def readAll (before : List (List Char)) : Properties × List Char :=
  before.foldl readLine (empty, [])

/-- The line after these continues the logical line that they leave open. -/
def LeavesOpen (before : List (List Char)) : Prop := (readAll before).2 ≠ []

instance (before : List (List Char)) : Decidable (LeavesOpen before) :=
  inferInstanceAs (Decidable (_ ≠ []))

theorem readLines_append (before after : List (List Char)) :
    readLines empty [] (before ++ after) =
      readLines (readAll before).1 (readAll before).2 after := by
  have hstep (p : Properties) (pending : List Char) :
      readLines p pending (before ++ after) =
        readLines (before.foldl readLine (p, pending)).1 (before.foldl readLine (p, pending)).2
          after := by
    induction before generalizing p pending with
    | nil => rfl
    | cons natural before ih => rw [List.cons_append, readLines_cons, ih, List.foldl_cons]
  exact hstep empty []

theorem readAll_concat (before : List (List Char)) (natural : List Char) :
    readAll (before ++ [natural]) = readLine (readAll before) natural :=
  List.foldl_append

/-- Where a logical line ends, what follows is read as if it began the text. -/
theorem readLines_of_not_leavesOpen (h : ¬ LeavesOpen before) (after : List (List Char)) :
    readLines empty [] (before ++ after) = readLines (readLines empty [] before) [] after := by
  have hclosed : (readAll before).2 = [] := not_not.mp h
  have hbefore := readLines_append before []
  rw [List.append_nil, hclosed] at hbefore
  rw [readLines_append, hclosed, hbefore]
  rfl

/-! ## Whether a line goes on -/

/-- The line begins with the mark of a comment. -/
def IsComment (natural : List Char) : Prop :=
  ∃ c ∈ (Text.trimStart natural).head?, c = '#' ∨ c = '!'

theorem isSkipped_iff : isSkipped (Text.trimStart natural) = true ↔
    Text.trimStart natural = [] ∨ IsComment natural := by
  unfold IsComment
  cases Text.trimStart natural <;> simp [isSkipped]

/-- A first line goes on if it ends in an odd number of backslashes and holds more than the one. -/
theorem leavesOpen_first (h : ¬ LeavesOpen before) (hcomment : ¬ IsComment natural) :
    LeavesOpen (before ++ [natural]) ↔
      EndsOdd natural ∧ Text.trimStart natural ≠ ['\\'] := by
  rw [LeavesOpen, readAll_concat, ← continues_iff, ← continues_trimStart]
  have hclosed : (readAll before).2 = [] := not_not.mp h
  generalize readAll before = state at hclosed
  obtain ⟨q, _⟩ := state
  subst hclosed
  by_cases hskipped : isSkipped (Text.trimStart natural) = true
  · have hnil : Text.trimStart natural = [] := (isSkipped_iff.mp hskipped).resolve_right hcomment
    simp [readLine, hnil, isSkipped]
  · by_cases hgoes : continues (Text.trimStart natural) = true
    · have hlast := dropLast_of_continues hgoes
      have hrest : (readLine (q, []) natural).2 = (Text.trimStart natural).dropLast := by
        simp [readLine, hskipped, hgoes]
      rw [hrest]
      refine (and_iff_right hgoes).symm.trans (and_congr_right fun _ => not_congr ?_)
      rw [← hlast]
      simp
    · simp [readLine, hskipped, hgoes]

/-- A line that continues another goes on if it does so without the blanks at its end. -/
theorem leavesOpen_following (h : LeavesOpen before) :
    LeavesOpen (before ++ [natural]) ↔ EndsOdd (Text.trimEnd natural) := by
  rw [LeavesOpen, readAll_concat, ← continues_iff, ← continues_trim]
  have hopen : (readAll before).2 ≠ [] := h
  generalize readAll before = state at hopen
  obtain ⟨q, pending⟩ := state
  have hpending : pending ≠ [] := hopen
  by_cases hgoes : continues (Text.trim natural) = true <;>
    simp [readLine, hpending, hgoes]

/-- The line is read otherwise than its end tells: it continues another and has blanks behind an odd
number of backslashes, or it begins a logical line with one backslash and nothing else. -/
inductive Misread (before : List (List Char)) (natural : List Char) : Prop where
  | blanks : LeavesOpen before → ¬ EndsOdd natural → EndsOdd (Text.trimEnd natural) →
      Misread before natural
  | lone : ¬ LeavesOpen before → Text.trimStart natural = ['\\'] → Misread before natural

theorem EndsOdd.trimEnd (h : EndsOdd s) : EndsOdd (Text.trimEnd s) := by
  rwa [trimEnd_of_continues (continues_iff.mpr h)]

theorem endsOdd_of_lone (h : Text.trimStart s = ['\\']) : EndsOdd s := by
  rw [← continues_iff, ← continues_trimStart, h]
  rfl

theorem leavesOpen_concat_iff (hcomment : LeavesOpen before ∨ ¬ IsComment natural) :
    (LeavesOpen (before ++ [natural]) ↔ EndsOdd natural) ↔ ¬ Misread before natural := by
  by_cases hopen : LeavesOpen before
  · rw [leavesOpen_following hopen]
    constructor
    · rintro heq (⟨_, hend, htrimmed⟩ | ⟨hfirst, _⟩)
      · exact hend (heq.mp htrimmed)
      · exact hfirst hopen
    · intro hread
      refine ⟨fun htrimmed => ?_, EndsOdd.trimEnd⟩
      by_contra hend
      exact hread (.blanks hopen hend htrimmed)
  · rw [leavesOpen_first hopen (hcomment.resolve_left hopen)]
    constructor
    · rintro heq (⟨hopen', _, _⟩ | ⟨_, hlone⟩)
      · exact hopen hopen'
      · exact (heq.mpr (endsOdd_of_lone hlone)).2 hlone
    · intro hread
      exact and_iff_left fun hlone => hread (.lone hopen hlone)

/-- Whether a line of a text goes on is told by its end just if the line is not misread. Then no
line is taken into the entry before it unless that one ends in an odd number of backslashes. -/
theorem goesOn_by_end {text : String} (hlines : Text.lines text.toList = before ++ natural :: after)
    (hcomment : LeavesOpen before ∨ ¬ IsComment natural) :
    parse text =
        readLines (readAll (before ++ [natural])).1 (readAll (before ++ [natural])).2 after ∧
      ((LeavesOpen (before ++ [natural]) ↔ EndsOdd natural) ↔ ¬ Misread before natural) ∧
      (¬ EndsOdd natural → ¬ Misread before natural →
        parse text = readLines (readLines empty [] (before ++ [natural])) [] after) := by
  have hparse : parse text = readLines empty [] ((before ++ [natural]) ++ after) := by
    rw [parse, hlines, List.append_assoc]
    rfl
  rw [hparse]
  refine ⟨readLines_append _ after, leavesOpen_concat_iff hcomment, ?_⟩
  intro hend hread
  apply readLines_of_not_leavesOpen
  rwa [(leavesOpen_concat_iff hcomment).mpr hread]

theorem goesOn_by_end_first_line :
    Text.lines "a=1\\ \nlimit=5".toList = [] ++ "a=1\\ ".toList :: ["limit=5".toList] ∧
      (LeavesOpen [] ∨ ¬ IsComment "a=1\\ ".toList) ∧ ¬ EndsOdd "a=1\\ ".toList ∧
      ¬ Misread [] "a=1\\ ".toList ∧
      parse "a=1\\ \nlimit=5" =
        readLines (readLines empty [] ["a=1\\ ".toList]) [] ["limit=5".toList] := by
  have hlines : Text.lines "a=1\\ \nlimit=5".toList =
      [] ++ "a=1\\ ".toList :: ["limit=5".toList] := by decide +kernel
  have hcomment : ¬ IsComment "a=1\\ ".toList := by
    rintro ⟨c, hc, hmark⟩
    cases hc
    revert hmark
    decide
  have hend : ¬ EndsOdd "a=1\\ ".toList := by decide +kernel
  have hread : ¬ Misread [] "a=1\\ ".toList := by
    rintro (⟨hopen, _, _⟩ | ⟨_, hlone⟩)
    · exact hopen rfl
    · revert hlone
      decide +kernel
  exact ⟨hlines, .inr hcomment, hend, hread, (goesOn_by_end hlines (.inr hcomment)).2.2 hend hread⟩

theorem not_forall_goesOn_by_end :
    ¬ ∀ (text : String) (before : List (List Char)) (natural : List Char)
      (after : List (List Char)), Text.lines text.toList = before ++ natural :: after →
      LeavesOpen before ∨ ¬ IsComment natural →
      (LeavesOpen (before ++ [natural]) ↔ EndsOdd natural) := by
  intro h
  have hlines : Text.lines "a=1\\\nb\\ \nlimit=5".toList =
      ["a=1\\".toList] ++ "b\\ ".toList :: ["limit=5".toList] := by decide +kernel
  have hopen : LeavesOpen ["a=1\\".toList] := by decide +kernel
  have hnext : LeavesOpen (["a=1\\".toList] ++ ["b\\ ".toList]) := by decide +kernel
  have hend : ¬ EndsOdd "b\\ ".toList := by decide +kernel
  exact hend ((h _ _ _ _ hlines (.inl hopen)).mp hnext)

-- The entry of the last line is lost in the value of the one before it.
example : (parse "a=1\\\nb\\ \nlimit=5").entries = [("a", "1blimit=5")] := by decide +kernel

end XmlBounds.Properties
