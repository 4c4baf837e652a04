import Mathlib.Data.List.Induction
import XmlBounds.Proofs.Properties.Continuation
import XmlBounds.Proofs.Text.Lines
import XmlBounds.Proofs.Text.Spans

/-!
# Properties as they are written

Entries that are written down in any of the ways that the syntax has are read back as they are. An
entry has a logical line, which may be broken wherever a backslash and the blanks of the next line
can be told from its own characters; the lines between entries are blank or remarks.
-/

namespace XmlBounds.Properties

/-! ## Writing -/

/-- Blanks within a line. -/
def IsIndent (s : List Char) : Prop := ∀ c ∈ s, Text.isBlank c = true ∧ c ≠ '\n'

inductive IsLineEnd : List Char → Prop where
  | feed : IsLineEnd ['\n']
  | returnFeed : IsLineEnd ['\r', '\n']

/-- What ends a line in front of the rest of a text; at the end of the text, nothing need. -/
inductive EndsLine : List Char → List Char → Prop where
  | line {lineEnd rest} : IsLineEnd lineEnd → EndsLine rest (lineEnd ++ rest)
  | text : EndsLine [] []

structure IsKey (key : List Char) : Prop where
  ne_nil : key ≠ []
  plain : ∀ c ∈ key, c ≠ '=' ∧ c ≠ ':' ∧ c ≠ '\\' ∧ Text.isBlank c = false
  no_mark : ∀ c ∈ key.head?, c ≠ '#' ∧ c ≠ '!'

structure IsValue (value : List Char) : Prop where
  one_line : '\n' ∉ value
  no_blank_first : ∀ c ∈ value.head?, Text.isBlank c = false
  no_blank_last : ∀ c ∈ value.getLast?, Text.isBlank c = false
  even : ¬ EndsOdd value

/-- What stands between a key and the value. -/
inductive WritesSeparator (value : List Char) : List Char → Prop where
  | mark {before mark after} : IsIndent before → mark = '=' ∨ mark = ':' → IsIndent after →
      WritesSeparator value (before ++ mark :: after)
  | blanks {blanks} : IsIndent blanks → blanks ≠ [] → value ≠ [] →
      (∀ c ∈ value.head?, c ≠ '=' ∧ c ≠ ':') → WritesSeparator value blanks

/-- A logical line as it is broken into natural lines. It is broken neither behind a backslash of
its own nor in front of a blank. -/
inductive Breaks : List Char → List Char → Prop where
  | whole {line} : Breaks line line
  | broken {piece line lineEnd indent written} : (∀ c ∈ piece.getLast?, c ≠ '\\') →
      (∀ c ∈ line.head?, Text.isBlank c = false) → IsLineEnd lineEnd → IsIndent indent →
      Breaks line written →
      Breaks (piece ++ line) (piece ++ '\\' :: (lineEnd ++ (indent ++ written)))

/-- A blank line or a comment. A comment may end in a backslash. -/
inductive IsRemark : List Char → Prop where
  | blank {indent} : IsIndent indent → IsRemark indent
  | comment {indent mark words} : IsIndent indent → mark = '#' ∨ mark = '!' → '\n' ∉ words →
      IsRemark (indent ++ mark :: words)

/-- A properties text that holds the entries. -/
inductive Renders : List (String × String) → List Char → Prop where
  | nil : Renders [] []
  | remark {line rest tail entries} : IsRemark line → EndsLine rest tail → Renders entries rest →
      Renders entries (line ++ tail)
  | entry {indent written rest tail key value separator entries} : IsIndent indent → IsKey key →
      IsValue value → WritesSeparator value separator →
      Breaks (key ++ (separator ++ value)) written → EndsLine rest tail → Renders entries rest →
      Renders ((String.ofList key, String.ofList value) :: entries) (indent ++ (written ++ tail))

/-! ## Entries -/

variable {s t blanks key value separator line natural pending : List Char} {p : Properties}

theorem IsIndent.blank (h : IsIndent s) : ∀ c ∈ s, Text.isBlank c = true := fun c hc => (h c hc).1

theorem IsIndent.one_line (h : IsIndent s) : '\n' ∉ s := fun hc => (h '\n' hc).2 rfl

theorem endsKey_of_isBlank {c : Char} (h : Text.isBlank c = true) : endsKey c = true := by
  simp [endsKey, h]

theorem isSkipped_append (hs : s ≠ []) (t : List Char) : isSkipped (s ++ t) = isSkipped s := by
  cases s with
  | nil => exact absurd rfl hs
  | cons c s => rfl

theorem afterSeparator_mark {c : Char} (h : Text.trimStart s = c :: t) (hc : c = '=' ∨ c = ':') :
    afterSeparator s = Text.trimStart t := by
  rw [afterSeparator, h]
  rcases hc with rfl | rfl <;> rfl

theorem afterSeparator_other (h : ∀ c ∈ (Text.trimStart s).head?, c ≠ '=' ∧ c ≠ ':') :
    afterSeparator s = Text.trimStart s := by
  unfold afterSeparator
  split
  · next hs => exact absurd rfl (h '=' (by simp [hs])).1
  · next hs => exact absurd rfl (h ':' (by simp [hs])).2
  · rfl

theorem trimEnd_afterSeparator_append (h : ∀ c ∈ blanks, Text.isBlank c = true) (s : List Char) :
    Text.trimEnd (afterSeparator (s ++ blanks)) = Text.trimEnd (afterSeparator s) := by
  cases hs : Text.trimStart s with
  | nil =>
      have hall := Text.trimStart_eq_nil_iff.mp hs
      have hboth : Text.trimStart (s ++ blanks) = [] := by
        rw [Text.trimStart_append_of_blank hall, Text.trimStart_eq_nil_iff]
        exact h
      simp only [afterSeparator, hs, hboth]
  | cons c t =>
      have hne : Text.trimStart s ≠ [] := by simp [hs]
      have hboth : Text.trimStart (s ++ blanks) = c :: (t ++ blanks) := by
        rw [Text.trimStart_append hne, hs, List.cons_append]
      by_cases hc : c = '=' ∨ c = ':'
      · rw [afterSeparator_mark hs hc, afterSeparator_mark hboth hc]
        exact Text.trim_append_of_blank h
      · have hother := not_or.mp hc
        have hleft := afterSeparator_other (s := s) (by simpa [hs] using hother)
        have hright := afterSeparator_other (s := s ++ blanks) (by simpa [hboth] using hother)
        rw [hleft, hright, hs, hboth, ← List.cons_append, Text.trimEnd_append_of_blank h]

/-- The blanks at the end of a logical line do not count. -/
theorem splitEntry_append_of_blank (h : ∀ c ∈ blanks, Text.isBlank c = true) (s : List Char) :
    splitEntry (s ++ blanks) = splitEntry s := by
  have hstop : ∀ c ∈ blanks.head?, (!endsKey c) = false := by
    intro c hc
    rw [endsKey_of_isBlank (h c (List.mem_of_head? hc))]
    rfl
  have htake := Text.takeWhile_append_stop (s := []) (by simp) hstop
  have hdrop := Text.dropWhile_append_stop (s := []) (by simp) hstop
  rw [List.nil_append] at htake hdrop
  have hkey : (s ++ blanks).takeWhile (!endsKey ·) = s.takeWhile (!endsKey ·) := by
    rw [List.takeWhile_append, htake, List.append_nil]
    split
    · next hlength => rw [(List.takeWhile_prefix _).eq_of_length hlength]
    · rfl
  have hrest : (s ++ blanks).dropWhile (!endsKey ·) = s.dropWhile (!endsKey ·) ++ blanks := by
    rw [List.dropWhile_append, hdrop]
    split
    · next hnil => rw [List.isEmpty_iff.mp hnil, List.nil_append]
    · rfl
  rw [splitEntry, hkey, hrest, trimEnd_afterSeparator_append h, splitEntry]

theorem insertLine_trimEnd (p : Properties) (s : List Char) :
    p.insertLine (Text.trimEnd s) = p.insertLine s := by
  obtain ⟨blanks, hs, hblanks⟩ := Text.exists_trimEnd s
  conv => rhs; rw [hs]
  simp only [insertLine, splitEntry_append_of_blank hblanks]

theorem IsKey.not_endsKey (h : IsKey key) : ∀ c ∈ key, (!endsKey c) = true := by
  intro c hc
  obtain ⟨hequals, hcolon, _, hblank⟩ := h.plain c hc
  simp [endsKey, hequals, hcolon, hblank]

theorem WritesSeparator.endsKey (h : WritesSeparator value separator) :
    ∀ c ∈ (separator ++ value).head?, (!endsKey c) = false := by
  have hstart {blanks rest : List Char} (hblanks : IsIndent blanks)
      (hrest : blanks = [] → ∀ c ∈ rest.head?, Properties.endsKey c = true) :
      ∀ c ∈ (blanks ++ rest).head?, (!Properties.endsKey c) = false := by
    intro c hc
    rw [Bool.not_eq_false']
    cases blanks with
    | nil => exact hrest rfl c hc
    | cons d blanks =>
        cases hc
        exact endsKey_of_isBlank (hblanks.blank _ List.mem_cons_self)
  cases h with
  | mark hbefore hmark _ =>
      rw [List.append_assoc]
      apply hstart hbefore
      rintro _ _ ⟨⟩
      rcases hmark with rfl | rfl <;> rfl
  | blanks hblanks hne _ _ => exact hstart hblanks fun hnil => absurd hnil hne

theorem afterSeparator_of_writes (hvalue : IsValue value)
    (hseparator : WritesSeparator value separator) :
    afterSeparator (separator ++ value) = value := by
  have hstart := Text.trimStart_eq_self_iff.mpr hvalue.no_blank_first
  cases hseparator with
  | @mark before mark after hbefore hmark hafter =>
      have hmarked :
          Text.trimStart (before ++ mark :: after ++ value) = mark :: (after ++ value) := by
        rw [List.append_assoc, Text.trimStart_append_of_blank hbefore.blank,
          List.cons_append, Text.trimStart_eq_self_iff]
        rintro _ ⟨⟩
        rcases hmark with rfl | rfl <;> decide
      rw [afterSeparator_mark hmarked hmark, Text.trimStart_append_of_blank hafter.blank, hstart]
  | blanks hblanks _ _ hplain =>
      have hvalueOnly : Text.trimStart (separator ++ value) = value := by
        rw [Text.trimStart_append_of_blank hblanks.blank, hstart]
      rw [afterSeparator_other (by rwa [hvalueOnly]), hvalueOnly]

theorem splitEntry_of_writes (hkey : IsKey key) (hvalue : IsValue value)
    (hseparator : WritesSeparator value separator) :
    splitEntry (key ++ (separator ++ value)) = (key, value) := by
  rw [splitEntry, Text.takeWhile_append_stop hkey.not_endsKey hseparator.endsKey,
    Text.dropWhile_append_stop hkey.not_endsKey hseparator.endsKey,
    afterSeparator_of_writes hvalue hseparator, Text.trimEnd_eq_self_iff.mpr hvalue.no_blank_last]

/-! ## Lines -/

variable {lineEnd indent written rest tail : List Char}

theorem lines_append_lineEnd (hend : IsLineEnd lineEnd) (hone : '\n' ∉ line)
    (hlast : line.getLast? ≠ some '\r') (rest : List Char) :
    Text.lines (line ++ (lineEnd ++ rest)) = line :: Text.lines rest := by
  cases hend with
  | feed =>
      have hsame : Text.dropReturn line = line := if_neg hlast
      rw [List.singleton_append, Text.lines_append hone, hsame]
  | returnFeed => exact Text.lines_append_return hone rest

/-- The line is read without a carriage return that it may end in, which is a blank. An empty line
at the end of the text is none. -/
theorem lines_append_tail (htail : EndsLine rest tail) (hone : '\n' ∉ line) :
    (∃ natural blanks, line = natural ++ blanks ∧ (∀ c ∈ blanks, Text.isBlank c = true) ∧
        Text.lines (line ++ tail) = natural :: Text.lines rest) ∨
      line = [] ∧ Text.lines (line ++ tail) = Text.lines rest ∧ rest = [] := by
  cases htail with
  | line hend =>
      left
      cases hend with
      | feed =>
          obtain ⟨blanks, hline, hblanks⟩ := Text.exists_dropReturn line
          exact ⟨_, blanks, hline, hblanks, Text.lines_append hone rest⟩
      | returnFeed =>
          exact ⟨line, [], by simp, by simp, Text.lines_append_return hone rest⟩
  | text =>
      rw [List.append_nil, Text.lines_of_notMem hone]
      by_cases hnil : line = []
      · exact .inr ⟨hnil, by simp [hnil], rfl⟩
      · left
        exact ⟨line, [], by simp, by simp, by simp [hnil]⟩

theorem readLines_closing (hskip : pending = [] → isSkipped (Text.trimStart natural) = false)
    (htrim : Text.trim natural = Text.trimEnd line) (hend : ¬ EndsOdd (Text.trimEnd line))
    (more : List (List Char)) :
    readLines p pending (natural :: more) = readLines (p.insertLine (pending ++ line)) [] more := by
  have hstops : continues (Text.trim natural) = false := by
    rw [htrim]
    exact Bool.eq_false_iff.mpr fun h => hend (continues_iff.mp h)
  have hread : readLine (p, pending) natural = (p.insertLine (pending ++ line), []) := by
    by_cases hnil : pending = []
    · have hstart : continues (Text.trimStart natural) = false := by
        apply Bool.eq_false_iff.mpr
        intro hgoes
        rw [Text.trim, trimEnd_of_continues hgoes, hgoes] at hstops
        cases hstops
      have hinsert : p.insertLine (Text.trimStart natural) = p.insertLine line := by
        rw [← insertLine_trimEnd p (Text.trimStart natural), ← insertLine_trimEnd p line, ← htrim,
          Text.trim]
      simp [readLine, hnil, hskip hnil, hstart, hinsert]
    · have hinsert :
          p.insertLine (pending ++ Text.trim natural) = p.insertLine (pending ++ line) := by
        rw [← insertLine_trimEnd p (pending ++ line), htrim, ← Text.trimEnd_append_trimEnd,
          insertLine_trimEnd]
      simp [readLine, hnil, hstops, hinsert]
  rw [readLines_cons, hread]

theorem readLines_going {piece : List Char}
    (hskip : pending = [] → isSkipped (piece ++ ['\\']) = false)
    (hstart : Text.trimStart natural = piece ++ ['\\']) (hpiece : ∀ c ∈ piece.getLast?, c ≠ '\\')
    (more : List (List Char)) :
    readLines p pending (natural :: more) = readLines p (pending ++ piece) more := by
  have hgoes : continues (piece ++ ['\\']) = true := by
    rw [continues_append hpiece]
    rfl
  have htrim : Text.trim natural = piece ++ ['\\'] := by
    rw [Text.trim, hstart, trimEnd_of_continues hgoes]
  have hread : readLine (p, pending) natural = (p, pending ++ piece) := by
    by_cases hnil : pending = []
    · simp [readLine, hnil, hskip hnil, hgoes, hstart]
    · simp [readLine, hnil, htrim, hgoes]
  rw [readLines_cons, hread]

theorem isSkipped_trimStart (htrim : Text.trim natural = Text.trimEnd line)
    (hhead : ∀ c ∈ line.head?, Text.isBlank c = false) (hskip : isSkipped line = false) :
    isSkipped (Text.trimStart natural) = false := by
  have hne : Text.trimEnd line ≠ [] := by
    intro hnil
    have hall := Text.trimEnd_eq_nil_iff.mp hnil
    cases line with
    | nil => cases hskip
    | cons c line =>
        have hblank := hall c List.mem_cons_self
        rw [hhead c rfl] at hblank
        cases hblank
  obtain ⟨blanks, hline, _⟩ := Text.exists_trimEnd line
  obtain ⟨back, hnatural, _⟩ := Text.exists_trimEnd (Text.trimStart natural)
  have hstart : Text.trimStart natural = Text.trimEnd line ++ back := by
    rw [← htrim, Text.trim, ← hnatural]
  rw [hstart, isSkipped_append hne, ← isSkipped_append hne blanks, ← hline]
  exact hskip

theorem not_endsOdd_trimEnd_of_append {piece : List Char} (hpiece : ∀ c ∈ piece.getLast?, c ≠ '\\')
    (h : ¬ EndsOdd (Text.trimEnd (piece ++ line))) : ¬ EndsOdd (Text.trimEnd line) := by
  by_cases hnil : Text.trimEnd line = []
  · rw [hnil]
    decide
  · rwa [Text.trimEnd_append hnil, ← continues_iff, continues_append hpiece, continues_iff] at h

/-- A logical line is read as it was before it was broken. -/
theorem readLines_breaks (hbreaks : Breaks line written) (hindent : IsIndent indent)
    (htail : EndsLine rest tail) (hone : '\n' ∉ line)
    (hhead : ∀ c ∈ line.head?, Text.isBlank c = false)
    (hskip : pending = [] → isSkipped line = false) (hend : ¬ EndsOdd (Text.trimEnd line)) :
    readLines p pending (Text.lines (indent ++ (written ++ tail))) =
      readLines (p.insertLine (pending ++ line)) [] (Text.lines rest) := by
  -- Each break moves its piece from the line to what is pending. Nothing is pending before a line
  -- that begins a logical line, and it is only then that it might be taken for a remark.
  induction hbreaks generalizing pending indent with
  | @whole line =>
      have hone' : '\n' ∉ indent ++ line := by simp [hindent.one_line, hone]
      rw [← List.append_assoc]
      obtain ⟨natural, blanks, hsplit, hblanks, hlines⟩ | ⟨hnil, hlines, rfl⟩ :=
        lines_append_tail htail hone'
      · have htrim : Text.trim natural = Text.trimEnd line := by
          rw [← Text.trim_append_of_blank hblanks, ← hsplit,
            Text.trim_of_blank_append hindent.blank, Text.trim,
            Text.trimStart_eq_self_iff.mpr hhead]
        rw [hlines]
        apply readLines_closing _ htrim hend
        intro hnil
        exact isSkipped_trimStart htrim hhead (hskip hnil)
      · -- A line that is empty but for what is pending has nothing to add.
        obtain ⟨_, rfl⟩ := List.append_eq_nil_iff.mp hnil
        have hpending : pending ≠ [] := fun hnone => absurd (hskip hnone) (by decide)
        rw [hlines, Text.lines_nil, List.append_nil]
        simp [readLines, hpending]
  | @broken piece line lineEnd inner written hpiece hhead' hlineEnd hinner _ ih =>
      obtain ⟨honePiece, honeLine⟩ := not_or.mp (mt List.mem_append.mpr hone)
      have hone' : '\n' ∉ indent ++ (piece ++ ['\\']) := by simp [hindent.one_line, honePiece]
      have hlast : (indent ++ (piece ++ ['\\'])).getLast? ≠ some '\r' := by
        rw [← List.append_assoc, List.getLast?_concat]
        decide
      have hstart : Text.trimStart (indent ++ (piece ++ ['\\'])) = piece ++ ['\\'] := by
        rw [Text.trimStart_append_of_blank hindent.blank, Text.trimStart_eq_self_iff]
        cases piece with
        | nil =>
            rintro _ ⟨⟩
            decide
        | cons c piece => exact hhead
      have hskip' : pending = [] → isSkipped (piece ++ ['\\']) = false := by
        intro hnil
        cases piece with
        | nil => rfl
        | cons c piece => exact hskip hnil
      have hsplit : indent ++ (piece ++ '\\' :: (lineEnd ++ (inner ++ written)) ++ tail) =
          indent ++ (piece ++ ['\\']) ++ (lineEnd ++ (inner ++ (written ++ tail))) := by simp
      rw [hsplit, lines_append_lineEnd hlineEnd hone' hlast, readLines_going hskip' hstart hpiece,
        ih hinner honeLine hhead' _ (not_endsOdd_trimEnd_of_append hpiece hend), List.append_assoc]
      intro hnil
      obtain ⟨hnone, rfl⟩ := List.append_eq_nil_iff.mp hnil
      exact hskip hnone

theorem IsRemark.one_line (h : IsRemark line) : '\n' ∉ line := by
  cases h with
  | blank hindent => exact hindent.one_line
  | @comment indent mark words hindent hmark hwords =>
      have hne : '\n' ≠ mark := by
        rintro rfl
        revert hmark
        decide
      simp [hindent.one_line, hwords, hne]

theorem IsRemark.isSkipped (h : IsRemark line) : isSkipped (Text.trimStart line) = true := by
  rw [isSkipped_iff]
  cases h with
  | blank hindent => exact .inl (Text.trimStart_eq_nil_iff.mpr hindent.blank)
  | @comment indent mark words hindent hmark _ =>
      right
      have hstart : Text.trimStart (indent ++ mark :: words) = mark :: words := by
        rw [Text.trimStart_append_of_blank hindent.blank, Text.trimStart_eq_self_iff]
        rintro _ ⟨⟩
        rcases hmark with rfl | rfl <;> decide
      exact ⟨mark, by simp [hstart], hmark⟩

theorem readLines_remark (hremark : IsRemark line) (htail : EndsLine rest tail) :
    readLines p [] (Text.lines (line ++ tail)) = readLines p [] (Text.lines rest) := by
  obtain ⟨natural, blanks, rfl, _, hlines⟩ | ⟨_, hlines, _⟩ :=
    lines_append_tail htail hremark.one_line
  · have hskip : Properties.isSkipped (Text.trimStart natural) = true := by
      by_cases hnil : Text.trimStart natural = []
      · rw [hnil]
        rfl
      · have hline := hremark.isSkipped
        rwa [Text.trimStart_append hnil, isSkipped_append hnil] at hline
    have hread : readLine (p, []) natural = (p, []) := by simp [readLine, hskip]
    rw [hlines, readLines_cons, hread]
  · rw [hlines]

/-! ## Entries on their lines -/

theorem WritesSeparator.plain (h : WritesSeparator value separator) :
    ∀ c ∈ separator, c ≠ '\\' ∧ c ≠ '\n' := by
  have hindent {indent : List Char} (h : IsIndent indent) : ∀ c ∈ indent, c ≠ '\\' ∧ c ≠ '\n' := by
    intro c hc
    refine ⟨?_, (h c hc).2⟩
    rintro rfl
    exact absurd (h _ hc).1 (by decide)
  cases h with
  | mark hbefore hmark hafter =>
      intro c hc
      rcases List.mem_append.mp hc with hc | hc
      · exact hindent hbefore c hc
      · rcases List.mem_cons.mp hc with rfl | hc
        · rcases hmark with rfl | rfl <;> decide
        · exact hindent hafter c hc
  | blanks hblanks _ _ _ => exact hindent hblanks

/-- Neither the key nor what stands behind it holds a backslash or a line feed. -/
theorem plain_front (hkey : IsKey key) (hseparator : WritesSeparator value separator) :
    ∀ c ∈ key ++ separator, c ≠ '\\' ∧ c ≠ '\n' := by
  intro c hc
  rcases List.mem_append.mp hc with hc | hc
  · obtain ⟨_, _, hbackslash, hblank⟩ := hkey.plain c hc
    refine ⟨hbackslash, ?_⟩
    rintro rfl
    exact absurd hblank (by decide)
  · exact hseparator.plain c hc

theorem not_endsOdd_entry (hkey : IsKey key) (hvalue : IsValue value)
    (hseparator : WritesSeparator value separator) :
    ¬ EndsOdd (Text.trimEnd (key ++ (separator ++ value))) := by
  have hplain := plain_front hkey hseparator
  have hfront : ∀ c ∈ (key ++ separator).getLast?, c ≠ '\\' := fun c hc =>
    (hplain c (List.mem_of_getLast? hc)).1
  have htrim := Text.trimEnd_eq_self_iff.mpr hvalue.no_blank_last
  rw [← List.append_assoc, ← continues_iff]
  by_cases hnil : value = []
  · intro h
    obtain ⟨blanks, hsplit, _⟩ := Text.exists_trimEnd (key ++ separator)
    rw [hnil, List.append_nil] at h
    have hmem := List.mem_of_getLast? (getLast?_of_continues h)
    have hmem' : '\\' ∈ key ++ separator := by
      rw [hsplit]
      exact List.mem_append_left _ hmem
    exact (hplain _ hmem').1 rfl
  · rw [Text.trimEnd_append (by rwa [htrim]), htrim, continues_append hfront, continues_iff]
    exact hvalue.even

theorem readLines_entry (hindent : IsIndent indent) (hkey : IsKey key) (hvalue : IsValue value)
    (hseparator : WritesSeparator value separator)
    (hbreaks : Breaks (key ++ (separator ++ value)) written) (htail : EndsLine rest tail) :
    readLines p [] (Text.lines (indent ++ (written ++ tail))) =
      readLines (p.insert (String.ofList key) (String.ofList value)) [] (Text.lines rest) := by
  have hinsert : p.insertLine (key ++ (separator ++ value)) =
      p.insert (String.ofList key) (String.ofList value) := by
    simp only [insertLine, splitEntry_of_writes hkey hvalue hseparator]
  have hone : '\n' ∉ key ++ (separator ++ value) := by
    rw [← List.append_assoc]
    intro hmem
    rcases List.mem_append.mp hmem with hmem | hmem
    · exact (plain_front hkey hseparator _ hmem).2 rfl
    · exact hvalue.one_line hmem
  have hend := not_endsOdd_entry hkey hvalue hseparator
  rw [← hinsert]
  cases key with
  | nil => exact absurd rfl hkey.ne_nil
  | cons c key =>
      apply readLines_breaks hbreaks hindent htail hone _ _ hend
      · rintro _ ⟨⟩
        exact (hkey.plain _ List.mem_cons_self).2.2.2
      · intro _
        obtain ⟨hhash, hbang⟩ := hkey.no_mark c rfl
        simp [isSkipped, hhash, hbang]

theorem readLines_renders {entries : List (String × String)} {text : List Char}
    (h : Renders entries text) (p : Properties) :
    readLines p [] (Text.lines text) = entries.foldl (fun q e => q.insert e.1 e.2) p := by
  induction h generalizing p with
  | nil => rfl
  | remark hremark htail _ ih => rw [readLines_remark hremark htail, ih]
  | entry hindent hkey hvalue hseparator hbreaks htail _ ih =>
      rw [readLines_entry hindent hkey hvalue hseparator hbreaks htail, ih, List.foldl_cons]

/-! ## What is read -/

variable {entries : List (String × String)}

theorem map_fst_put (key value : String) (l : List (String × String)) :
    (put key value l).map Prod.fst =
      if key ∈ l.map Prod.fst then l.map Prod.fst else l.map Prod.fst ++ [key] := by
  induction l with
  | nil => rfl
  | cons e l ih =>
      obtain ⟨k, v⟩ := e
      rw [put]
      by_cases hk : k = key
      · simp [hk]
      · rw [if_neg hk, List.map_cons, ih]
        simp only [List.map_cons, List.mem_cons, Ne.symm hk, false_or]
        split <;> rfl

theorem put_of_notMem {key : String} {l : List (String × String)} (h : key ∉ l.map Prod.fst)
    (value : String) : put key value l = l ++ [(key, value)] := by
  induction l with
  | nil => rfl
  | cons e l ih =>
      obtain ⟨hne, hrest⟩ := not_or.mp (mt List.mem_cons.mpr h)
      rw [put, if_neg (Ne.symm hne), ih hrest, List.cons_append]

/-- The properties that hold the entries, each in its turn. -/
def insertAll (entries : List (String × String)) : Properties :=
  entries.foldl (fun p e => p.insert e.1 e.2) empty

theorem insertAll_concat (entries : List (String × String)) (key value : String) :
    insertAll (entries ++ [(key, value)]) = (insertAll entries).insert key value :=
  List.foldl_append

theorem keys_insertAll (entries : List (String × String)) :
    (insertAll entries).entries.map Prod.fst = (entries.map Prod.fst).eraseDups := by
  induction entries using List.reverseRecOn with
  | nil => rfl
  | append_singleton entries e ih =>
      obtain ⟨key, value⟩ := e
      rw [insertAll_concat, insert, map_fst_put, ih, List.map_append, List.eraseDups_append]
      by_cases h : key ∈ entries.map Prod.fst
      · simp [h, List.removeAll]
      · simp [h, List.removeAll, List.eraseDups_cons]

theorem find?_insertAll (entries : List (String × String)) (name : String) :
    (insertAll entries).find? name = entries.reverse.lookup name := by
  induction entries using List.reverseRecOn with
  | nil => rfl
  | append_singleton entries e ih =>
      obtain ⟨key, value⟩ := e
      rw [insertAll_concat, find?_insert, ih, List.reverse_concat, List.lookup_cons]
      by_cases h : name = key <;> simp [h, beq_eq_false_iff_ne.mpr]

theorem entries_insertAll (h : (entries.map Prod.fst).Nodup) :
    (insertAll entries).entries = entries := by
  induction entries using List.reverseRecOn with
  | nil => rfl
  | append_singleton entries e ih =>
      obtain ⟨key, value⟩ := e
      rw [List.map_append, List.nodup_append] at h
      obtain ⟨hearlier, _, hdisjoint⟩ := h
      have hnew : key ∉ (insertAll entries).entries.map Prod.fst := by
        rw [ih hearlier]
        intro hmem
        exact hdisjoint key hmem key (by simp) rfl
      rw [insertAll_concat, insert, put_of_notMem hnew, ih hearlier]

/-- Entries can be written one to a line. -/
theorem renders_flatMap (h : ∀ e ∈ entries, IsKey e.1.toList ∧ IsValue e.2.toList) :
    Renders entries
      (entries.flatMap fun e => e.1.toList ++ ('=' :: e.2.toList) ++ ['\n']) := by
  induction entries with
  | nil => exact .nil
  | cons e entries ih =>
      obtain ⟨⟨hkey, hvalue⟩, hrest⟩ := List.forall_mem_cons.mp h
      have hnone : IsIndent [] := by simp [IsIndent]
      have hseparator : WritesSeparator e.2.toList ['='] := .mark hnone (.inl rfl) hnone
      have hentry := Renders.entry hnone hkey hvalue hseparator .whole (.line .feed) (ih hrest)
      simpa using hentry

/-- What is written down is read back: the entries themselves if no key is written twice, and
otherwise each key where it comes first, with the value that it was given last. -/
theorem parse_renders {text : String} (h : Renders entries text.toList) :
    ((entries.map Prod.fst).Nodup → (parse text).entries = entries) ∧
      (parse text).entries.map Prod.fst = (entries.map Prod.fst).eraseDups ∧
      ∀ key, (parse text).find? key = entries.reverse.lookup key := by
  have hparse : parse text = insertAll entries := readLines_renders h empty
  rw [hparse]
  exact ⟨entries_insertAll, keys_insertAll entries, find?_insertAll entries⟩

theorem parse_renders_repeated :
    Renders [("a", "bc"), ("a", "2")] "# note \\\r\n  a : b\\\n c\na 2".toList ∧
      (parse "# note \\\r\n  a : b\\\n c\na 2").entries.map Prod.fst = ["a"] ∧
      (parse "# note \\\r\n  a : b\\\n c\na 2").find? "a" = some "2" := by
  have hspace : IsIndent [' '] := List.forall_mem_singleton.mpr (by decide)
  have hspaces : IsIndent [' ', ' '] := List.forall_mem_cons.mpr ⟨hspace ' ' (by simp), hspace⟩
  have hnone : IsIndent [] := by simp [IsIndent]
  have hkey : IsKey ['a'] := ⟨by simp, List.forall_mem_singleton.mpr (by decide), by simp⟩
  have hlast : Renders [("a", "2")] ['a', ' ', '2'] := by
    have hvalue : IsValue ['2'] := by
      refine ⟨by decide, ?_, ?_, by decide⟩ <;> rintro _ ⟨⟩ <;> decide
    have hseparator : WritesSeparator ['2'] [' '] := .blanks hspace (by simp) (by simp) (by simp)
    exact .entry hnone hkey hvalue hseparator .whole .text .nil
  have hbroken : Renders [("a", "bc"), ("a", "2")]
      ([' ', ' '] ++ (['a', ' ', ':', ' ', 'b', '\\', '\n', ' ', 'c'] ++
        (['\n'] ++ ['a', ' ', '2']))) := by
    have hvalue : IsValue ['b', 'c'] := by
      refine ⟨by decide, ?_, ?_, by decide⟩ <;> rintro _ ⟨⟩ <;> decide
    have hseparator : WritesSeparator ['b', 'c'] [' ', ':', ' '] := .mark hspace (.inr rfl) hspace
    have hbreaks : Breaks ['a', ' ', ':', ' ', 'b', 'c']
        ['a', ' ', ':', ' ', 'b', '\\', '\n', ' ', 'c'] :=
      @Breaks.broken ['a', ' ', ':', ' ', 'b'] ['c'] ['\n'] [' '] ['c'] (by simp) (by simp; decide)
        .feed hspace .whole
    exact .entry hspaces hkey hvalue hseparator hbreaks (.line .feed) hlast
  have hall : Renders [("a", "bc"), ("a", "2")] "# note \\\r\n  a : b\\\n c\na 2".toList := by
    have hremark : IsRemark ([] ++ '#' :: " note \\".toList) :=
      .comment hnone (.inl rfl) (by decide)
    exact .remark hremark (.line .returnFeed) hbroken
  obtain ⟨_, hkeys, hfind⟩ := parse_renders hall
  exact ⟨hall, hkeys, hfind "a"⟩

end XmlBounds.Properties
