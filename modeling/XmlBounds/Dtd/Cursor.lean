import XmlBounds.Dtd.Fault
import XmlBounds.Text.Blank
import XmlBounds.Text.Bytes

/-!
# Reading DTD text

A cursor is the text still to be read and the number of bytes read so far. Readers move it
forward over whole characters: `Reads` says that what a reader has passed is a piece of the text,
and `Progresses` that the piece is not empty. Both properties compose, so a reader built from
readers has them by its shape.
-/

namespace XmlBounds.Dtd

/-- A place in a text. -/
structure Cursor where
  /-- The bytes before the place. -/
  offset : Nat
  /-- The characters after it. -/
  rest : List Char
  deriving DecidableEq, Repr

namespace Cursor

def start (text : List Char) : Cursor := ⟨0, text⟩

/-- Passing `taken` leads from one place to the other. -/
def Passes (c : Cursor) (taken : List Char) (c' : Cursor) : Prop :=
  c.rest = taken ++ c'.rest ∧ c'.offset = c.offset + Text.byteLength taken

def advance (c : Cursor) (n : Nat) : Cursor :=
  ⟨c.offset + Text.byteLength (c.rest.take n), c.rest.drop n⟩

theorem passes_refl (c : Cursor) : c.Passes [] c := by simp [Passes]

theorem Passes.trans {a b c : Cursor} {s t : List Char} (h : a.Passes s b) (h' : b.Passes t c) :
    a.Passes (s ++ t) c := by
  obtain ⟨h1, h2⟩ := h
  obtain ⟨h3, h4⟩ := h'
  refine ⟨by rw [h1, h3, List.append_assoc], ?_⟩
  rw [h4, h2, Text.byteLength_append]
  omega

theorem passes_advance (c : Cursor) (n : Nat) : c.Passes (c.rest.take n) (c.advance n) :=
  ⟨(List.take_append_drop n c.rest).symm, rfl⟩

/-- A place never lies behind the end of the text. -/
theorem Passes.offset_le {a b : Cursor} {s : List Char} (h : a.Passes s b) :
    b.offset + Text.byteLength b.rest = a.offset + Text.byteLength a.rest := by
  rw [h.2, h.1, Text.byteLength_append]
  omega

theorem Passes.length_le {a b : Cursor} {s : List Char} (h : a.Passes s b) :
    b.rest.length + s.length = a.rest.length := by
  rw [h.1, List.length_append]
  omega

end Cursor

abbrev Scan := StateT Cursor (Except Fault)

namespace Scan

variable {α β : Type}

/-- What the reader passes is a piece of the text. -/
def Reads (x : Scan α) : Prop :=
  ∀ c a c', x c = .ok (a, c') → ∃ taken, c.Passes taken c'

/-- What the reader passes is a piece of the text and not empty. -/
def Progresses (x : Scan α) : Prop :=
  ∀ c a c', x c = .ok (a, c') → ∃ taken, taken ≠ [] ∧ c.Passes taken c'

/-- Fails with a complaint about the present place. -/
def fail (complaint : Complaint) : Scan α := fun c =>
  .error (.malformed complaint c.offset (String.ofList (c.rest.take 24)))

def rest : Scan (List Char) := fun c => .ok (c.rest, c)

def take (n : Nat) : Scan (List Char) := fun c => .ok (c.rest.take n, c.advance n)

theorem Progresses.reads {x : Scan α} (h : Progresses x) : Reads x := by
  intro c a c' hx
  obtain ⟨taken, -, hp⟩ := h c a c' hx
  exact ⟨taken, hp⟩

theorem Reads.pure (a : α) : Reads (pure a : Scan α) := by
  rintro c b c' h
  cases h
  exact ⟨[], c.passes_refl⟩

theorem Progresses.fail (complaint : Complaint) : Progresses (fail complaint : Scan α) := by
  intro c a c' h
  cases h

theorem Reads.rest : Reads rest := by
  intro c a c' h
  cases h
  exact ⟨[], c.passes_refl⟩

theorem Reads.take (n : Nat) : Reads (take n) := by
  intro c a c' h
  cases h
  exact ⟨_, c.passes_advance n⟩

theorem bind_eq_ok {x : Scan α} {f : α → Scan β} {c c'' : Cursor} {b : β}
    (h : (x >>= f) c = .ok (b, c'')) : ∃ a c', x c = .ok (a, c') ∧ f a c' = .ok (b, c'') := by
  simp only [bind, StateT.bind] at h
  cases hx : x c with
  | error e => simp [hx, Except.bind] at h
  | ok p =>
      obtain ⟨a, c'⟩ := p
      simp only [hx, Except.bind] at h
      exact ⟨a, c', rfl, h⟩

theorem Reads.bind {x : Scan α} {f : α → Scan β} (hx : Reads x) (hf : ∀ a, Reads (f a)) :
    Reads (x >>= f) := by
  intro c b c'' h
  obtain ⟨a, c', h1, h2⟩ := bind_eq_ok h
  obtain ⟨s, hs⟩ := hx c a c' h1
  obtain ⟨t, ht⟩ := hf a c' b c'' h2
  exact ⟨s ++ t, hs.trans ht⟩

theorem Reads.ite {p : Prop} [Decidable p] {x y : Scan α} (hx : Reads x) (hy : Reads y) :
    Reads (if p then x else y) := by
  split
  · exact hx
  · exact hy

/-- Passes a token if the text goes on with it, and says whether it did. -/
def eat (token : String) : Scan Bool := fun c =>
  if token.toList.isPrefixOf c.rest then .ok (true, c.advance token.toList.length)
  else .ok (false, c)

theorem Reads.eat (token : String) : Reads (eat token) := by
  intro c a c' h
  unfold Scan.eat at h
  split at h
  · cases h
    exact ⟨_, c.passes_advance _⟩
  · cases h
    exact ⟨[], c.passes_refl⟩

theorem passes_of_eat {token : String} {c c' : Cursor} (h : eat token c = .ok (true, c')) :
    c.Passes token.toList c' := by
  unfold eat at h
  split at h
  · next hp =>
      cases h
      have := c.passes_advance token.toList.length
      rwa [List.prefix_iff_eq_take.mp (List.isPrefixOf_iff_prefix.mp hp) |>.symm] at this
  · simp at h

/-- A choice by a token that is not empty progresses if the other choice does. -/
theorem Progresses.choose {token : String} {x y : Scan α} (ht : token.toList ≠ []) (hx : Reads x)
    (hy : Progresses y) : Progresses (do if ← Scan.eat token then x else y) := by
  intro c a c'' h
  obtain ⟨b, c', h1, h2⟩ := bind_eq_ok h
  cases b with
  | true =>
      obtain ⟨t, hp⟩ := hx c' a c'' h2
      exact ⟨token.toList ++ t, by simp [ht], (passes_of_eat h1).trans hp⟩
  | false =>
      obtain ⟨s, hs⟩ := Reads.eat token c false c' h1
      obtain ⟨t, hne, hp⟩ := hy c' a c'' h2
      exact ⟨s ++ t, by simp [hne], hs.trans hp⟩

def expect (token : String) : Scan Unit := do
  if ← eat token then return
  else fail (.expected token)

theorem Reads.expect (token : String) : Reads (expect token) :=
  .bind (.eat token) fun _ => .ite (.pure ()) (Progresses.fail _).reads

/-- Passes the longest run of characters of a class. -/
def takeWhile (p : Char → Bool) : Scan (List Char) := do
  let text ← rest
  take (text.takeWhile p).length

theorem Reads.takeWhile (p : Char → Bool) : Reads (takeWhile p) :=
  .bind .rest fun _ => .take _

/-- Passes white space and says whether there was any. -/
def space : Scan Bool := do
  let passed ← takeWhile Text.isSpace
  return passed ≠ []

theorem Reads.space : Reads space := .bind (.takeWhile _) fun _ => .pure _

/-- Passes white space, of which there must be some. -/
def requireSpace : Scan Unit := do
  if ← space then return
  else fail .expectedSpace

theorem Reads.requireSpace : Reads requireSpace :=
  .bind .space fun _ => .ite (.pure ()) (Progresses.fail _).reads

/-- A character that may begin a name. -/
def isNameStart (c : Char) : Bool :=
  c == ':' || c == '_' || c.isAlpha || 0xC0 ≤ c.toNat

/-- A character that may stand inside a name. -/
def isNameChar (c : Char) : Bool :=
  isNameStart c || c == '-' || c == '.' || c.isDigit || c.toNat == 0xB7

/-- The longest name that the text begins with; empty if there is none. -/
def namePrefix : List Char → List Char
  | [] => []
  | c :: rest => if isNameStart c then c :: rest.takeWhile isNameChar else []

def name : Scan String := do
  let text ← rest
  if namePrefix text = [] then fail .expectedName
  else return String.ofList (← take (namePrefix text).length)

theorem Reads.name : Reads name :=
  .bind .rest fun _ => .ite (Progresses.fail _).reads (.bind (.take _) fun _ => .pure _)

/-- How many characters stand before the first occurrence of a pattern, counted from `n`. -/
def indexFrom? (pattern : List Char) (n : Nat) : List Char → Option Nat
  | [] => if pattern = [] then some n else none
  | c :: rest =>
      if pattern.isPrefixOf (c :: rest) then some n else indexFrom? pattern (n + 1) rest

/-- Passes the text up to a terminator, and the terminator; gives the text. -/
def upTo (terminator : String) : Scan String := do
  match indexFrom? terminator.toList 0 (← rest) with
  | none => fail (.missing terminator)
  | some n =>
      let passed ← take n
      let _ ← take terminator.toList.length
      return String.ofList passed

theorem Reads.upTo (terminator : String) : Reads (upTo terminator) := by
  refine .bind .rest fun text => ?_
  split
  · exact (Progresses.fail _).reads
  · exact .bind (.take _) fun _ => .bind (.take _) fun _ => .pure _

/-- A quote that may open a literal. -/
def isQuote (c : Char) : Bool := c == '"' || c == '\''

/-- Whether the text goes on with a quoted literal. -/
def atQuote : Scan Bool := do return (← rest).head?.any isQuote

theorem Reads.atQuote : Reads atQuote := .bind .rest fun _ => .pure _

/-- Passes a quoted literal and gives what stands between its quotes. -/
def literal : Scan String := do
  match ← rest with
  | quote :: text =>
      if isQuote quote then
        let _ ← take 1
        match indexFrom? [quote] 0 text with
        | none => fail .unterminatedLiteral
        | some n =>
            let passed ← take n
            let _ ← take 1
            return String.ofList passed
      else fail .expectedLiteral
  | [] => fail .expectedLiteral

theorem Reads.literal : Reads literal := by
  refine .bind .rest fun text => ?_
  split
  · refine .ite (.bind (.take _) fun _ => ?_) (Progresses.fail _).reads
    split
    · exact (Progresses.fail _).reads
    · exact .bind (.take _) fun _ => .bind (.take _) fun _ => .pure _
  · exact (Progresses.fail _).reads

/-- How many characters stand before the `>` that closes a declaration, counted from `n`; signs
inside literals do not close it. -/
def closeFrom? : (quote : Option Char) → (n : Nat) → List Char → Option Nat
  | _, _, [] => none
  | some q, n, c :: rest => closeFrom? (if c = q then none else some q) (n + 1) rest
  | none, n, c :: rest =>
      if c = '>' then some n
      else closeFrom? (if isQuote c then some c else none) (n + 1) rest

/-- Passes the text up to the `>` that closes a declaration, and gives it without blanks around
it. -/
def upToClose : Scan String := do
  match closeFrom? none 0 (← rest) with
  | none => fail .unterminatedDeclaration
  | some n =>
      let passed ← take n
      let _ ← take 1
      return String.ofList (Text.trim passed)

theorem Reads.upToClose : Reads upToClose := by
  refine .bind .rest fun text => ?_
  split
  · exact (Progresses.fail _).reads
  · exact .bind (.take _) fun _ => .bind (.take _) fun _ => .pure _

end Scan

end XmlBounds.Dtd
