import XmlBounds.Text.Integer
import XmlBounds.Text.Split

/-!
# Tables of characters

A table says what runs of characters have in common. It is written in rows of words, and its
numbers are hexadecimal. A word gives the first and the last character of a run, with a hyphen
between them, or a tilde if only every second character belongs to the run; a lone character needs
one number. Values may follow behind a colon, parted by commas. The runs stand in order, so that a
character is looked up by halving the table.
-/

namespace XmlBounds.Unicode

/-- A run of characters, and the values that it has. -/
structure Run where
  first : Nat
  last : Nat
  /-- The distance from one character of the run to the next. -/
  step : Nat
  values : List Nat
  deriving DecidableEq, Repr

namespace Run

/-- Whether a character belongs to the run. -/
def has (r : Run) (c : Char) : Bool :=
  r.first ≤ c.toNat && c.toNat ≤ r.last && (c.toNat - r.first) % r.step == 0

/-- What the run makes of one of its characters: where it has one value, that value is meant for
the first character, and the others follow at the same distance. -/
def image (r : Run) (c : Char) : List Char :=
  match r.values with
  | [value] => [Char.ofNat (value + (c.toNat - r.first))]
  | values => values.map Char.ofNat

/-- A number of a table. -/
def number? (s : List Char) : Option Nat :=
  (Text.readDigits 16 0x10FFFF .tooLarge 0 s).toOption

/-- Reads the characters of a run. -/
def ofBounds? (s : List Char) (values : List Nat) : Option Run := do
  match Text.splitOn '-' s, Text.splitOn '~' s with
  | [first, last], _ => return ⟨← number? first, ← number? last, 1, values⟩
  | _, [first, last] => return ⟨← number? first, ← number? last, 2, values⟩
  | _, _ => return ⟨← number? s, ← number? s, 1, values⟩

/-- Reads a word. -/
def read? (word : List Char) : Option Run :=
  match Text.splitOn ':' word with
  | [bounds] => ofBounds? bounds []
  | [bounds, values] =>
      ((Text.splitOn ',' values).mapM number?).bind (ofBounds? bounds)
  | _ => none

end Run

/-- Runs in order. -/
abbrev Table := Array Run

namespace Table

/-- Reads a table. -/
def ofRows (rows : List String) : Table :=
  (rows.flatMap fun row => (Text.splitOn ' ' row.toList).filterMap Run.read?).toArray

/-- The first place from `low` on, and before `high`, whose run does not end before a character. -/
def place (t : Table) (c : Char) (low high : Nat) : Nat :=
  if low < high then
    let middle := (low + high) / 2
    if t[middle]?.any (·.last < c.toNat) then place t c (middle + 1) high
    else place t c low middle
  else low
termination_by high - low

/-- The run to which a character belongs. -/
def find? (t : Table) (c : Char) : Option Run := t[t.place c 0 t.size]?.filter (·.has c)

/-- Whether a character belongs to a run of the table. -/
def has (t : Table) (c : Char) : Bool := (t.find? c).isSome

end Table

end XmlBounds.Unicode
