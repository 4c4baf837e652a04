import XmlBounds.Text.Blank
import XmlBounds.Text.Split

/-!
# Properties

A properties text holds entries `key=value`, `key: value` or `key value`, one to a logical line.
A natural line that ends in an odd number of backslashes goes on with the next one. Lines that are
blank or begin with `#` or `!` do not count, unless they continue another.
-/

namespace XmlBounds

/-- Keys with their values, each key once. -/
structure Properties where
  entries : List (String × String)
  deriving DecidableEq, Repr

namespace Properties

def empty : Properties := ⟨[]⟩

def find? (p : Properties) (key : String) : Option String := p.entries.lookup key

def size (p : Properties) : Nat := p.entries.length

/-- Gives a value to the key in a list of entries; a new key comes last. -/
def put (key value : String) : List (String × String) → List (String × String)
  | [] => [(key, value)]
  | (k, v) :: rest => if k = key then (k, value) :: rest else (k, v) :: put key value rest

/-- Gives a value to a key. A key that is there already keeps its place. -/
def insert (p : Properties) (key value : String) : Properties := ⟨put key value p.entries⟩

@[simp] theorem find?_insert (p : Properties) (key value name : String) :
    (p.insert key value).find? name = if name = key then some value else p.find? name := by
  obtain ⟨entries⟩ := p
  simp only [insert, find?]
  induction entries with
  | nil =>
      rw [put, List.lookup_cons]
      by_cases h : name = key <;> simp [h, beq_eq_false_iff_ne.mpr]
  | cons e entries ih =>
      obtain ⟨k, v⟩ := e
      rw [put]
      split
      · next hk =>
          subst hk
          by_cases h : name = k <;> simp [List.lookup_cons, h, beq_eq_false_iff_ne.mpr]
      · next hk =>
          by_cases h : name = k
          · subst h
            simp [hk]
          · simp [List.lookup_cons, beq_eq_false_iff_ne.mpr h, ih]

def endsKey (c : Char) : Bool := c == '=' || c == ':' || Text.isBlank c

/-- The text after the separator that it may begin with and the blanks around that. -/
def afterSeparator (s : List Char) : List Char :=
  match Text.trimStart s with
  | '=' :: rest | ':' :: rest => Text.trimStart rest
  | rest => rest

/-- The key and the value of a logical line. -/
def splitEntry (line : List Char) : List Char × List Char :=
  (line.takeWhile (!endsKey ·), Text.trimEnd (afterSeparator (line.dropWhile (!endsKey ·))))

/-- Adds the entry of a logical line. -/
def insertLine (p : Properties) (line : List Char) : Properties :=
  let (key, value) := splitEntry line
  p.insert (String.ofList key) (String.ofList value)

/-- Whether a line goes on with the next one. -/
def continues (line : List Char) : Bool := (line.reverse.takeWhile (· == '\\')).length % 2 == 1

/-- Whether a line, its leading blanks removed, is blank or a comment. -/
def isSkipped : List Char → Bool
  | [] => true
  | c :: _ => c == '#' || c == '!'

/-- Adds the entries of natural lines. The pending text is that of the earlier lines of the logical
line; only while there is none does a line begin a logical line, and may it be skipped. -/
def readLines (p : Properties) (pending : List Char) : List (List Char) → Properties
  | [] => if pending = [] then p else p.insertLine pending
  | natural :: rest =>
      let line := if pending = [] then Text.trimStart natural else Text.trim natural
      if pending = [] ∧ isSkipped line then readLines p [] rest
      else if continues line then readLines p (pending ++ line.dropLast) rest
      else readLines (p.insertLine (pending ++ line)) [] rest

def parse (text : String) : Properties := readLines empty [] (Text.lines text.toList)

end Properties

end XmlBounds
