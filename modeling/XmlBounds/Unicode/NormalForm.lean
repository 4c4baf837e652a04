import XmlBounds.Unicode.CombiningClass
import XmlBounds.Unicode.Decomposition

/-!
# The composed normal form

Texts that stand for the same have one normal form. Every composite is taken apart, the marks
behind a character are put in the order of their classes, and what can be composed is composed.
-/

namespace XmlBounds.Unicode

namespace Hangul

/-- The first of the consonants that begin a syllable, and how many there are. -/
def leading : Nat × Nat := (0x1100, 19)

/-- The first of the vowels, and how many there are. -/
def vowels : Nat × Nat := (0x1161, 21)

/-- The place of no consonant, followed by those of the consonants that end a syllable. -/
def trailing : Nat × Nat := (0x11A7, 28)

/-- The first of the syllables, and how many there are. -/
def syllables : Nat × Nat := (0xAC00, 19 * 21 * 28)

/-- The place of a character in a range, if it is in there. -/
def place? (range : Nat × Nat) (c : Char) : Option Nat :=
  if range.1 ≤ c.toNat ∧ c.toNat < range.1 + range.2 then some (c.toNat - range.1) else none

/-- The letters of a syllable. -/
def letters (place : Nat) : List Char :=
  let vowel := place / trailing.2
  let last := place % trailing.2
  [Char.ofNat (leading.1 + vowel / vowels.2), Char.ofNat (vowels.1 + vowel % vowels.2)] ++
    if last = 0 then [] else [Char.ofNat (trailing.1 + last)]

/-- The syllable of two letters, or of a syllable that ends in a vowel and a letter. -/
def compose? (first second : Char) : Option Char :=
  match place? leading first, place? vowels second, place? syllables first,
      place? trailing second with
  | some l, some v, _, _ =>
      some (Char.ofNat (syllables.1 + (l * vowels.2 + v) * trailing.2))
  | _, _, some s, some t =>
      if s % trailing.2 = 0 ∧ t ≠ 0 then some (Char.ofNat (first.toNat + t)) else none
  | _, _, _, _ => none

end Hangul

/-- How many times a composite and its first part can be taken apart. -/
def maxDepth : Nat := 4

/-- The characters that a character is made of in the end. -/
def decompose : (depth : Nat) → Char → List Char
  | 0, c => [c]
  | depth + 1, c =>
      match Hangul.place? Hangul.syllables c, decompositions.find? c with
      | some place, _ => Hangul.letters place
      | none, some run => (run.values.map Char.ofNat).flatMap (decompose depth)
      | none, none => [c]

/-- Puts a character in front of a text, behind the marks that have lower classes. -/
def putMark (c : Char) : List Char → List Char
  | [] => [c]
  | d :: rest =>
      if 0 < combiningClass d ∧ combiningClass d < combiningClass c then d :: putMark c rest
      else c :: d :: rest

/-- The text with the marks behind each character in the order of their classes. -/
def orderMarks (s : List Char) : List Char := s.foldr putMark []

/-- The composite of two characters. -/
def compose? (first second : Char) : Option Char :=
  (Hangul.compose? first second).or
    ((compositions.find? fun (a, b, _) => a = first ∧ b = second).map (·.2.2))

/-- Whether a mark that was kept stands between a character and its composite with the next. -/
def isBlocked (kept : List Char) (c : Char) : Bool :=
  kept.head?.any fun mark => combiningClass c ≤ combiningClass mark

/-- Composes a character with what follows it; the marks in `kept`, the last first, stand between
the two. -/
def composeFrom (first : Char) (kept : List Char) : List Char → List Char
  | [] => first :: kept.reverse
  | c :: rest =>
      match if isBlocked kept c then none else compose? first c with
      | some composite => composeFrom composite kept rest
      | none =>
          if combiningClass c = 0 then first :: kept.reverse ++ composeFrom c [] rest
          else composeFrom first (c :: kept) rest

/-- Composes what can be composed. Marks at the beginning have nothing to be composed with. -/
def compose : List Char → List Char
  | [] => []
  | c :: rest => if combiningClass c = 0 then composeFrom c [] rest else c :: compose rest

/-- The normal form of a text. -/
def normalize (s : List Char) : List Char :=
  compose (orderMarks (s.flatMap (decompose maxDepth)))

end XmlBounds.Unicode
