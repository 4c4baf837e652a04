import XmlBounds.Unicode.CombiningClass
import XmlBounds.Unicode.Direction
import XmlBounds.Unicode.Joining
import XmlBounds.Unicode.Mark

/-!
# The labels of a domain

What a label with characters beyond ASCII has to keep to: where it begins, where it may hide a
joiner, and in which directions it is written.
-/

namespace XmlBounds.Url

open Unicode (Direction direction)

/-- A sign that keeps letters apart without being seen. -/
def nonJoiner : Char := '\u200C'

/-- A sign that joins letters without being seen. -/
def joiner : Char := '\u200D'

/-- Whether a sign that is not seen may stand between two texts, the first of which is read
backward: behind a silenced consonant, or to keep apart two letters that would be joined. -/
def joinerFits (c : Char) (before after : List Char) : Bool :=
  before.head?.any (Unicode.combiningClass · == Unicode.viramaClass) ||
    (c == nonJoiner &&
      (before.find? (!Unicode.isTransparent ·)).any Unicode.joinsOn &&
      (after.find? (!Unicode.isTransparent ·)).any Unicode.joinsBack)

/-- Whether every sign that is not seen may stand where it stands. The text before is given
backward. -/
def joinersFit (before : List Char) : List Char → Bool
  | [] => true
  | c :: after =>
      ((c != nonJoiner && c != joiner) || joinerFits c before after) &&
        joinersFit (c :: before) after

/-- How many characters a label may have. -/
def maxLabelLength : Nat := 1000

/-- Whether a label may be written in a form for ASCII. -/
def isProperLabel (label : List Char) : Bool :=
  !label.head?.any Unicode.isMark && joinersFit [] label && label.length ≤ maxLabelLength &&
    !"xn--".toList.isPrefixOf label

/-- Whether a label has a character that is not written from left to right. -/
def isRightToLeft (label : List Char) : Bool :=
  label.any fun c => direction c ∈ [Direction.rightToLeft, .arabicNumber]

/-- Whether a label keeps to one direction: that in which it begins and ends. -/
def keepsDirection (label : List Char) : Bool :=
  let all := label.map direction
  let last := all.reverse.find? (· != .attached)
  match all with
  | [] => true
  | .rightToLeft :: _ =>
      Direction.leftToRight ∉ all &&
        last.any (· ∈ [Direction.rightToLeft, .arabicNumber, .europeanNumber]) &&
        !(.arabicNumber ∈ all && .europeanNumber ∈ all)
  | .leftToRight :: _ =>
      Direction.rightToLeft ∉ all && Direction.arabicNumber ∉ all &&
        last.any (· ∈ [Direction.leftToRight, .europeanNumber])
  | _ => false

end XmlBounds.Url
