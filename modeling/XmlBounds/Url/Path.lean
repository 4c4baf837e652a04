import XmlBounds.Url.Basic
import XmlBounds.Url.Percent

/-!
# Writing the path of a URL

A path grows by one written segment at a time, and stays one text throughout: a slash stands in
front of each segment. A segment of two dots takes the segment before it back, and a segment of one
dot adds nothing. The first segment of a file's path may be the letter of a drive; nothing takes
that back.
-/

namespace XmlBounds.Url

def endsPath (c : Char) : Bool := c == '?' || c == '#'

/-- A slash, or under a special scheme also a backslash. -/
def isSlash (special : Bool) (c : Char) : Bool := c == '/' || (special && c == '\\')

/-- The segments of the text of a path, as they are written. -/
def rawSegments (special : Bool) : List Char → List (List Char)
  | [] => [[]]
  | c :: rest =>
      match rawSegments special rest with
      | [] => [[]]
      | segment :: others =>
          if isSlash special c then [] :: segment :: others else (c :: segment) :: others

/-- A segment that stands for the segment before it. -/
def isDoubleDot (segment : List Char) : Bool :=
  String.ofList (segment.map Char.toLower) ∈ ["..", ".%2e", "%2e.", "%2e%2e"]

def isSingleDot (segment : List Char) : Bool :=
  String.ofList (segment.map Char.toLower) ∈ [".", "%2e"]

/-- A letter and a colon or a bar. -/
def isDriveLetter : List Char → Bool
  | [letter, mark] => letter.isAlpha && (mark == ':' || mark == '|')
  | _ => false

def isNormalDriveLetter : List Char → Bool
  | [letter, ':'] => letter.isAlpha
  | _ => false

/-- Whether a drive letter stands at the beginning of a text, and a segment could end behind it. -/
def startsWithDriveLetter (s : List Char) : Bool :=
  isDriveLetter (s.take 2) && (s.drop 2).head?.all fun c => isSlash true c || endsPath c

/-! A path is written backward: the characters that end it come first. -/

/-- What follows the last slash of a path. -/
def lastSegment (backward : List Char) : List Char := (backward.takeWhile (· != '/')).reverse

/-- The path with its last segment emptied. A drive letter of a file stays. -/
def popSegment (isFile : Bool) (backward : List Char) : List Char :=
  if isFile && isNormalDriveLetter (lastSegment backward) then backward
  else backward.dropWhile (· != '/')

/-- The path without the slash at its end, so that the segment behind that slash is gone. The slash
that begins the path stays, and so does one behind a drive letter. -/
def reopenSegment (backward : List Char) : List Char :=
  match backward with
  | '/' :: before =>
      if '/' ∈ before ∧ !startsWithDriveLetter (lastSegment before) then before else backward
  | _ => backward

/-- The path with a slash at its end. -/
def endInSlash (backward : List Char) : List Char :=
  if backward.head? = some '/' then backward else '/' :: backward

/-- What stands in front of a new segment. A slash comes between it and a drive letter that is the
whole path of a file. -/
def beforeSegment (isFile : Bool) (backward segment : List Char) : List Char :=
  match backward with
  | [':', letter, '/'] =>
      if isFile && letter.isAlpha && segment != [] then '/' :: backward else backward
  | _ => backward

/-- A path that is being written. -/
structure PathDraft where
  /-- Its characters, the last one first. -/
  backward : List Char
  /-- Whether a segment was read as the letter of a drive. -/
  hasDrive : Bool
  deriving DecidableEq, Repr

namespace PathDraft

/-- A path that begins with a text. -/
def start (text : List Char) : PathDraft := ⟨text.reverse, false⟩

/-- Adds a written segment, and the slash that follows it. -/
def add (isFile isFollowed : Bool) (draft : PathDraft) (segment : List Char) : PathDraft :=
  let encoded := (percentEncode inPath segment).toList
  let before := beforeSegment isFile draft.backward encoded
  let slash := if isFollowed then ['/'] else []
  if isDoubleDot encoded then
    let rest := popSegment isFile (reopenSegment before)
    { draft with backward := if isFollowed then endInSlash rest else rest }
  else if isSingleDot encoded then { draft with backward := endInSlash before }
  else if isFile && before == ['/'] && isDriveLetter encoded then
    ⟨slash ++ ':' :: encoded.take 1 ++ before, true⟩
  else { draft with backward := slash ++ encoded.reverse ++ before }

def addAll (draft : PathDraft) (isFile : Bool) : List (List Char) → PathDraft
  | [] => draft
  | [segment] => draft.add isFile false segment
  | segment :: rest => addAll (draft.add isFile true segment) isFile rest

/-- The text that was written. The path of a file begins with one slash. -/
def text (isFile : Bool) (draft : PathDraft) : List Char :=
  let text := draft.backward.reverse
  if isFile then '/' :: text.dropWhile (· == '/') else text

end PathDraft

/-- A path that was read. -/
structure ReadPath where
  path : Path
  /-- Whether a segment was read as the letter of a drive. -/
  hasDrive : Bool
  deriving DecidableEq, Repr

def ReadPath.empty : ReadPath := ⟨.slashed "", false⟩

/-- Reads a path onto the text that it begins with, and leaves what follows it. -/
def readPath (scheme : String) (start s : List Char) : ReadPath × List Char :=
  let isFile := scheme == "file"
  let draft := (PathDraft.start start).addAll isFile
    (rawSegments (isSpecial scheme) (s.takeWhile (!endsPath ·)))
  (⟨.slashed (String.ofList (draft.text isFile)), draft.hasDrive⟩, s.dropWhile (!endsPath ·))

/-- Reads the path that follows an authority. Only a scheme without rules of its own may have an
empty path. -/
def readPathStart (scheme : String) (s : List Char) : ReadPath × List Char :=
  match s with
  | c :: rest =>
      if isSlash (isSpecial scheme) c then readPath scheme ['/'] rest
      else if endsPath c ∧ !isSpecial scheme then (.empty, s)
      else readPath scheme ['/'] s
  | [] => if isSpecial scheme then readPath scheme ['/'] [] else (.empty, [])

end XmlBounds.Url
