import XmlBounds.Url.Host
import XmlBounds.Url.Path

/-!
# Reading URLs

A text is a URL of its own if it begins with a scheme; otherwise it is resolved against a base.
Controls and spaces around it, and tabs and line ends anywhere in it, do not count.
-/

namespace XmlBounds.Url

/-- The characters that count. -/
def significant (s : String) : List Char :=
  let isOuter (c : Char) : Bool := c.toNat ≤ 0x20
  let inner := ((s.toList.dropWhile isOuter).reverse.dropWhile isOuter).reverse
  inner.filter fun c => c != '\t' && c != '\n' && c != '\r'

/-- A character of a scheme after its first. -/
def isSchemeChar (c : Char) : Bool :=
  c.isAlphanum || c == '+' || c == '-' || c == '.'

/-- The scheme in front of the first colon, in small letters, and the text after that colon. -/
def splitScheme? (s : List Char) : Option (String × List Char) :=
  match s with
  | [] => none
  | c :: _ =>
      if c.isAlpha then
        match s.dropWhile isSchemeChar with
        | ':' :: rest => some (String.ofList ((s.takeWhile isSchemeChar).map Char.toLower), rest)
        | _ => none
      else none

/-- Completes a URL by the query and the fragment that the text begins with. -/
def withTail (u : Url) (s : List Char) : Url :=
  let set := if isSpecial u.scheme then inSpecialQuery else inQuery
  match s with
  | '?' :: rest =>
      let query := some (percentEncode set (rest.takeWhile (· != '#')))
      match rest.dropWhile (· != '#') with
      | _ :: fragment => { u with query, fragment := some (percentEncode inFragment fragment) }
      | [] => { u with query, fragment := none }
  | '#' :: fragment =>
      { u with query := none, fragment := some (percentEncode inFragment fragment) }
  | _ => { u with query := none, fragment := none }

/-- Splits off the part of an authority before its last `@`. -/
def splitCredentials (s : List Char) : Option (List Char × List Char) :=
  match s.reverse.dropWhile (· != '@') with
  | [] => none
  | _ :: before => some (before.reverse, (s.reverse.takeWhile (· != '@')).reverse)

/-- The host and what follows it: a colon inside brackets does not end the host. -/
def splitHost : (inBrackets : Bool) → List Char → List Char × List Char
  | _, [] => ([], [])
  | inBrackets, c :: rest =>
      if c = ':' ∧ !inBrackets then ([], c :: rest)
      else
        let (host, after) :=
          splitHost (if c = '[' then true else if c = ']' then false else inBrackets) rest
        (c :: host, after)

/-- Reads a port, where a colon begins one, and leaves what follows it; none stands for the
scheme's own. -/
def readPort (scheme : String) (s : List Char) : Except Fault (Option Nat × List Char) :=
  match s with
  | ':' :: s =>
      let ends (c : Char) : Bool := isSlash true c || endsPath c
      let digits := s.takeWhile (!ends ·)
      let rest := s.dropWhile (!ends ·)
      if digits = [] then .ok (none, rest)
      else if digits.all Char.isDigit then
        match Text.readDigits 10 65535 .tooLarge 0 digits with
        | .ok port => .ok (if defaultPort scheme = some port then none else some port, rest)
        | .error _ => .error .invalidPort
      else .error .invalidPort
  | _ => .ok (none, s)

/-- Reads the authority after two slashes, and the path after it. -/
def readAuthority (scheme : String) (s : List Char) : Except Fault Url := do
  let special := isSpecial scheme
  let ends (c : Char) : Bool := isSlash special c || endsPath c
  let written := s.takeWhile (!ends ·)
  let rest := s.dropWhile (!ends ·)
  let (credentials, hostAndPort) := (splitCredentials written).getD ([], written)
  if (splitCredentials written).isSome ∧ credentials = [] ∧ hostAndPort = [] ∧ rest ≠ [] then
    throw .emptyHost
  let username := percentEncode inCredentials (credentials.takeWhile (· != ':'))
  let password := percentEncode inCredentials ((credentials.dropWhile (· != ':')).drop 1)
  let (hostText, portText) := splitHost false hostAndPort
  if special ∧ hostText = [] then throw .emptyHost
  let host ← readHost special hostText
  if hostText = [] ∧ portText ≠ [] then throw .emptyHost
  let (port, rest) ← readPort scheme (portText ++ rest)
  if hostText = [] ∧ (username ≠ "" ∨ password ≠ "") then throw .emptyHost
  let (found, rest) := readPathStart scheme rest
  let url : Url :=
    { scheme, username, password, host := some host, port, path := found.path
      query := none, fragment := none }
  return url.withTail rest

/-- A file URL without query and fragment. -/
def file (host : Option Host) (path : Path) : Url :=
  { scheme := "file", username := "", password := "", host, port := none, path
    query := none, fragment := none }

/-- The host that a file has where none is named. -/
def noHost : Option Host := some (.name "")

/-- The text of the path without its last segment, to which another path is relative. -/
def parentText (u : Url) : List Char :=
  (popSegment (u.scheme == "file") u.path.text.toList.reverse).reverse

def firstSegment (u : Url) : List Char := (u.path.text.toList.drop 1).takeWhile (· != '/')

/-- Reads the path of a file onto the text that it begins with, and what follows it. -/
def readFilePath (host : Option Host) (start s : List Char) : Url :=
  let (found, rest) := readPath "file" start s
  (file host found.path).withTail rest

/-- Reads the host of a file after two slashes, and the path after it. A drive letter is no host,
and a path that begins with one has none. -/
def readFileHost (s : List Char) : Except Fault Url := do
  let ends (c : Char) : Bool := isSlash true c || endsPath c
  let hostText := s.takeWhile (!ends ·)
  let rest := s.dropWhile (!ends ·)
  if isDriveLetter hostText then return readFilePath noHost ['/'] s
  if hostText = [] then return readFilePath noHost ['/'] rest
  let host ← readHost true hostText
  if host = .name "localhost" then return readFilePath noHost ['/'] rest
  let (found, rest) := readPathStart "file" rest
  return (file (if found.hasDrive then noHost else some host) found.path).withTail rest

/-- Reads the path of a file from the root, on the host or the drive of the base. -/
def readFileFromRoot (base : Option Url) (s : List Char) : Url :=
  match base with
  | some b =>
      if startsWithDriveLetter (s.drop 1) then readFilePath noHost [] s
      else if isNormalDriveLetter b.firstSegment then readFilePath noHost ('/' :: b.firstSegment) s
      else readFilePath b.host [] s
  | none => readFilePath noHost [] s

/-- Reads what follows the scheme of a file URL, or a text resolved against one. -/
def readFile (base : Option Url) (s : List Char) : Except Fault Url :=
  match s with
  | c :: rest =>
      if isSlash true c then
        match rest with
        | d :: rest =>
            if isSlash true d then readFileHost rest else .ok (readFileFromRoot base s)
        | [] => .ok (readFileFromRoot base s)
      else .ok (relative c rest)
  | [] => .ok ((base.map ({ · with fragment := none })).getD (readFilePath noHost ['/'] s))
where
  /-- Reads a path that begins with no slash. -/
  relative (c : Char) (rest : List Char) : Url :=
    match base with
    | some b =>
        if c = '?' then b.withTail s
        else if c = '#' then { b with fragment := some (percentEncode inFragment rest) }
        else if startsWithDriveLetter s then readFilePath noHost ['/'] s
        else readFilePath b.host b.parentText s
    | none => readFilePath noHost ['/'] s

/-- Resolves a text against a base that is no file. A backslash counts as a slash here. -/
def readRelative (base : Url) (s : List Char) : Except Fault Url :=
  let complete (start s : List Char) : Url :=
    let (found, rest) := readPath base.scheme start s
    { base with path := found.path }.withTail rest
  match s with
  | [] => .ok { base with fragment := none }
  | '?' :: _ => .ok (base.withTail s)
  | '#' :: fragment => .ok { base with fragment := some (percentEncode inFragment fragment) }
  | '/' :: '/' :: rest => readAuthority base.scheme rest
  | c :: rest =>
      if isSlash true c then
        if rest.head?.any (isSlash true) then
          readAuthority base.scheme (s.dropWhile (isSlash true))
        else .ok (complete ['/'] rest)
      else
        match base.parentText with
        | [] => .ok (complete ['/'] s)
        | start => .ok (complete start s)

def readAfterScheme (base : Option Url) (scheme : String) (s : List Char) : Except Fault Url :=
  if scheme = "file" then readFile (base.filter (·.scheme = "file")) s
  else if isSpecial scheme then
    let slashes := (s.takeWhile (isSlash true)).length
    match base with
    | some b =>
        if slashes < 2 ∧ b.scheme = scheme then readRelative b s
        else readAuthority scheme (s.drop slashes)
    | none => readAuthority scheme (s.drop slashes)
  else
    let bare : Url :=
      { scheme, username := "", password := "", host := none, port := none
        path := .opaqueText "", query := none, fragment := none }
    match s with
    | '/' :: '/' :: rest => readAuthority scheme rest
    | '/' :: rest =>
        let (found, rest) := readPath scheme ['/'] rest
        .ok ({ bare with path := found.path }.withTail rest)
    | _ =>
        let path := percentEncode [] (s.takeWhile (!endsPath ·))
        .ok ({ bare with path := .opaqueText path }.withTail (s.dropWhile (!endsPath ·)))

/-- Reads a text, against a base if there is one. -/
def read (base : Option Url) (text : String) : Except Fault Url :=
  let s := significant text
  match splitScheme? s with
  | some (scheme, rest) => readAfterScheme base scheme rest
  | none =>
      match base with
      | none => .error .relativeWithoutBase
      | some b =>
          match s with
          | '#' :: fragment =>
              .ok { b with fragment := some (percentEncode inFragment fragment) }
          | _ =>
              if !b.canBeBase then .error .relativeToOpaque
              else if b.scheme = "file" then readFile (some b) s
              else readRelative b s

/-- Reads a text that is a URL of its own. -/
def parse (text : String) : Except Fault Url := read none text

def join (base : Url) (text : String) : Except Fault Url := read (some base) text

end XmlBounds.Url
