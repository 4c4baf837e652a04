import XmlBounds.Text.Blank

/-!
# URLs

The parts of a parsed URL and the text that they make up.
-/

namespace XmlBounds

/-- A host. Texts are stored in the form in which they are written. -/
inductive Url.Host where
  /-- A domain, or the host of a scheme without rules of its own; it may be empty. -/
  | name (text : String)
  | ipv4 (address : Nat)
  /-- The eight pieces of 16 bits. -/
  | ipv6 (pieces : List Nat)
  deriving DecidableEq, Repr

/-- A path. -/
inductive Url.Path where
  /-- A text without structure, to which nothing is relative. -/
  | opaqueText (text : String)
  /-- The text of segments, each behind a slash; it may be empty. -/
  | slashed (text : String)
  deriving DecidableEq, Repr

/-- A parsed URL, each part in its encoded form. -/
structure Url where
  scheme : String
  username : String
  password : String
  /-- Absent where the URL has no authority. -/
  host : Option Url.Host
  port : Option Nat
  path : Url.Path
  query : Option String
  fragment : Option String
  deriving DecidableEq, Repr

namespace Url

/-- Why a text is no URL. -/
inductive Fault where
  | relativeWithoutBase
  | relativeToOpaque
  | emptyHost
  | invalidDomain
  | invalidDomainCharacter
  | invalidPort
  | invalidIpv4
  | invalidIpv6
  deriving DecidableEq, Repr

def Fault.message : Fault → String
  | relativeWithoutBase => "relative URL without a base"
  | relativeToOpaque => "relative URL with a cannot-be-a-base base"
  | emptyHost => "empty host"
  | invalidDomain => "invalid international domain name"
  | invalidDomainCharacter => "invalid domain character"
  | invalidPort => "invalid port number"
  | invalidIpv4 => "invalid IPv4 address"
  | invalidIpv6 => "invalid IPv6 address"

/-- A scheme with rules of its own: it has a host, and its path is never opaque. -/
def isSpecial (scheme : String) : Bool :=
  scheme ∈ ["http", "https", "ws", "wss", "ftp", "file"]

/-- The port that a scheme leaves out. -/
def defaultPort (scheme : String) : Option Nat :=
  match scheme with
  | "http" | "ws" => some 80
  | "https" | "wss" => some 443
  | "ftp" => some 21
  | _ => none

def ipv4Text (address : Nat) : String :=
  let part (shift : Nat) := toString (address / shift % 256)
  s!"{part 16777216}.{part 65536}.{part 256}.{part 1}"

/-- Where the longest run of zeros starts and how long it is: the first of the longest runs. -/
def longestZeros (pieces : List Nat) : Nat × Nat :=
  (List.range pieces.length).foldl
    (fun best i =>
      let run := ((pieces.drop i).takeWhile (· == 0)).length
      if best.2 < run then (i, run) else best)
    (0, 0)

/-- A piece of an IPv6 address in hexadecimal. -/
def pieceText (piece : Nat) : String := String.ofList (Nat.toDigits 16 piece)

/-- The text of an IPv6 address: the longest run of two or more zeros is left out. -/
def ipv6Text (pieces : List Nat) : String :=
  let join (l : List Nat) := ":".intercalate (l.map pieceText)
  let (start, run) := longestZeros pieces
  if 2 ≤ run then s!"{join (pieces.take start)}::{join (pieces.drop (start + run))}"
  else join pieces

def Host.text : Host → String
  | name text => text
  | ipv4 address => ipv4Text address
  | ipv6 pieces => s!"[{ipv6Text pieces}]"

def Path.text : Path → String
  | opaqueText text | slashed text => text

/-- Whether relative references can be resolved against the URL. -/
def canBeBase (u : Url) : Bool :=
  match u.path with
  | .opaqueText _ => false
  | .slashed _ => true

/-- User name and password with the sign that ends them. -/
def credentials (u : Url) : String :=
  if u.username = "" ∧ u.password = "" then ""
  else if u.password = "" then u.username ++ "@"
  else u.username ++ ":" ++ u.password ++ "@"

/-- What stands between scheme and path. A path that would read as an authority is kept apart by
a dot segment. -/
def authority (u : Url) : String :=
  match u.host with
  | some host =>
      "//" ++ u.credentials ++ host.text ++ (u.port.map (":" ++ toString ·)).getD ""
  | none =>
      match u.path with
      | .slashed text => if ['/', '/'].isPrefixOf text.toList then "/." else ""
      | .opaqueText _ => ""

def text (u : Url) : String :=
  u.scheme ++ ":" ++ u.authority ++ u.path.text ++ (u.query.map ("?" ++ ·)).getD "" ++
    (u.fragment.map ("#" ++ ·)).getD ""

end Url

end XmlBounds
