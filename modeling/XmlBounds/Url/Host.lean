import XmlBounds.Text.Split
import XmlBounds.Text.Utf8
import XmlBounds.Url.Basic
import XmlBounds.Url.Domain
import XmlBounds.Url.Percent

/-!
# Reading hosts

A host in brackets is an IPv6 address. Otherwise, under a special scheme, it is decoded and is an
IPv4 address if its last label is a number and a domain if not; under another scheme it is kept as
it is written.
-/

namespace XmlBounds.Url

/-- A number of an IPv4 address: `0x` begins hexadecimal and `0` octal digits. The inner value is
absent for a number of more than 32 bits. -/
def ipv4Number? (s : List Char) : Option (Option Nat) :=
  let read (radix : Nat) (digits : List Char) : Option (Option Nat) :=
    if digits = [] then some (some 0)
    else if digits.all fun c => (Text.digit? radix c).isSome then
      match Text.readDigits radix 4294967295 .tooLarge 0 digits with
      | .ok n => some (some n)
      | .error _ => some none
    else none
  match s with
  | [] => none
  | '0' :: 'x' :: digits | '0' :: 'X' :: digits => read 16 digits
  | '0' :: d :: digits => read 8 (d :: digits)
  | _ => read 10 s

/-- Whether the last label that is not empty is a number. -/
def endsInNumber (domain : List Char) : Bool :=
  let isNumber (label : List Char) : Bool :=
    (label ≠ [] && label.all Char.isDigit) || (ipv4Number? label).isSome
  match (Text.splitOn '.' domain).reverse with
  | [] :: label :: _ => isNumber label
  | [[]] | [] => false
  | label :: _ => isNumber label

/-- Reads an IPv4 address: up to four numbers, the last of which fills all bytes that are left. -/
def readIpv4 (domain : List Char) : Except Fault Nat :=
  let labels := Text.splitOn '.' domain
  let labels := if labels.getLast? = some [] then labels.dropLast else labels
  match labels.mapM (fun label => (ipv4Number? label).join) with
  | none => .error .invalidIpv4
  | some numbers =>
      match numbers.reverse with
      | [] => .error .invalidIpv4
      | last :: before =>
          if 3 < before.length ∨ before.any (255 < ·) ∨ Nat.pow 256 (4 - before.length) ≤ last then
            .error .invalidIpv4
          else
            .ok (before.reverse.zipIdx.foldl (fun sum (n, i) => sum + n * Nat.pow 256 (3 - i)) last)

/-- A piece of an IPv6 address: one to four hexadecimal digits. -/
def ipv6Piece? (s : List Char) : Option Nat :=
  if s = [] ∨ 4 < s.length ∨ s.any (fun c => (Text.digit? 16 c).isNone) then none
  else (Text.readDigits 16 65535 .tooLarge 0 s).toOption

/-- A byte of an IPv4 address inside an IPv6 address: decimal, without leading zeros. -/
def ipv4Byte? (s : List Char) : Option Nat :=
  match s with
  | '0' :: _ :: _ => none
  | [] => none
  | _ => if s.all Char.isDigit then (Text.readDigits 10 255 .tooLarge 0 s).toOption else none

/-- The two pieces of an IPv4 address that ends an IPv6 address. -/
def ipv4Tail? (s : List Char) : Option (List Nat) :=
  match (Text.splitOn '.' s).mapM ipv4Byte? with
  | some [a, b, c, d] => some [256 * a + b, 256 * c + d]
  | _ => none

/-- The pieces between single colons; the last may be an IPv4 address if the address ends there. -/
def ipv6Run? (atEnd : Bool) (s : List Char) : Option (List Nat) :=
  if s = [] then some []
  else
    let parts := Text.splitOn ':' s
    match parts.getLast? with
    | some last =>
        if atEnd ∧ '.' ∈ last then do
          return (← parts.dropLast.mapM ipv6Piece?) ++ (← ipv4Tail? last)
        else parts.mapM ipv6Piece?
    | none => none

/-- The text before the first double colon and the text after it. -/
def splitDoubleColon : List Char → Option (List Char × List Char)
  | ':' :: ':' :: rest => some ([], rest)
  | c :: rest => (splitDoubleColon rest).map fun (before, after) => (c :: before, after)
  | [] => none

/-- Reads an IPv6 address: eight pieces, or fewer around one double colon that stands for zeros. -/
def readIpv6 (s : List Char) : Except Fault (List Nat) :=
  let pieces? : Option (List Nat) :=
    match splitDoubleColon s with
    | none => (ipv6Run? true s).filter (·.length = 8)
    | some (before, after) => do
        let left ← ipv6Run? false before
        let right ← ipv6Run? true after
        if 7 < left.length + right.length then none
        else some (left ++ List.replicate (8 - left.length - right.length) 0 ++ right)
  match pieces? with
  | some pieces => .ok pieces
  | none => .error .invalidIpv6

/-- Characters that no host may hold. -/
def forbiddenInHost : List Char :=
  ['\x00', '\t', '\n', '\r', ' ', '#', '/', ':', '<', '>', '?', '@', '[', '\\', ']', '^', '|']

/-- Reads a host under a scheme with or without rules of its own. -/
def readHost (special : Bool) (s : List Char) : Except Fault Host := do
  match s with
  | '[' :: rest =>
      if rest.getLast? = some ']' then return .ipv6 (← readIpv6 rest.dropLast)
      else throw .invalidIpv6
  | _ =>
      if special then
        let decoded ← (Text.decodeUtf8 (percentDecode (Text.bytes (String.ofList s)))).mapError
          fun _ => .invalidDomain
        match domainToAscii decoded.toList with
        | none => throw .invalidDomain
        | some [] => throw .emptyHost
        | some domain =>
            if endsInNumber domain then return .ipv4 (← readIpv4 domain)
            else return .name (String.ofList domain)
      else if s.any (· ∈ forbiddenInHost) then throw .invalidDomainCharacter
      else return .name (percentEncode [] s)

end XmlBounds.Url
