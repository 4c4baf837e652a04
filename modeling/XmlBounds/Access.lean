import XmlBounds.Url.Parser

/-!
# Allow-lists of protocols

An external resource is fetched only if the protocol of its system identifier stands in a list
parted by commas, or if the list is the wildcard.
-/

namespace XmlBounds

/-- The list that allows every protocol. -/
def accessAll : String := "all"

/-- The list that allows none. -/
def accessNone : String := ""

/-- A read allow-list. -/
inductive AllowList where
  | any
  /-- The tokens, in small letters and without blanks around them. -/
  | only (tokens : List String)
  deriving DecidableEq, Repr

namespace AllowList

/-- Reads a list; one that is absent allows nothing. -/
def parse (allowed : Option String) (wildcard : String) : AllowList :=
  match allowed with
  | some list =>
      if Text.sameIgnoringCase list wildcard then any
      else only ((Text.splitOn ',' list.toList).map fun token =>
        String.ofList ((Text.trim token).map Char.toLower))
  | none => only []

def permits (allowed : AllowList) (protocol : String) : Bool :=
  match allowed with
  | any => true
  | only tokens => tokens.any (Text.sameIgnoringCase · protocol)

@[simp] theorem permits_any (protocol : String) : any.permits protocol = true := rfl

theorem permits_only_iff {tokens : List String} {protocol : String} :
    (only tokens).permits protocol = true ↔
      ∃ token ∈ tokens, Text.lowered token = Text.lowered protocol := by
  simp [permits, Text.sameIgnoringCase_iff]

end AllowList

/-- Why a system identifier has no protocol. -/
inductive ProtocolFault where
  | notUrl (why : Url.Fault)
  /-- A `jar:` identifier that embeds no identifier with a scheme. -/
  | noInnerScheme (systemId : String)
  deriving DecidableEq, Repr

/-- The protocol of a system identifier. One without a colon is a relative file path; a `jar:`
identifier embeds another, whose scheme counts. -/
def protocolOf (systemId : String) : Except ProtocolFault String :=
  if ':' ∉ systemId.toList then .ok "file"
  else
    match Url.parse systemId with
    | .error why => .error (.notUrl why)
    | .ok url =>
        if url.scheme = "jar" then
          let path := url.path.text.toList
          if ':' ∈ path then .ok (String.ofList ((path.takeWhile (· != ':')).map Char.toLower))
          else .error (.noInnerScheme systemId)
        else .ok url.scheme

/-- The protocol for which access to a system identifier is refused, or none if it is allowed.
Under the wildcard every identifier is allowed, even one without a protocol. -/
def refusedProtocol (systemId allowed : Option String) (wildcard : String) :
    Except ProtocolFault (Option String) :=
  match systemId, AllowList.parse allowed wildcard with
  | none, _ | _, .any => .ok none
  | some id, list => do
      let protocol ← protocolOf id
      return if list.permits protocol then none else some protocol

end XmlBounds
