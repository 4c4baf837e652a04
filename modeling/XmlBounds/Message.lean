import XmlBounds.Text.Grouped

/-!
# Messages

Each kind of violation has a key, a domain and a template. A message is the template with every
numbered placeholder that has an argument replaced by it, all at once: the text of an argument is
never read for placeholders.
-/

namespace XmlBounds

/-- The kinds of message. -/
inductive MessageKey where
  /-- Argument: the limit. -/
  | entityExpansions
  /-- Arguments: the element and the limit. -/
  | elementAttributes
  /-- Arguments: the element, its depth and the limit. -/
  | elementDepth
  /-- Argument: the limit. -/
  | maxOccurs
  /-- Argument: the limit. -/
  | totalEntitySize
  /-- Argument: the limit. -/
  | generalEntitySize
  /-- Argument: the limit. -/
  | parameterEntitySize
  | doctypeNotAllowed
  /-- Arguments: the system identifier and its protocol. -/
  | accessExternalDtd
  /-- Arguments: the system identifier and its protocol. -/
  | accessExternalEntity
  /-- Arguments: the system identifier and its protocol. -/
  | accessExternalSchema
  /-- Arguments: the entity and the path of references to it. -/
  | recursiveReference
  deriving DecidableEq, Repr

namespace MessageKey

/-- Every kind of message, in the order of their declaration. -/
def all : List MessageKey :=
  [entityExpansions, elementAttributes, elementDepth, maxOccurs, totalEntitySize,
    generalEntitySize, parameterEntitySize, doctypeNotAllowed, accessExternalDtd,
    accessExternalEntity, accessExternalSchema, recursiveReference]

theorem mem_all (k : MessageKey) : k ∈ all := by cases k <;> decide

def name : MessageKey → String
  | entityExpansions => "EntityExpansionLimitExceeded"
  | elementAttributes => "ElementAttributeLimit"
  | elementDepth => "MaxElementDepthLimit"
  | maxOccurs => "maxOccurLimit"
  | totalEntitySize => "TotalEntitySizeLimitExceeded"
  | generalEntitySize => "MaxGeneralEntitySizeLimitExceeded"
  | parameterEntitySize => "MaxParameterEntitySizeLimitExceeded"
  | doctypeNotAllowed => "DoctypeNotAllowed"
  | accessExternalDtd => "AccessExternalDTD"
  | accessExternalEntity => "AccessExternalEntity"
  | accessExternalSchema => "schema_reference.access"
  | recursiveReference => "RecursiveReference"

/-- The domain under which the key is reported: schemas for the two keys about them, XML for the
others. -/
def domain : MessageKey → String
  | maxOccurs | accessExternalSchema => "http://www.w3.org/TR/xml-schema-1"
  | _ => "http://www.w3.org/TR/1998/REC-xml-19980210"

/-- The wording, with placeholders for the arguments. -/
def template : MessageKey → String
  | entityExpansions =>
      "The parser has encountered more than \"\x7b0\x7d\" entity expansions in this document; " ++
        "this is the limit imposed by the application."
  | elementAttributes =>
      "Element \"\x7b0\x7d\" has more than \"\x7b1\x7d\" attributes, \"\x7b1\x7d\" is the limit " ++
        "imposed by the application."
  | elementDepth =>
      "The element \"\x7b0\x7d\" has a depth of \"\x7b1\x7d\" that exceeds the limit " ++
        "\"\x7b2\x7d\" set by the application."
  | maxOccurs =>
      "Current configuration of the parser doesn't allow a maxOccurs attribute value to be set " ++
        "greater than the value \x7b0\x7d."
  | totalEntitySize =>
      "The accumulated size of entities exceeded the \"\x7b0\x7d\" limit set by the application."
  | generalEntitySize =>
      "The size of a general entity exceeded the \"\x7b0\x7d\" limit set by the application."
  | parameterEntitySize =>
      "The size of a parameter entity exceeded the \"\x7b0\x7d\" limit set by the application."
  | doctypeNotAllowed =>
      "DOCTYPE is disallowed when the feature " ++
        "\"http://apache.org/xml/features/disallow-doctype-decl\" set to true."
  | accessExternalDtd =>
      "External DTD: Failed to read external DTD '\x7b0\x7d', because '\x7b1\x7d' access is not " ++
        "allowed due to restriction set by the accessExternalDTD property."
  | accessExternalEntity =>
      "External Entity: Failed to read external document '\x7b0\x7d', because '\x7b1\x7d' " ++
        "access is not allowed due to restriction set by the accessExternalDTD property."
  | accessExternalSchema =>
      "schema_reference: Failed to read schema document '\x7b0\x7d', because '\x7b1\x7d' access " ++
        "is not allowed due to restriction set by the accessExternalSchema property."
  | recursiveReference =>
      "Recursive entity reference \"\x7b0\x7d\". (Reference path: \x7b1\x7d)"

end MessageKey

/-- An argument of a message. -/
inductive MessageArg where
  /-- Shown with its thousands grouped. -/
  | number (n : Int)
  | text (s : String)
  deriving DecidableEq, Repr

def MessageArg.display : MessageArg → String
  | number n => Text.grouped n
  | text s => s

namespace Message

/-- The value of a run of decimal digits. -/
def index? (s : List Char) : Option Nat :=
  if s ≠ [] ∧ s.all Char.isDigit then
    some (s.foldl (fun n d => 10 * n + (d.toNat - '0'.toNat)) 0)
  else none

/-- The argument for which a placeholder stands, and the text after it. Of the text behind an
opening brace, what stands before the first closing one is the argument's number. -/
def placeholder? (args : List String) (s : List Char) : Option (String × List Char) :=
  match s.dropWhile (· != '\x7d') with
  | [] => none
  | _ :: rest =>
      match (index? (s.takeWhile (· != '\x7d'))).bind (args[·]?) with
      | some arg => some (arg, rest)
      | none => none

theorem length_of_placeholder? {args : List String} {s rest : List Char} {arg : String}
    (h : placeholder? args s = some (arg, rest)) : rest.length < s.length := by
  rw [placeholder?] at h
  split at h
  · simp at h
  · next c rest' hs =>
      split at h
      · simp only [Option.some.injEq, Prod.mk.injEq] at h
        have := (List.dropWhile_sublist (l := s) (· != '\x7d')).length_le
        rw [hs, List.length_cons] at this
        rw [← h.2]
        omega
      · simp at h

/-- The template with its placeholders filled. A placeholder without an argument stays as it is. -/
def fill (args : List String) (s : List Char) : List Char :=
  match s with
  | [] => []
  | '\x7b' :: rest =>
      match _h : placeholder? args rest with
      | some (arg, rest') => arg.toList ++ fill args rest'
      | none => '\x7b' :: fill args rest
  | c :: rest => c :: fill args rest
termination_by s.length
decreasing_by
  · have := length_of_placeholder? _h
    simp only [List.length_cons]
    omega
  · simp
  · simp

/-- The message of a key with its arguments. -/
def render (key : MessageKey) (args : List MessageArg) : String :=
  String.ofList (fill (args.map MessageArg.display) key.template.toList)

end Message

end XmlBounds
