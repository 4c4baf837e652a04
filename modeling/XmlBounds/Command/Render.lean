import XmlBounds.Check.Document
import XmlBounds.Resolution.Basic

/-!
# What the program prints

A report and a list of limits are printed as text or as JSON, indented by two spaces.
-/

namespace XmlBounds.Command

def programName : String := "xmlguard"

def programVersion : String := "0.1.0"

/-- A value in JSON that holds no other. -/
inductive Scalar where
  | null
  | bool (b : Bool)
  | number (n : Int)
  | text (s : String)
  deriving DecidableEq, Repr

/-- The two lower-case hexadecimal digits of a control character. -/
def controlDigits (c : Char) : List Char :=
  [Nat.digitChar (c.toNat / 16), Nat.digitChar (c.toNat % 16)]

/-- The characters that stand for one character in a JSON text. -/
def jsonEscape (c : Char) : List Char :=
  match c with
  | '"' => ['\\', '"']
  | '\\' => ['\\', '\\']
  | '\n' => ['\\', 'n']
  | '\r' => ['\\', 'r']
  | '\t' => ['\\', 't']
  | '\x08' => ['\\', 'b']
  | '\x0c' => ['\\', 'f']
  | _ => if c < ' ' then ['\\', 'u', '0', '0'] ++ controlDigits c else [c]

def jsonText (s : String) : String :=
  String.ofList ('"' :: s.toList.flatMap jsonEscape ++ ['"'])

def Scalar.render : Scalar → String
  | null => "null"
  | bool b => if b then "true" else "false"
  | number n => toString n
  | text s => jsonText s

/-- A value of a setting in JSON. -/
def Scalar.ofValue : PropertyValue → Scalar
  | .int n => number n.toInt
  | .text s => text s
  | .bool b => bool b
  | .null => null

/-- Items between brackets, each on a line of its own. -/
def bracketed (opening closing indent : String) (items : List String) : String :=
  opening ++ "\n" ++ ",\n".intercalate (items.map ((indent ++ "  ") ++ ·)) ++ "\n" ++ indent ++
    closing

def jsonObject (indent : String) (fields : List (String × Scalar)) : String :=
  bracketed "\x7b" "\x7d" indent
    (fields.map fun (name, value) => jsonText name ++ ": " ++ value.render)

def jsonObjects (objects : List (List (String × Scalar))) : String :=
  bracketed "[" "]" "" (objects.map (jsonObject "  "))

/-- The report of a check in JSON. -/
def reportJson (r : CheckReport) : String :=
  jsonObject "" [
    ("doctype", match r.doctype with
      | some root => .text root
      | none => .null),
    ("elements", .number r.elements),
    ("max_depth", .number r.maxDepth),
    ("entity_expansions", .number r.expansions),
    ("entity_text", .number r.entityText),
    ("entities_declared", .number r.entitiesDeclared),
    ("skipped_external", .bool r.skippedExternal)] ++ "\n"

/-- The report of a check of a file as text. -/
def reportText (file : String) (r : CheckReport) : String :=
  s!"✓ {file}: within limits\n" ++
    s!"  Elements: {r.elements} (max depth {r.maxDepth})\n" ++
    s!"  Entity expansions: {r.expansions}\n" ++
    s!"  Entity text: {r.entityText}\n" ++
    if r.skippedExternal then "  External DTD content was not loaded\n" else ""

def settingsJson (settings : List EffectiveSetting) : String :=
  jsonObjects (settings.map fun s => [
    ("name", .text s.key.canonicalName),
    ("value", .ofValue s.value),
    ("source", .text s.origin.identifier)]) ++ "\n"

/-- A text filled up with spaces to a width. -/
def padded (width : Nat) (s : String) : String :=
  s ++ String.ofList (List.replicate (width - s.length) ' ')

/-- A value in the list of limits: the largest number and the empty text have words. -/
def valueText (v : PropertyValue) : String :=
  if v = .int Limit.unlimited.toInt32 then "unlimited"
  else if v = .text "" then "(none)"
  else v.display

def settingsText (settings : List EffectiveSetting) : String :=
  s!"{programName} v{programVersion}\n\n" ++
    String.join (settings.map fun s =>
      s!"  {padded 64 s.key.canonicalName} {padded 12 (valueText s.value)} {s.origin.display}\n")

end XmlBounds.Command
