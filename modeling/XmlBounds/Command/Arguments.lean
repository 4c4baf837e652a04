import XmlBounds.Text.Blank

/-!
# The command line

The program checks a document or lists the limits, or says how it is used. Options may stand before
and after the document; after two hyphens nothing is an option any more.
-/

namespace XmlBounds.Command

/-- What the options ask for. -/
structure Options where
  isSecure : Bool
  isInsecure : Bool
  isJson : Bool
  /-- The settings to be set, in order. -/
  properties : List (String × String)
  /-- The features to be set, in order. -/
  features : List (String × String)
  deriving DecidableEq, Repr

def Options.none : Options := ⟨false, false, false, [], []⟩

/-- What help can be asked about. -/
inductive Topic where
  | program
  | check
  | limits
  | help
  deriving DecidableEq, Repr

/-- What the program is asked to do. -/
inductive Invocation where
  | check (file : String) (options : Options)
  | limits (options : Options)
  | version
  | help (topic : Topic)
  deriving DecidableEq, Repr

/-- A key and a value around the first equals sign, without blanks around them. -/
def keyValue? (s : String) : Option (String × String) :=
  match s.toList.dropWhile (· != '=') with
  | [] => .none
  | _ :: value =>
      some (String.ofList (Text.trim (s.toList.takeWhile (· != '='))),
        String.ofList (Text.trim value))

/-- The options and documents that were read. -/
structure Parsed where
  options : Options
  documents : List String
  deriving DecidableEq, Repr

/-- What ends the reading of arguments early. -/
inductive Interruption where
  | misuse
  /-- Help is asked for, whatever else is. -/
  | help
  deriving DecidableEq, Repr

namespace Parsed

def secure? (p : Parsed) : Option Parsed :=
  if p.options.isSecure then .none else some { p with options.isSecure := true }

def insecure? (p : Parsed) : Option Parsed :=
  if p.options.isInsecure then .none else some { p with options.isInsecure := true }

def json? (p : Parsed) : Option Parsed :=
  if p.options.isJson then .none else some { p with options.isJson := true }

def property? (p : Parsed) (value : String) : Option Parsed :=
  (keyValue? value).map fun entry =>
    { p with options.properties := p.options.properties ++ [entry] }

def feature? (p : Parsed) (value : String) : Option Parsed :=
  (keyValue? value).map fun entry =>
    { p with options.features := p.options.features ++ [entry] }

/-- Adds a document, if there is room for another one. -/
def document? (room : Nat) (p : Parsed) (path : String) : Option Parsed :=
  if path = "" ∨ room ≤ p.documents.length then .none
  else some { p with documents := p.documents ++ [path] }

/-- Reads one-letter options that share a hyphen. -/
def letters (p : Parsed) : List Char → Except Interruption Parsed
  | [] => .ok p
  | 'h' :: _ => .error .help
  | 'j' :: rest =>
      match p.json? with
      | some p => letters p rest
      | .none => .error .misuse
  | _ => .error .misuse

end Parsed

/-- Whether an argument has the form of an option. A single hyphen has not. -/
def isOption (arg : String) : Bool := arg.toList.head? == some '-' && arg != "-"

/-- What follows a beginning that a text has. -/
def after? (beginning s : String) : Option String :=
  if beginning.toList.isPrefixOf s.toList then
    some (String.ofList (s.toList.drop beginning.length))
  else .none

/-- Reads an option that takes no argument of its own. -/
def readOption (p : Parsed) (arg : String) : Except Interruption Parsed :=
  let orMisuse (p? : Option Parsed) : Except Interruption Parsed :=
    (p?.map .ok).getD (.error .misuse)
  match arg with
  | "--help" => .error .help
  | "--secure" => orMisuse p.secure?
  | "--no-secure" => orMisuse p.insecure?
  | "--json" => orMisuse p.json?
  | _ =>
      match after? "--set=" arg, after? "--feature=" arg, arg.toList with
      | some value, _, _ => orMisuse (p.property? value)
      | _, some value, _ => orMisuse (p.feature? value)
      | _, _, '-' :: letter :: rest =>
          if letter = '-' then .error .misuse else p.letters (letter :: rest)
      | _, _, _ => .error .misuse

/-- Reads the arguments after the name of a command that takes some documents. -/
def readOptions (room : Nat) (p : Parsed) : List String → Except Interruption Parsed
  | [] => .ok p
  | "--" :: rest =>
      match rest.foldlM (Parsed.document? room) p with
      | some p => .ok p
      | .none => .error .misuse
  | arg :: rest =>
      if arg = "--set" ∨ arg = "--feature" then
        match rest with
        | [] => .error .misuse
        | value :: rest =>
            match if isOption value then .none
              else if arg = "--set" then p.property? value else p.feature? value with
            | some p => readOptions room p rest
            | .none => .error .misuse
      else if isOption arg then
        match readOption p arg with
        | .ok p => readOptions room p rest
        | .error interruption => .error interruption
      else
        match p.document? room arg with
        | some p => readOptions room p rest
        | .none => .error .misuse

/-- The options and documents in the arguments of a command, if the options fit together. -/
def readCommand (room : Nat) (args : List String) : Except Interruption Parsed :=
  match readOptions room ⟨.none, []⟩ args with
  | .ok p => if p.options.isSecure && p.options.isInsecure then .error .misuse else .ok p
  | .error interruption => .error interruption

/-- What the arguments ask for. There is no result if they are misused. -/
def Invocation.read : List String → Option Invocation
  | "--version" :: _ => some version
  | "--help" :: _ | ["help"] => some (help .program)
  | ["help", "check"] => some (help .check)
  | ["help", "limits"] => some (help .limits)
  | ["help", "help"] => some (help .help)
  | "check" :: rest =>
      match readCommand 1 rest with
      | .ok ⟨options, [file]⟩ => some (check file options)
      | .ok _ | .error .misuse => .none
      | .error .help => some (help .check)
  | "limits" :: rest =>
      match readCommand 0 rest with
      | .ok ⟨options, _⟩ => some (limits options)
      | .error .misuse => .none
      | .error .help => some (help .limits)
  | arg :: _ =>
      if ['-', 'V'].isPrefixOf arg.toList then some version
      else if ['-', 'h'].isPrefixOf arg.toList then some (help .program)
      else .none
  | [] => .none

end XmlBounds.Command
