import XmlBounds.Properties.Basic
import XmlBounds.LocalPath

/-!
# Properties of a process

The environment of a process supplies properties under their own names, or under names in which an
environment variable can be written. It also says where the properties file is.
-/

namespace XmlBounds

/-- The environment of a process: names and values, each pair standing for the text with an equals
sign between the two. -/
structure Environment where
  entries : List (String × String)
  deriving DecidableEq, Repr

namespace Environment

/-- What follows a name and an equals sign in a text that begins with them. -/
def valueIn? (name : String) (text : List Char) : Option String :=
  let beginning := name.toList ++ ['=']
  if beginning.isPrefixOf text then some (String.ofList (text.drop beginning.length)) else none

/-- The value of a variable: a name may hold equals signs, but is not empty. -/
def value? (e : Environment) (name : String) : Option String :=
  if name = "" then none
  else e.entries.findSome? fun (key, value) => valueIn? name (key.toList ++ '=' :: value.toList)

/-- The name of the variable that may hold a property: capitals, digits and underscores only. -/
def spelling (name : String) : String :=
  String.ofList (name.toList.map fun c => if c.isAlphanum then c.toUpper else '_')

/-- The value of a property: that of the variable of the very name, else that of its spelling. -/
def find? (e : Environment) (name : String) : Option String :=
  (e.value? name).or (e.value? (spelling name))

/-- The properties of the given names that the environment supplies. -/
def properties (e : Environment) (names : List String) : Properties :=
  names.foldl (fun p name => match e.find? name with
    | some value => p.insert name value
    | none => p) .empty

/-- The variable that names the directory of the installation. -/
def homeVariable : String := "XMLGUARD_HOME"

/-- The directory of the installation, if the environment names one. -/
def home? (e : Environment) : Option String := (e.value? homeVariable).filter (· ≠ "")

/-- The path of the properties file of an installation. -/
def propertiesPath (home : String) : String :=
  joinPath (joinPath home "lib") "xmlguard.properties"

end Environment

end XmlBounds
