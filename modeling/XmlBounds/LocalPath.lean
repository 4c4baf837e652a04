import XmlBounds.Text.Bytes
import XmlBounds.Text.Split
import XmlBounds.Text.Utf8

/-!
# Paths of local files

A path is a sequence of bytes, which need not spell a text. Slashes part it into the names that
lead from directory to directory.
-/

namespace XmlBounds

/-- The name of a file or a directory. -/
abbrev FileName := List UInt8

/-- A path, from the root or from the working directory. -/
structure LocalPath where
  bytes : List UInt8
  deriving DecidableEq, Repr

namespace LocalPath

def ofText (path : String) : LocalPath := ⟨Text.bytes path⟩

/-- The text that spells a path, if there is one. -/
def toText? (path : LocalPath) : Option String := (Text.decodeUtf8 path.bytes).toOption

def slash : UInt8 := 0x2F

/-- Whether the path begins at the root. -/
def isAbsolute (path : LocalPath) : Bool := path.bytes.head? == some slash

def steps (path : LocalPath) : List FileName := Text.splitOn slash path.bytes

/-- A step that leads nowhere else: nothing, or a single dot. -/
def isIdle (step : FileName) : Bool := step == [] || step == [0x2E]

/-- A step to the directory above: a double dot. -/
def isUp (step : FileName) : Bool := step == [0x2E, 0x2E]

def names (path : LocalPath) : List FileName := path.steps.filter (!isIdle ·)

/-- The path that leads from the root along the names. -/
def ofNames (names : List FileName) : LocalPath :=
  match names with
  | [] => ⟨[slash]⟩
  | names => ⟨names.flatMap (slash :: ·)⟩

end LocalPath

/-- A path seen from a directory: an absolute path stays as it is. -/
def joinPath (directory path : String) : String :=
  match path.toList with
  | '/' :: _ => path
  | _ =>
      match directory.toList.getLast? with
      | none | some '/' => directory ++ path
      | _ => directory ++ "/" ++ path

end XmlBounds
