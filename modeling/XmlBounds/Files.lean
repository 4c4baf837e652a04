import XmlBounds.Entity.Stream

/-!
# Local files

A snapshot of the files that a computation can see. Paths are followed name by name from the
working directory or the root; every name but the last must be a directory.
-/

namespace XmlBounds

/-- The known files and the working directory. -/
structure Files where
  /-- The absolute path of the working directory. -/
  directory : String
  /-- The names along the path of each file, from the root, with the file's bytes. -/
  entries : List (List FileName × List UInt8)
  /-- The names along the paths of further directories. -/
  directories : List (List FileName) := []

namespace Files

/-- What a path can lead to. -/
inductive Node where
  | file (content : List UInt8)
  | directory
  deriving DecidableEq, Repr

/-- The names along the path of the working directory. -/
def start (files : Files) : List FileName := (LocalPath.ofText files.directory).names

/-- What stands at a sequence of names: a file, or a directory on the way to a file or to a known
directory. -/
def node? (files : Files) (names : List FileName) : Option Node :=
  match files.entries.lookup names with
  | some content => some (.file content)
  | none =>
      if names.isPrefixOf files.start ∨
          files.entries.any (fun (path, _) => names.isPrefixOf path) ∨
          files.directories.any (names.isPrefixOf ·) then some .directory
      else none

/-- How many bytes a name may have. -/
def maxNameLength : Nat := 255

/-- How many bytes a path may have. -/
def maxPathLength : Nat := 4095

/-- Follows the steps of a path from a place. -/
def walk (files : Files) (here : List FileName) :
    List FileName → Except IoKind (List FileName × Node)
  | [] =>
      match files.node? here with
      | some node => .ok (here, node)
      | none => .error .notFound
  | step :: rest =>
      match files.node? here with
      | none => .error .notFound
      | some (.file _) => .error .notADirectory
      | some .directory =>
          if LocalPath.isIdle step then walk files here rest
          else if LocalPath.isUp step then walk files here.dropLast rest
          else if maxNameLength < step.length then .error .invalidFilename
          else walk files (here ++ [step]) rest

/-- Where a path leads, and what stands there. -/
def resolve (files : Files) (path : LocalPath) : Except IoKind (List FileName × Node) :=
  if path.bytes = [] then .error .notFound
  else if 0 ∈ path.bytes then .error .invalidInput
  else if maxPathLength < path.bytes.length then .error .invalidFilename
  else files.walk (if path.isAbsolute then [] else files.start) path.steps

/-- Opens a path as a stream. A directory opens, but cannot be read. -/
def openStream (files : Files) (path : LocalPath) : Except IoFault ByteStream :=
  match files.resolve path with
  | .error kind => .error ⟨kind, none⟩
  | .ok (_, .file content) => .ok (.ofBytes content)
  | .ok (_, .directory) => .ok ⟨[], some ⟨.isADirectory, none⟩⟩

def readText (files : Files) (path : LocalPath) : Except IoFault String := do
  let stream ← files.openStream path
  let content ← stream.readAll
  (Text.decodeUtf8 content).mapError fun _ => ⟨.invalidData, none⟩

/-- The absolute path of a file, without dots and doubled slashes. -/
def canonicalPath (files : Files) (path : LocalPath) : Except IoFault LocalPath :=
  match files.resolve path with
  | .error kind => .error ⟨kind, none⟩
  | .ok (names, _) => .ok (.ofNames names)

end Files

end XmlBounds
