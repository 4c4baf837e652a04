import XmlBounds.Files
import XmlBounds.Properties.Cache
import XmlBounds.Resolution.Sources

/-!
# The properties file of an installation

The file stands behind a cache, and may change between one look-up and the next.
-/

namespace XmlBounds

/-- The properties file behind its cache, and what becomes of it at the coming look-ups. Once
nothing more is coming, the file stays as it is. -/
structure Deployment where
  cache : PropertiesCache
  file : WatchedFile
  coming : List WatchedFile
  deriving DecidableEq, Repr

namespace Deployment

/-- The file as it is at the next look-up. -/
def turn (d : Deployment) : Deployment :=
  match d.coming with
  | [] => d
  | file :: coming => { d with file, coming }

/-- Looks a property up, reading the file anew if that is due. -/
def find? (name : String) : StateM Deployment (Option String) := do
  let d := (← get).turn
  let cache := d.cache.refresh d.file
  set { d with cache }
  return cache.properties.bind (·.find? name)

/-- The sources of a program whose properties file stands behind a cache. -/
def sources (process : Properties) : Sources (StateM Deployment) where
  deployment := find?
  process name := return process.find? name

end Deployment

/-- A path of a snapshot as the cache sees it. Only a file counts as there; a path that leads
through a file cannot be looked at. -/
def Files.watch (files : Files) (path : String) : WatchedFile :=
  match files.resolve (.ofText path) with
  | .ok (_, .file content) => ⟨.modifiedAt 0, (Text.decodeUtf8 content).toOption⟩
  | .ok (_, .directory) | .error .notFound => ⟨.absent, none⟩
  | .error _ => ⟨.unknown, none⟩

/-- The properties at a path of a snapshot. -/
def Files.properties (files : Files) (path : Option String) : Properties :=
  match path with
  | none => .empty
  | some p => ((PropertiesCache.ofPath path).current (files.watch p)).getD .empty

end XmlBounds
