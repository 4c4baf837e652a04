import XmlBounds.Url.FilePath

/-!
# Identifiers of external resources

An external resource is asked for by its identifiers. A relative system identifier is resolved
against the resource in which it is written.
-/

namespace XmlBounds

/-- What names an external resource. -/
structure ResourceId where
  publicId : Option String
  /-- As it is written. -/
  systemId : Option String
  /-- What the system identifier is relative to. -/
  base : Option String
  /-- With a percent sign for a parameter entity; absent for a DTD. -/
  entityName : Option String
  deriving DecidableEq, Repr

namespace ResourceId

/-- A base as a URL; one that is no URL is a path seen from the working directory. -/
def baseUrl (directory base : String) : Url :=
  match Url.parse base with
  | .ok url => url
  | .error _ => Url.ofFilePath (.ofText (joinPath directory base))

/-- The system identifier resolved against its base. A URL of its own stays as it is written, and
so does what cannot be resolved. -/
def expanded (directory : String) (id : ResourceId) : Option String :=
  id.systemId.map fun systemId =>
    match Url.parse systemId, id.base with
    | .ok _, _ | .error _, none => systemId
    | .error _, some base =>
        match (baseUrl directory base).join systemId with
        | .ok url => url.text
        | .error _ => systemId

end ResourceId

end XmlBounds
