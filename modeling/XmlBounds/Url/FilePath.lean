import XmlBounds.LocalPath
import XmlBounds.Url.Parser

/-!
# File paths as URLs

An absolute path is a file URL with a segment for each of its names, and a file URL without a
host is the path that its decoded text spells.
-/

namespace XmlBounds.Url

/-- The file URL of an absolute path. -/
def ofFilePath (path : LocalPath) : Url :=
  let segments := match path.names with
    | [] => [""]
    | names => names.map (encodeBytes inFileName)
  file noHost (.slashed (String.join (segments.map ("/" ++ ·))))

/-- Whether a path ends in a drive letter behind another byte. -/
def endsInDriveLetter (path : List UInt8) : Bool :=
  match path.reverse with
  | mark :: letter :: _ :: _ => isDriveLetter [Char.ofUInt8 letter, Char.ofUInt8 mark]
  | _ => false

/-- The local path that a file URL names, if it has no host. A slash follows a drive letter. -/
def toFilePath? (u : Url) : Option LocalPath :=
  match u.path with
  | .opaqueText _ => none
  | .slashed text =>
      if u.host = none ∨ u.host = noHost ∨ u.host = some (.name "localhost") then
        let path := percentDecode (Text.bytes text)
        some ⟨if endsInDriveLetter path then path ++ [LocalPath.slash] else path⟩
      else none

end XmlBounds.Url
