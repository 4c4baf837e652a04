import XmlBounds.Files

/-!
# Input sources

What a resolver answers a request for an external resource with: other identifiers, a stream of
bytes, a stream of characters, or several of these.
-/

namespace XmlBounds

/-- The local path that a system identifier stands for. One that is no URL is a path itself. -/
def localPath (systemId : String) : Except Fault LocalPath :=
  match Url.parse systemId with
  | .ok url =>
      if url.scheme = "file" then
        match url.toFilePath? with
        | some path => .ok path
        | none => .error (.invalidUri (.notLocalFile systemId))
      else .error (.io ⟨.unsupported, some s!"no transport for scheme '{url.scheme}'"⟩)
  | .error _ => .ok (.ofText systemId)

/-- Opens a system identifier as a local file. No allow-list is consulted here. -/
def openSystemId (files : Files) (systemId : String) : Except Fault ByteStream := do
  (files.openStream (← localPath systemId)).mapError .io

/-- A stream that a source offers. -/
inductive Stream where
  | plain (stream : ByteStream)
  | monitored (stream : MonitoredStream)
  deriving DecidableEq, Repr

/-- All bytes that are left in a stream. -/
def Stream.readAll (policy : Policy) (reporter : Reporter) : Stream → Accounted (List UInt8)
  | plain stream =>
      match stream.readAll with
      | .ok bytes => return bytes
      | .error fault => throw (.io fault)
  | monitored stream => stream.readAll policy reporter

/-- A resolved external resource, with streams of a certain kind. -/
structure InputSource (σ : Type) where
  publicId : Option String
  systemId : Option String
  base : Option String
  byteStream : Option σ
  /-- A stream of UTF-8 text. -/
  charStream : Option σ
  deriving DecidableEq, Repr

namespace InputSource

variable {σ : Type}

/-- A source that gives identifiers only. -/
def ofId (directory : String) (id : ResourceId) : InputSource σ :=
  ⟨id.publicId, id.expanded directory, id.base, none, none⟩

def ofText (systemId text : String) : InputSource ByteStream :=
  ⟨none, some systemId, none, none, some (.ofBytes (Text.bytes text))⟩

/-- The source with streams that nobody counts. -/
def plain (s : InputSource ByteStream) : InputSource Stream :=
  { s with byteStream := s.byteStream.map .plain, charStream := s.charStream.map .plain }

/-- The source with the stream that is to be read counted for an entity. -/
def monitored (entityName : String) (s : InputSource ByteStream) : InputSource Stream :=
  match s.charStream, s.byteStream with
  | some stream, _ =>
      { s.plain with charStream := some (.monitored (.ofStream stream .chars entityName)) }
  | none, some stream =>
      { s.plain with byteStream := some (.monitored (.ofStream stream .bytes entityName)) }
  | none, none => s.plain

/-- The source with its stream counted if it is of a named entity. -/
def countedFor (s : InputSource ByteStream) : Option String → InputSource Stream
  | some entityName => s.monitored entityName
  | none => s.plain

/-- The source as it is shown to a reader of logs. -/
def describe (s : InputSource σ) : String :=
  let flag (b : Bool) := if b then "true" else "false"
  "InputSource \x7b public_id: " ++ Text.quotedOption s.publicId ++
    ", system_id: " ++ Text.quotedOption s.systemId ++
    ", base_system_id: " ++ Text.quotedOption s.base ++
    ", byte_stream: " ++ flag s.byteStream.isSome ++
    ", char_stream: " ++ flag s.charStream.isSome ++ " \x7d"

/-- The whole resource as text: of its character stream if there is one, else of its byte stream,
else empty. -/
def readText (policy : Policy) (reporter : Reporter) (s : InputSource Stream) :
    Accounted String := do
  match s.charStream, s.byteStream with
  | some stream, _ =>
      match Text.decodeUtf8 (← stream.readAll policy reporter) with
      | .ok text => return text
      | .error _ => throw (.io ⟨.invalidData, none⟩)
  | none, some stream =>
      match Text.decodeUtf8 (← stream.readAll policy reporter) with
      | .ok text => return text
      | .error why => throw (.notText why)
  | none, none => return ""

end InputSource

end XmlBounds
