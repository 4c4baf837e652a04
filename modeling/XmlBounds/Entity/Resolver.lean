import XmlBounds.Entity.Source

/-!
# Resolving external entities

A resolver answers a request with a source, with nothing, or with a fault. The monitor around a
resolver opens a source that has no stream, and counts the stream of every named entity that it
hands out.
-/

namespace XmlBounds

/-- Any answer to a request. It may hang on all that was done before, so the same request need not
be answered twice in the same way. -/
abbrev EntityResolver :=
  List Entry → ResourceId → Except Fault (Option (InputSource ByteStream))

/-- The resolver that gives identifiers only and leaves the opening to its caller. -/
def systemIdResolver (directory : String) : EntityResolver := fun _ id =>
  .ok (some (.ofId directory id))

def openFile (files : Files) (path : LocalPath) : Accounted ByteStream :=
  match files.openStream path with
  | .ok stream => return stream
  | .error fault => throw (.io fault)

/-- A source whose stream, if it has none of its own, is the file that it names. -/
def openSource (files : Files) (id : ResourceId) (source : InputSource ByteStream) :
    Accounted (InputSource ByteStream) := do
  if source.charStream.isSome ∨ source.byteStream.isSome then return source
  else
    match source.systemId.or (id.expanded files.directory) with
    | none => throw (.invalidUri (.noSystemId id.entityName))
    | some systemId =>
        match localPath systemId with
        | .error fault => throw fault
        | .ok path =>
            Accounted.note (.opened systemId path)
            let stream ← openFile files path
            return { source with byteStream := some stream }

/-- What comes of a resolver's answer: a source is opened, and its stream counted for the entity
that it was asked for. -/
def acceptAnswer (files : Files) (id : ResourceId) :
    Except Fault (Option (InputSource ByteStream)) → Accounted (Option (InputSource Stream))
  | .error fault => throw fault
  | .ok none => return none
  | .ok (some source) => do
      let source ← openSource files id source
      return some (source.countedFor id.entityName)

/-- Asks a resolver, opens what it leaves unopened, and counts the streams of named entities. -/
def resolveMonitored (resolver : Option EntityResolver) (files : Files) (id : ResourceId) :
    Accounted (Option (InputSource Stream)) := do
  match resolver with
  | none => return none
  | some resolve =>
      Accounted.note (.asked id)
      acceptAnswer files id (resolve (← get).journal id)

end XmlBounds
