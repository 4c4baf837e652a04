import XmlBounds.Configuration

/-!
# Readers of documents

A reader checks documents, in memory or on disk, against a configuration. References in a document
are relative to the reader's system identifier; a reader without one takes that of the first file
that it reads, and keeps it.
-/

namespace XmlBounds

/-- A reader over a configuration. -/
structure DocumentReader where
  configuration : Configuration
  systemId : Option String

namespace DocumentReader

def checkText (files : Files) (text : String) :
    StateM DocumentReader (Except Fault CheckReport) := fun r =>
  let c := r.configuration.startParse
  let (result, c') := Configuration.accounted
    (XmlBounds.checkText (c.context files r.systemId) text) c
  (result, { r with configuration := c' })

def fileId (files : Files) (path : LocalPath) : Except IoFault String := do
  return (Url.ofFilePath (← files.canonicalPath path)).text

/-- The text of a file, and the system identifier under which the reader will check it. -/
def openFile (r : DocumentReader) (files : Files) (path : LocalPath) :
    Except IoFault (String × String) := do
  let text ← files.readText path
  match r.systemId with
  | some systemId => return (text, systemId)
  | none => return (text, ← fileId files path)

def checkFile (files : Files) (path : String) :
    StateM DocumentReader (Except Fault CheckReport) := fun r =>
  match r.openFile files (.ofText path) with
  | .error fault => (.error (.io fault), r)
  | .ok (text, systemId) => checkText files text { r with systemId := some systemId }

end DocumentReader

end XmlBounds
