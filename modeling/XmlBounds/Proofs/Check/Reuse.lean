import XmlBounds.Proofs.Check.Plain

/-!
# Readers that are used again

A reader that was given no system identifier takes that of the first file that it can read, and
checks every later file under it, wherever that file lies. It answers as a new reader would only if
the file is the one that the identifier is of.
-/

namespace XmlBounds.DocumentReader

/-- The system identifier of a file, if the file can be read. -/
def ownId? (files : Files) (path : String) : Option String :=
  match files.readText (.ofText path) with
  | .error _ => none
  | .ok _ => (fileId files (.ofText path)).toOption

/-- Checks files one after the other. -/
def checkFiles (files : Files) :
    List String → StateM DocumentReader (List (Except Fault CheckReport))
  | [] => return []
  | path :: rest => do
      let result ← checkFile files path
      return result :: (← checkFiles files rest)

variable {files : Files}

theorem exists_fileId {path : LocalPath} {text : String} (h : files.readText path = .ok text) :
    ∃ id, fileId files path = .ok id := by
  cases hresolve : files.resolve path with
  | error kind => simp [Files.readText, Files.openStream, hresolve, Bind.bind, Except.bind] at h
  | ok found =>
      exact ⟨_, by simp only [fileId, Files.canonicalPath, hresolve]; rfl⟩

/-- A file is checked under the reader's system identifier, and under its own if there is none. -/
theorem checkFile_eq (files : Files) (path : String) (r : DocumentReader) :
    checkFile files path r =
      match files.readText (.ofText path) with
      | .error fault => (.error (.io fault), r)
      | .ok text =>
          checkText files text { r with systemId := r.systemId.or (ownId? files path) } := by
  cases hread : files.readText (.ofText path) with
  | error fault => simp [checkFile, openFile, hread, Bind.bind, Except.bind]
  | ok text =>
      obtain ⟨id, hid⟩ := exists_fileId hread
      obtain ⟨c, systemId⟩ := r
      cases systemId with
      | none =>
          simp [checkFile, openFile, ownId?, hread, hid, Bind.bind, Except.bind, pure,
            Except.pure, Except.toOption]
      | some kept => simp [checkFile, openFile, hread, Bind.bind, Except.bind, pure, Except.pure]

theorem systemId_checkFile (files : Files) (path : String) (r : DocumentReader) :
    (checkFile files path r).2.systemId = r.systemId.or (ownId? files path) := by
  rw [checkFile_eq]
  split
  · next hread => simp [ownId?, hread]
  · rfl

/-- The reader keeps the identifier of the first file that it could read. -/
theorem systemId_checkFiles (paths : List String) (r : DocumentReader) :
    (checkFiles files paths r).2.systemId =
      r.systemId.or (paths.findSome? (ownId? files)) := by
  induction paths generalizing r with
  | nil => exact (Option.or_none).symm
  | cons path rest ih =>
      have hrest : (checkFiles files (path :: rest) r).2 =
          (checkFiles files rest (checkFile files path r).2).2 := rfl
      rw [hrest, ih, systemId_checkFile, Option.or_assoc, List.findSome?_cons]
      cases ownId? files path <;> rfl

theorem checkFile_own (files : Files) (path : String) (r : DocumentReader) :
    checkFile files path { r with systemId := r.systemId.or (ownId? files path) } =
      checkFile files path r := by
  rw [checkFile_eq, checkFile_eq]
  cases hread : files.readText (.ofText path) with
  | error fault => simp [ownId?, hread]
  | ok text => simp [Option.or_assoc]

/-- A reader that was given no identifier and has been used checks a file as one that was given the
identifier of the first file to be read, and as a new one if that is the file's own. -/
theorem checkFile_reused (files : Files) (c : Configuration) (before : List String)
    (path : String) :
    let reused := (checkFiles files before ⟨c, none⟩).2
    let first := (before ++ [path]).findSome? (ownId? files)
    (checkFile files path reused).1 = (checkFile files path ⟨reused.configuration, first⟩).1 ∧
      (first = ownId? files path →
        (checkFile files path reused).1 =
          (checkFile files path ⟨reused.configuration, none⟩).1) := by
  intro reused first
  have hkept : reused.systemId = before.findSome? (ownId? files) := systemId_checkFiles before _
  have hfirst : first = reused.systemId.or (ownId? files path) := by
    rw [hkept]
    simp [first, List.findSome?_append]
  have hgiven :
      checkFile files path ⟨reused.configuration, first⟩ = checkFile files path reused := by
    rw [hfirst]
    exact checkFile_own files path reused
  refine ⟨by rw [hgiven], ?_⟩
  -- A new reader takes the file's own identifier, which is the first one here.
  intro hown
  rw [← hgiven, hown]
  exact congrArg Prod.fst (checkFile_own files path ⟨reused.configuration, none⟩)

/-- Two directories with a document each that has an external DTD. -/
def twoHomes : Files where
  directory := "/"
  entries := ["a", "b"].map fun home =>
    ([Text.bytes home, Text.bytes "doc.xml"], Text.bytes "<!DOCTYPE a SYSTEM \"x.dtd\"><a/>")

/-- A configuration whose resolver fails with what a request is relative to. -/
def tellingBase : Configuration :=
  (DocumentReader.plain (fun f => f = .loadExternalDtd)
    (some fun _ id => .error (.io ⟨.other, id.base⟩))).configuration

def toldBy : Except Fault CheckReport → Option String
  | .error (.io fault) => fault.text
  | _ => none

/-- The same file again, on another way. -/
theorem checkFile_again :
    toldBy (checkFile twoHomes "./a/../b/doc.xml"
      (checkFiles twoHomes ["c/doc.xml", "b/doc.xml"] ⟨tellingBase, none⟩).2).1 =
        some "file:///b/doc.xml" := by
  rw [(checkFile_reused twoHomes tellingBase ["c/doc.xml", "b/doc.xml"] "./a/../b/doc.xml").2
    (by decide +kernel)]
  decide +kernel

/-- A file in another directory than the first is not checked as by a new reader. -/
theorem not_forall_checkFile_reused :
    ¬ ∀ (files : Files) (c : Configuration) (before : List String) (path : String),
      let reused := (checkFiles files before ⟨c, none⟩).2
      (checkFile files path reused).1 = (checkFile files path ⟨reused.configuration, none⟩).1 := by
  intro hall
  have hsame := hall twoHomes tellingBase ["a/doc.xml"] "b/doc.xml"
  have hreused : toldBy (checkFile twoHomes "b/doc.xml"
      (checkFiles twoHomes ["a/doc.xml"] ⟨tellingBase, none⟩).2).1 =
        some "file:///a/doc.xml" := by decide +kernel
  have hfresh : toldBy (checkFile twoHomes "b/doc.xml"
      ⟨(checkFiles twoHomes ["a/doc.xml"] ⟨tellingBase, none⟩).2.configuration, none⟩).1 =
        some "file:///b/doc.xml" := by decide +kernel
  rw [hsame, hfresh] at hreused
  exact absurd hreused (by decide)

end XmlBounds.DocumentReader
