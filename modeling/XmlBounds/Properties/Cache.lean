import XmlBounds.Properties.Basic

/-!
# The cache of a properties file

The properties file is read again only when its modification time has gone past that of the last
reading. A file that cannot be looked at or read counts as absent, and what was read before is
forgotten.
-/

namespace XmlBounds

/-- What a look at a file tells. -/
inductive FileStatus where
  /-- The file is there, and was last changed at the time. -/
  | modifiedAt (time : Nat)
  | absent
  /-- The look failed. -/
  | unknown
  deriving DecidableEq, Repr

/-- A file at a moment: what a look at it tells, and its text if it can be read. -/
structure WatchedFile where
  status : FileStatus
  text : Option String
  deriving DecidableEq, Repr

/-- The properties of a file as they were last read, and when the file had been changed then. -/
structure PropertiesCache where
  /-- The path of the file; without one, no file is ever consulted. -/
  path : Option String
  properties : Option Properties
  lastModified : Option Nat
  deriving DecidableEq, Repr

namespace PropertiesCache

def ofPath (path : Option String) : PropertiesCache := ⟨path, none, none⟩

/-- The cache after it has forgotten what it read. -/
def clear (c : PropertiesCache) : PropertiesCache :=
  { c with properties := none, lastModified := none }

/-- Whether a file changed at the time has to be read. -/
def isStale (c : PropertiesCache) (time : Nat) : Bool :=
  match c.lastModified with
  | none => true
  | some seen => decide (seen < time)

/-- Whether the next access reads the file. -/
def reads (c : PropertiesCache) (file : WatchedFile) : Bool :=
  match c.path, file.status with
  | some _, .modifiedAt time => c.isStale time
  | _, _ => false

/-- The cache after an access while the file is as given. -/
def refresh (c : PropertiesCache) (file : WatchedFile) : PropertiesCache :=
  match c.path, file.status with
  | none, _ => c
  | some _, .modifiedAt time =>
      if c.isStale time then
        match file.text with
        | some text => { c with properties := some (.parse text), lastModified := some time }
        | none => c.clear
      else c
  | some _, .absent | some _, .unknown => c.clear

def current (c : PropertiesCache) (file : WatchedFile) : Option Properties :=
  (c.refresh file).properties

/-- The value of a property at an access. -/
def find? (c : PropertiesCache) (file : WatchedFile) (name : String) : Option String :=
  (c.current file).bind (·.find? name)

/-- An access to the same file a second time changes nothing. -/
theorem refresh_refresh (c : PropertiesCache) (file : WatchedFile) :
    (c.refresh file).refresh file = c.refresh file := by
  obtain ⟨path, properties, lastModified⟩ := c
  obtain ⟨status, text⟩ := file
  cases path with
  | none => rfl
  | some path =>
      cases status with
      | absent => rfl
      | unknown => rfl
      | modifiedAt time =>
          by_cases h : isStale ⟨some path, properties, lastModified⟩ time = true
          · cases text with
            | none =>
                simp only [refresh, h, if_true, clear]
                simp [isStale]
            | some text =>
                simp only [refresh, h, if_true]
                simp [isStale]
          · simp [refresh, h]

end PropertiesCache

end XmlBounds
