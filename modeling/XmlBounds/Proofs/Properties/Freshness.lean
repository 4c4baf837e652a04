import Mathlib.Data.List.Basic
import XmlBounds.Properties.Cache
import XmlBounds.Text.Utf8

/-!
# The freshness of the properties cache

A file is written and removed, and at times it cannot be looked at or read, while a cache is asked
for its properties now and then. As long as each writing has a later time than those before it, the
cache gives no other properties than those of the file, and reads the file only when it has to.
-/

namespace XmlBounds

/-! ## A file and its cache -/

/-- Something that happens to a file. -/
inductive FileChange where
  | write (time : Nat) (content : List UInt8)
  | remove
  /-- Looking at the file begins to fail, or works again. -/
  | failLooks (isFailing : Bool)
  /-- Reading the file begins to fail, or works again. -/
  | failReads (isFailing : Bool)
  deriving DecidableEq, Repr

/-- The time of a writing. -/
def FileChange.time? : FileChange → Option Nat
  | write time _ => some time
  | remove | failLooks _ | failReads _ => none

/-- How things stand with a file. -/
structure FileCondition where
  /-- When the file was last written, and what; absent if there is no file. -/
  written : Option (Nat × List UInt8)
  failsLooks : Bool
  failsReads : Bool
  deriving DecidableEq, Repr

namespace FileCondition

def missing : FileCondition := ⟨none, false, false⟩

def change (f : FileCondition) : FileChange → FileCondition
  | .write time content => { f with written := some (time, content) }
  | .remove => { f with written := none }
  | .failLooks isFailing => { f with failsLooks := isFailing }
  | .failReads isFailing => { f with failsReads := isFailing }

def changeAll (f : FileCondition) (changes : List FileChange) : FileCondition :=
  changes.foldl change f

/-- What a look at the file tells. -/
def status (f : FileCondition) : FileStatus :=
  if f.failsLooks then .unknown
  else
    match f.written with
    | some (time, _) => .modifiedAt time
    | none => .absent

/-- What is read, if reading works. The file has to be UTF-8 for that. -/
def text? (f : FileCondition) : Option String :=
  if f.failsReads then none
  else f.written.bind fun (_, content) => (Text.decodeUtf8 content).toOption

/-- The properties are those in the file. -/
def Holds (f : FileCondition) (p : Properties) : Prop :=
  ∃ time content text, f.written = some (time, content) ∧ Text.decodeUtf8 content = .ok text ∧
    p = .parse text

theorem status_eq_modifiedAt {f : FileCondition} {time : Nat} :
    f.status = .modifiedAt time ↔
      f.failsLooks = false ∧ ∃ content, f.written = some (time, content) := by
  obtain ⟨written, failsLooks, failsReads⟩ := f
  cases failsLooks <;> cases written <;> simp [status, Prod.ext_iff]

theorem holds_of_text? {f : FileCondition} {text : String} (h : f.text? = some text) :
    f.Holds (.parse text) := by
  unfold text? at h
  split at h
  · cases h
  · obtain ⟨⟨time, content⟩, hwritten, hdecoded⟩ := Option.bind_eq_some_iff.mp h
    refine ⟨time, content, text, hwritten, ?_, rfl⟩
    cases hdecode : Text.decodeUtf8 content with
    | error fault => simp [hdecode, Except.toOption] at hdecoded
    | ok decoded => simpa [hdecode, Except.toOption] using hdecoded

end FileCondition

/-- Something that happens to a file or its cache. The cache is asked for all properties or for one,
and meanwhile, between its look at the file and the reading, the file may change once more. -/
inductive CacheEvent where
  | change (change : FileChange)
  | current (meanwhile : List FileChange)
  | property (name : String) (meanwhile : List FileChange)
  deriving DecidableEq, Repr

namespace CacheEvent

def changes : CacheEvent → List FileChange
  | change c => [c]
  | current meanwhile | property _ meanwhile => meanwhile

/-- The times of all writings, in order. -/
def times (events : List CacheEvent) : List Nat :=
  (events.flatMap changes).filterMap FileChange.time?

end CacheEvent

/-- What came of an access to the cache. -/
inductive CacheAccess where
  /-- The file was read. The look at it had told the time. -/
  | loaded (time : Nat)
  /-- The file was there, but not read. -/
  | kept
  /-- The file was absent, or could not be looked at, or not be read. -/
  | missed
  deriving DecidableEq, Repr

def PropertiesCache.accessed (c : PropertiesCache) (file : WatchedFile) : CacheAccess :=
  match file.status with
  | .absent | .unknown => .missed
  | .modifiedAt time =>
      if c.reads file then
        match file.text with
        | some _ => .loaded time
        | none => .missed
      else .kept

/-- A file, its cache, and what came of the accesses so far, the newest first. -/
structure CacheWatch where
  file : FileCondition
  cache : PropertiesCache
  accesses : List CacheAccess
  deriving DecidableEq, Repr

namespace CacheWatch

/-- What the cache gets to see at an access. -/
def seen (w : CacheWatch) (meanwhile : List FileChange) : WatchedFile :=
  ⟨w.file.status, (w.file.changeAll meanwhile).text?⟩

def access (w : CacheWatch) (meanwhile : List FileChange) : CacheWatch where
  file := w.file.changeAll meanwhile
  cache := w.cache.refresh (w.seen meanwhile)
  accesses := w.cache.accessed (w.seen meanwhile) :: w.accesses

def step (w : CacheWatch) : CacheEvent → CacheWatch
  | .change c => { w with file := w.file.change c }
  | .current meanwhile | .property _ meanwhile => w.access meanwhile

/-- How things stand after the events, if there is no file to begin with. -/
def after (path : String) (events : List CacheEvent) : CacheWatch :=
  events.foldl step ⟨.missing, .ofPath (some path), []⟩

end CacheWatch

/-! ## When the file has to be read -/

/-- After these accesses, a file that was last written at the time has to be read: nothing was
loaded yet, or the time is past that of the last loading, or something was missed since then. -/
inductive Due : List CacheAccess → Nat → Prop where
  | never {accesses : List CacheAccess} {time : Nat} : (∀ t, .loaded t ∉ accesses) →
      Due accesses time
  | advanced {newer older : List CacheAccess} {seen time : Nat} : (∀ t, .loaded t ∉ newer) →
      seen < time → Due (newer ++ .loaded seen :: older) time
  | missed {newer older : List CacheAccess} {seen time : Nat} : (∀ t, .loaded t ∉ newer) →
      .missed ∈ newer → Due (newer ++ .loaded seen :: older) time

/-- The time of the last loading, if nothing was missed since then. -/
def standing : List CacheAccess → Option Nat
  | [] => none
  | .loaded time :: _ => some time
  | .kept :: older => standing older
  | .missed :: _ => none

theorem exists_last_loaded {accesses : List CacheAccess} {t : Nat} (h : .loaded t ∈ accesses) :
    ∃ newer seen older, accesses = newer ++ .loaded seen :: older ∧ ∀ t, .loaded t ∉ newer := by
  induction accesses with
  | nil => cases h
  | cons a accesses ih =>
      by_cases ha : ∃ seen, a = .loaded seen
      · obtain ⟨seen, rfl⟩ := ha
        exact ⟨[], seen, accesses, rfl, by simp⟩
      · have hmem : .loaded t ∈ accesses := by
          rcases List.mem_cons.mp h with rfl | hmem
          · exact absurd ⟨t, rfl⟩ ha
          · exact hmem
        obtain ⟨newer, seen, older, rfl, hnewer⟩ := ih hmem
        refine ⟨a :: newer, seen, older, rfl, ?_⟩
        intro t ht
        rcases List.mem_cons.mp ht with rfl | ht
        · exact ha ⟨t, rfl⟩
        · exact hnewer t ht

theorem standing_append {newer older : List CacheAccess} {seen : Nat}
    (hnewer : ∀ t, .loaded t ∉ newer) :
    standing (newer ++ .loaded seen :: older) = if .missed ∈ newer then none else some seen := by
  induction newer with
  | nil => rfl
  | cons a newer ih =>
      have hrest := ih fun t ht => hnewer t (List.mem_cons_of_mem a ht)
      cases a with
      | loaded t => exact absurd List.mem_cons_self (hnewer t)
      | kept => simpa [standing] using hrest
      | missed => simp [standing]

theorem standing_eq_none {accesses : List CacheAccess} (h : ∀ t, .loaded t ∉ accesses) :
    standing accesses = none := by
  induction accesses with
  | nil => rfl
  | cons a accesses ih =>
      cases a with
      | loaded t => exact absurd List.mem_cons_self (h t)
      | kept => exact ih fun t ht => h t (List.mem_cons_of_mem _ ht)
      | missed => rfl

/-- Only the last loading counts, and only if it still stands. -/
theorem due_iff {accesses : List CacheAccess} {time : Nat} :
    Due accesses time ↔ ∀ seen, standing accesses = some seen → seen < time := by
  constructor
  · intro h
    cases h with
    | never hnone =>
        intro seen hseen
        rw [standing_eq_none hnone] at hseen
        cases hseen
    | advanced hnewer hlt =>
        intro seen hseen
        rw [standing_append hnewer] at hseen
        split at hseen
        · cases hseen
        · cases hseen
          exact hlt
    | missed hnewer hmissed =>
        intro seen hseen
        rw [standing_append hnewer, if_pos hmissed] at hseen
        cases hseen
  · intro h
    by_cases hloaded : ∃ t, .loaded t ∈ accesses
    · obtain ⟨t, ht⟩ := hloaded
      obtain ⟨newer, seen, older, rfl, hnewer⟩ := exists_last_loaded ht
      rw [standing_append hnewer] at h
      by_cases hmissed : .missed ∈ newer
      · exact .missed hnewer hmissed
      · exact .advanced hnewer (h seen (if_neg hmissed))
    · exact .never (not_exists.mp hloaded)

/-! ## What an access does -/

namespace CacheWatch

variable {path : String} {times : List Nat} {w : CacheWatch} {meanwhile : List FileChange}

theorem reads_iff_isStale (hpath : w.cache.path = some path) :
    w.cache.reads (w.seen meanwhile) = true ↔ w.file.failsLooks = false ∧
      ∃ time content, w.file.written = some (time, content) ∧ w.cache.isStale time = true := by
  have hreads : w.cache.reads (w.seen meanwhile) = true ↔
      ∃ time, w.file.status = .modifiedAt time ∧ w.cache.isStale time = true := by
    cases hstatus : w.file.status <;> simp [PropertiesCache.reads, seen, hstatus, hpath]
  simp only [hreads, FileCondition.status_eq_modifiedAt]
  exact ⟨fun ⟨time, ⟨hlooks, content, hwritten⟩, hstale⟩ =>
      ⟨hlooks, time, content, hwritten, hstale⟩,
    fun ⟨hlooks, time, content, hwritten, hstale⟩ =>
      ⟨time, ⟨hlooks, content, hwritten⟩, hstale⟩⟩

/-- The cache forgets what it had, or keeps it, or takes over what it reads. -/
inductive Leaves (w : CacheWatch) (meanwhile : List FileChange) :
    CacheAccess → PropertiesCache → Prop where
  | missed : w.file.written = none ∨ w.file.failsLooks = true ∨
      w.cache.reads (w.seen meanwhile) = true ∧ (w.file.changeAll meanwhile).text? = none →
      Leaves w meanwhile .missed w.cache.clear
  | kept {time : Nat} {content : List UInt8} : w.file.failsLooks = false →
      w.file.written = some (time, content) → w.cache.isStale time = false →
      Leaves w meanwhile .kept w.cache
  | loaded {time : Nat} {content : List UInt8} {text : String} : w.file.failsLooks = false →
      w.file.written = some (time, content) → w.cache.reads (w.seen meanwhile) = true →
      (w.file.changeAll meanwhile).text? = some text →
      Leaves w meanwhile (.loaded time)
        { w.cache with properties := some (.parse text), lastModified := some time }

theorem leaves_access (hpath : w.cache.path = some path) (meanwhile : List FileChange) :
    Leaves w meanwhile (w.cache.accessed (w.seen meanwhile))
      (w.cache.refresh (w.seen meanwhile)) := by
  cases hlooks : w.file.failsLooks with
  | true =>
      have hstatus : (w.seen meanwhile).status = .unknown := if_pos hlooks
      simp only [PropertiesCache.accessed, PropertiesCache.refresh, hpath, hstatus]
      exact .missed (.inr (.inl hlooks))
  | false =>
      cases hwritten : w.file.written with
      | none =>
          have hstatus : (w.seen meanwhile).status = .absent := by
            simp [seen, FileCondition.status, hlooks, hwritten]
          simp only [PropertiesCache.accessed, PropertiesCache.refresh, hpath, hstatus]
          exact .missed (.inl hwritten)
      | some last =>
          obtain ⟨time, content⟩ := last
          have hstatus : (w.seen meanwhile).status = .modifiedAt time :=
            FileCondition.status_eq_modifiedAt.mpr ⟨hlooks, content, hwritten⟩
          have hreads : w.cache.reads (w.seen meanwhile) = w.cache.isStale time := by
            simp only [PropertiesCache.reads, hpath, hstatus]
          simp only [PropertiesCache.accessed, PropertiesCache.refresh, hpath, hstatus, hreads]
          cases hstale : w.cache.isStale time with
          | false => exact .kept hlooks hwritten hstale
          | true =>
              have hread := hreads.trans hstale
              cases htext : (w.seen meanwhile).text with
              | none => exact .missed (.inr (.inr ⟨hread, htext⟩))
              | some text =>
                  simpa only [hpath, if_true] using Leaves.loaded hlooks hwritten hread htext

/-! ## What stays true of the cache -/

/-- What is true of a cache for a path, after writings at the times. -/
structure Sound (path : String) (times : List Nat) (w : CacheWatch) : Prop where
  path : w.cache.path = some path
  /-- The cache has properties and a time, or neither. -/
  whole : w.cache.properties.isSome = w.cache.lastModified.isSome
  written : ∀ time content, w.file.written = some (time, content) → time ∈ times
  known : ∀ seen, w.cache.lastModified = some seen → seen ∈ times
  standing : w.cache.lastModified = standing w.accesses
  /-- A file that is no younger than what was read holds the properties that were read. -/
  holds : ∀ seen p, w.cache.lastModified = some seen → w.cache.properties = some p →
    ∀ time content, w.file.written = some (time, content) → time ≤ seen → w.file.Holds p

theorem sound_start : Sound path [] ⟨.missing, .ofPath (some path), []⟩ where
  path := rfl
  whole := rfl
  written := nofun
  known := nofun
  standing := rfl
  holds := nofun

theorem Sound.change (h : Sound path times w) {c : FileChange}
    (hlater : ∀ time ∈ c.time?, ∀ t ∈ times, t < time) :
    Sound path (times ++ c.time?.toList) { w with file := w.file.change c } := by
  cases c with
  | write time content =>
      have hlater : ∀ t ∈ times, t < time := hlater time rfl
      refine { h with written := ?_, known := ?_, holds := ?_ }
      · rintro _ _ ⟨⟩
        simp [FileChange.time?]
      · intro seen hseen
        exact List.mem_append_left _ (h.known seen hseen)
      · -- what was read before is older than what is written now
        rintro seen p hseen _ _ _ ⟨⟩ hle
        exact absurd (hlater seen (h.known seen hseen)) (Nat.not_lt.mpr hle)
  | remove =>
      rw [FileChange.time?, Option.toList_none, List.append_nil]
      exact { h with written := nofun, holds := nofun }
  | failLooks isFailing =>
      rw [FileChange.time?, Option.toList_none, List.append_nil]
      exact { h with }
  | failReads isFailing =>
      rw [FileChange.time?, Option.toList_none, List.append_nil]
      exact { h with }

theorem Sound.changeAll (h : Sound path times w) {changes : List FileChange}
    (hlater : (times ++ changes.filterMap FileChange.time?).Pairwise (· < ·)) :
    Sound path (times ++ changes.filterMap FileChange.time?)
      { w with file := w.file.changeAll changes } := by
  induction changes generalizing times w with
  | nil =>
      rw [List.filterMap_nil, List.append_nil]
      exact h
  | cons c changes ih =>
      have hsplit : times ++ (c :: changes).filterMap FileChange.time? =
          (times ++ c.time?.toList) ++ changes.filterMap FileChange.time? := by
        cases hc : c.time? <;> simp [hc]
      rw [hsplit] at hlater ⊢
      refine ih (h.change ?_) hlater
      intro time htime t ht
      have hfirst := (List.pairwise_append.mp (List.pairwise_append.mp hlater).1).2.2
      exact hfirst t ht time (Option.mem_toList.mpr htime)

theorem Sound.access (h : Sound path times w) {meanwhile : List FileChange}
    (hlater : (times ++ meanwhile.filterMap FileChange.time?).Pairwise (· < ·)) :
    Sound path (times ++ meanwhile.filterMap FileChange.time?) (w.access meanwhile) := by
  have hfile := h.changeAll hlater
  have hleaves := leaves_access h.path meanwhile
  unfold CacheWatch.access
  generalize w.cache.accessed (w.seen meanwhile) = access,
    w.cache.refresh (w.seen meanwhile) = cache at hleaves ⊢
  cases hleaves with
  | missed => exact { hfile with whole := rfl, known := nofun, standing := rfl, holds := nofun }
  | kept => exact { hfile with }
  | @loaded time content text _ hwritten _ htext =>
      refine { hfile with whole := rfl, known := ?_, standing := rfl, holds := ?_ }
      · rintro _ ⟨⟩
        exact List.mem_append_left _ (h.written time content hwritten)
      · rintro _ _ ⟨⟩ ⟨⟩ _ _ _ _
        exact FileCondition.holds_of_text? htext

theorem Sound.step (h : Sound path times w) {e : CacheEvent}
    (hlater : (times ++ e.changes.filterMap FileChange.time?).Pairwise (· < ·)) :
    Sound path (times ++ e.changes.filterMap FileChange.time?) (w.step e) := by
  cases e with
  | change c =>
      have hchanged : Sound path (times ++ [c].filterMap FileChange.time?)
          { w with file := w.file.changeAll [c] } := h.changeAll hlater
      exact hchanged
  | current meanwhile => exact h.access hlater
  | property name meanwhile => exact h.access hlater

theorem Sound.steps (h : Sound path times w) {events : List CacheEvent}
    (hlater : (times ++ CacheEvent.times events).Pairwise (· < ·)) :
    Sound path (times ++ CacheEvent.times events) (events.foldl CacheWatch.step w) := by
  induction events generalizing times w with
  | nil =>
      rw [CacheEvent.times, List.flatMap_nil, List.filterMap_nil, List.append_nil]
      exact h
  | cons e events ih =>
      have hsplit : times ++ CacheEvent.times (e :: events) =
          (times ++ e.changes.filterMap FileChange.time?) ++ CacheEvent.times events := by
        simp [CacheEvent.times]
      rw [hsplit] at hlater ⊢
      exact ih (h.step (List.pairwise_append.mp hlater).1) hlater

theorem sound_after {events : List CacheEvent}
    (hlater : (CacheEvent.times events).Pairwise (· < ·)) :
    Sound path (CacheEvent.times events) (after path events) :=
  sound_start.steps hlater

/-! ## What an access gives -/

/-- The file as it is when it is read, or if it is not read, when it is looked at. -/
def consulted (w : CacheWatch) (meanwhile : List FileChange) : FileCondition :=
  if w.cache.reads (w.seen meanwhile) then w.file.changeAll meanwhile else w.file

/-- What can be said of an access to the cache, while the file changes so. -/
structure Fresh (w : CacheWatch) (meanwhile : List FileChange) : Prop where
  /-- The properties are those in the file. -/
  current : ∀ p, w.cache.current (w.seen meanwhile) = some p → (w.consulted meanwhile).Holds p
  /-- The value of a property is that in the file. -/
  property : ∀ name value, w.cache.find? (w.seen meanwhile) name = some value →
    ∃ p, (w.consulted meanwhile).Holds p ∧ p.find? name = some value
  /-- There are no properties if and only if there is no file, or it cannot be looked at, or it
  cannot be read and has to be. -/
  absent : w.cache.current (w.seen meanwhile) = none ↔
    w.file.written = none ∨ w.file.failsLooks = true ∨
      w.cache.reads (w.seen meanwhile) = true ∧ (w.file.changeAll meanwhile).text? = none
  /-- The file is read if and only if that is due. -/
  reads : w.cache.reads (w.seen meanwhile) = true ↔ w.file.failsLooks = false ∧
    ∃ time content, w.file.written = some (time, content) ∧ Due w.accesses time
  /-- The cache has properties and a time, or neither. -/
  whole : w.cache.properties.isSome = w.cache.lastModified.isSome

theorem not_reads_of_fresh {time : Nat} {content : List UInt8} (hpath : w.cache.path = some path)
    (hwritten : w.file.written = some (time, content)) (hfresh : w.cache.isStale time = false) :
    ¬ w.cache.reads (w.seen meanwhile) = true := by
  rw [reads_iff_isStale hpath, hwritten]
  rintro ⟨_, _, _, ⟨⟩, hstale⟩
  rw [hfresh] at hstale
  cases hstale

theorem exists_seen_of_fresh {time : Nat} (hfresh : w.cache.isStale time = false) :
    ∃ seen, w.cache.lastModified = some seen ∧ time ≤ seen := by
  cases hseen : w.cache.lastModified with
  | none => simp [PropertiesCache.isStale, hseen] at hfresh
  | some seen => exact ⟨seen, rfl, by simpa [PropertiesCache.isStale, hseen] using hfresh⟩

theorem Sound.holds_of_current (h : Sound path times w) {p : Properties}
    (hp : w.cache.current (w.seen meanwhile) = some p) : (w.consulted meanwhile).Holds p := by
  have hleaves := leaves_access h.path meanwhile
  unfold PropertiesCache.current at hp
  generalize w.cache.accessed (w.seen meanwhile) = access,
    w.cache.refresh (w.seen meanwhile) = cache at hleaves hp
  cases hleaves with
  | missed => cases hp
  | @kept time content _ hwritten hfresh =>
      obtain ⟨seen, hseen, hle⟩ := exists_seen_of_fresh hfresh
      rw [consulted, if_neg (not_reads_of_fresh h.path hwritten hfresh)]
      exact h.holds seen p hseen hp time content hwritten hle
  | loaded _ _ hreads htext =>
      cases hp
      rw [consulted, if_pos hreads]
      exact FileCondition.holds_of_text? htext

theorem Sound.current_eq_none (h : Sound path times w) :
    w.cache.current (w.seen meanwhile) = none ↔
      w.file.written = none ∨ w.file.failsLooks = true ∨
        w.cache.reads (w.seen meanwhile) = true ∧ (w.file.changeAll meanwhile).text? = none := by
  have hleaves := leaves_access h.path meanwhile
  unfold PropertiesCache.current
  generalize w.cache.accessed (w.seen meanwhile) = access,
    w.cache.refresh (w.seen meanwhile) = cache at hleaves ⊢
  cases hleaves with
  | missed hmissed => exact iff_of_true rfl hmissed
  | @kept time content hlooks hwritten hfresh =>
      obtain ⟨seen, hseen, -⟩ := exists_seen_of_fresh hfresh
      have hsome : w.cache.properties.isSome = true := by
        rw [h.whole, hseen]
        rfl
      refine iff_of_false (Option.isSome_iff_ne_none.mp hsome) ?_
      simp [hwritten, hlooks, not_reads_of_fresh h.path hwritten hfresh]
  | loaded hlooks hwritten _ htext => simp [hlooks, hwritten, htext]

theorem Sound.reads_iff (h : Sound path times w) :
    w.cache.reads (w.seen meanwhile) = true ↔ w.file.failsLooks = false ∧
      ∃ time content, w.file.written = some (time, content) ∧ Due w.accesses time := by
  have hstale (time : Nat) : w.cache.isStale time = true ↔ Due w.accesses time := by
    rw [due_iff, ← h.standing, PropertiesCache.isStale]
    cases w.cache.lastModified <;> simp
  simp only [reads_iff_isStale h.path, hstale]

/-- If every writing of the file has a later time than those before it, whatever else happens to the
file and however the cache is asked in between, the next access gives what is in the file, reads it
only if that is due, and finds a cache that is whole. -/
theorem fresh_after {path : String} {events : List CacheEvent}
    (hlater : (CacheEvent.times events).Pairwise (· < ·)) (meanwhile : List FileChange) :
    Fresh (after path events) meanwhile := by
  have hsound : Sound path _ _ := sound_after hlater
  refine ⟨fun p => hsound.holds_of_current, ?_, hsound.current_eq_none, hsound.reads_iff,
    hsound.whole⟩
  intro name value hvalue
  obtain ⟨p, hp, hfound⟩ := Option.bind_eq_some_iff.mp hvalue
  exact ⟨p, hsound.holds_of_current hp, hfound⟩

/-- A file that was read before it was written again, and could not be looked at for a while. It is
read once more, though it changes while that happens. -/
def exampleEvents : List CacheEvent :=
  [.change (.write 1 "k=1".toUTF8.toList), .current [], .change (.failLooks true), .property "k" [],
    .change (.failLooks false), .change (.write 4 "k=2".toUTF8.toList)]

theorem fresh_after_exampleEvents :
    (CacheEvent.times exampleEvents).Pairwise (· < ·) ∧
      Fresh (after "jaxp.properties" exampleEvents) [.write 6 "k=3".toUTF8.toList] ∧
      (after "jaxp.properties" exampleEvents).accesses = [.missed, .loaded 1] :=
  have hlater : (CacheEvent.times exampleEvents).Pairwise (· < ·) := by decide
  ⟨hlater, fresh_after hlater _, by decide +kernel⟩

end CacheWatch

end XmlBounds
