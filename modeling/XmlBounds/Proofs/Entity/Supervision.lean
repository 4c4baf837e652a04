import XmlBounds.Proofs.Entity.Fetching
import XmlBounds.Proofs.Entity.Readings

/-!
# Counting what a resolver hands out

A source is handed out with one stream counted: of its two streams the one of characters, else the
one of bytes. The bytes that are offered beside characters are left as the resolver gave them, and
whoever reads those reads without being counted.
-/

namespace XmlBounds

/-- What a read comes to that is counted for an entity, `taken` being all that was read of the
stream, the chunk included. -/
structure CountsChunk (policy : Policy) (name : String) (unit : StreamUnit)
    (taken chunk : List UInt8) (l : Ledger) (out : Option Fault × Ledger) : Prop where
  total : out.2.total = l.total.add (unit.measure chunk)
  fails : chunk ≠ [] → (out.1.isSome = true ↔
    (policy.limit .totalEntitySize).toNat < out.2.total.toNat ∨
      policy.sizeLimit name < unit.measure taken)

namespace Stream

/-- Whatever was read of the stream before, and whatever else was counted since, the next read is
counted for the entity. -/
def IsCounted (name : String) (unit : StreamUnit) (stream : Stream) : Prop :=
  ∀ (earlier policy : Policy) (reporter : Reporter) (pulls : List Pull) (c : Pull)
      (before l : Ledger),
    let later := (readEach earlier reporter pulls stream before).stream
    CountsChunk policy name unit (stream.content.take (Pull.span (pulls ++ [c])))
      (later.content.take c.reach) l
      (Sharing.ending (later.read policy reporter c.reach l).2)

end Stream

namespace MonitoredStream

variable {policy : Policy} {reporter : Reporter} {s : MonitoredStream} {n : Nat} {l : Ledger}

theorem countsChunk_read {taken : List UInt8}
    (htaken : s.unit.measure taken = s.size + s.unit.measure (s.inner.content.take n)) :
    CountsChunk policy s.entityName s.unit taken (s.inner.content.take n) l
      (Sharing.ending (s.read policy reporter n l).2) := by
  have htotal := total_read policy reporter s n l
  constructor
  · exact htotal
  · intro hchunk
    rw [htotal, htaken, read_of_nonempty hchunk, Sharing.ending_countEntity]
    simp only [Option.isSome_map]
    exact Policy.sizeViolation_isSome

theorem isCounted_ofStream (inner : ByteStream) (unit : StreamUnit) (name : String) :
    (Stream.monitored (.ofStream inner unit name)).IsCounted name unit := by
  intro earlier policy reporter pulls c before l
  have htaken : unit.measure (inner.content.take (Pull.span (pulls ++ [c]))) =
      ((ofStream inner unit name).past (Pull.span pulls)).size + unit.measure
        (((ofStream inner unit name).past (Pull.span pulls)).inner.content.take c.reach) := by
    rw [Pull.span_append, List.take_add, StreamUnit.measure_append]
    simp [past, take, ofStream, Pull.span]
  dsimp only
  rw [Stream.stream_readEach]
  exact countsChunk_read (s := (ofStream inner unit name).past (Pull.span pulls)) htaken

end MonitoredStream

namespace Stream

section Plain

variable (policy : Policy) (reporter : Reporter) (s : ByteStream) (l : Ledger)

theorem ledger_read_plain (n : Nat) :
    (Sharing.ending ((plain s).read policy reporter n l).2).2 = l := by
  simp only [read]
  split <;> rfl

theorem exists_plain_read (n : Nat) :
    ∃ s', ((plain s).read policy reporter n l).1 = plain s' := by
  simp only [read]
  split
  · exact ⟨_, rfl⟩
  · exact ⟨_, rfl⟩

theorem exists_plain_readEach (pulls : List Pull) :
    ∃ s', (readEach policy reporter pulls (plain s) l).stream = plain s' := by
  induction pulls generalizing s l with
  | nil => exact ⟨s, rfl⟩
  | cons c rest ih =>
      obtain ⟨s', hs'⟩ := exists_plain_read policy reporter s l c.reach
      simp only [readEach, hs']
      exact ih s' _

end Plain

/-- A stream that nobody counts is as good as counted only if there is nothing in it. -/
theorem isCounted_plain_iff {name : String} {s : ByteStream} :
    (plain s).IsCounted name .bytes ↔ s.content = [] := by
  constructor
  · intro h
    by_contra hcontent
    have htotal := (h .initial .initial .logging [] (.ofReach 1) .empty .empty).total
    rw [readEach, ledger_read_plain] at htotal
    obtain ⟨b, rest, hcons⟩ := List.exists_cons_of_ne_nil hcontent
    have hone : Ledger.empty.total = Ledger.empty.total.add 1 := by
      simpa [content, hcons, StreamUnit.measure, Pull.ofReach, Pull.reach] using htotal
    exact absurd hone (by decide)
  · intro hcontent earlier policy reporter pulls c before l
    have hnothing : (readEach earlier reporter pulls (plain s) before).stream.content = [] := by
      rw [content_readEach, show (plain s).content = [] from hcontent, List.drop_nil]
    obtain ⟨s', hs'⟩ := exists_plain_readEach earlier reporter s before pulls
    dsimp only
    rw [hnothing, hs', List.take_nil]
    constructor
    · rw [ledger_read_plain, StreamUnit.measure_nil, Counter.add_zero]
    · intro hchunk
      exact absurd rfl hchunk

end Stream

namespace InputSource

variable {name : String}

theorem charStream_monitored (s : InputSource ByteStream) :
    (s.monitored name).charStream =
      s.charStream.map fun stream => .monitored (.ofStream stream .chars name) := by
  obtain ⟨publicId, systemId, base, byteStream, charStream⟩ := s
  cases charStream <;> cases byteStream <;> rfl

theorem byteStream_monitored (s : InputSource ByteStream) :
    (s.monitored name).byteStream = s.byteStream.map fun stream =>
      if s.charStream = none then .monitored (.ofStream stream .bytes name) else .plain stream := by
  obtain ⟨publicId, systemId, base, byteStream, charStream⟩ := s
  cases charStream <;> cases byteStream <;> rfl

/-- The streams of a source have the contents that a resolver answered with. An answer without
streams has its file opened. -/
structure Offers (answer : InputSource ByteStream) (source : InputSource Stream) : Prop where
  chars : source.charStream.map Stream.content = answer.charStream.map ByteStream.content
  bytes : answer.charStream.isSome ∨ answer.byteStream.isSome →
    source.byteStream.map Stream.content = answer.byteStream.map ByteStream.content
  some : source.charStream.isSome ∨ source.byteStream.isSome

theorem content_charStream_monitored (s : InputSource ByteStream) :
    (s.monitored name).charStream.map Stream.content = s.charStream.map ByteStream.content := by
  rw [charStream_monitored, Option.map_map]
  rfl

theorem content_byteStream_monitored (s : InputSource ByteStream) :
    (s.monitored name).byteStream.map Stream.content = s.byteStream.map ByteStream.content := by
  rw [byteStream_monitored, Option.map_map]
  split <;> rfl

theorem isSome_monitored {s : InputSource ByteStream}
    (h : s.charStream.isSome ∨ s.byteStream.isSome) :
    (s.monitored name).charStream.isSome ∨ (s.monitored name).byteStream.isSome := by
  rwa [charStream_monitored, byteStream_monitored, Option.isSome_map, Option.isSome_map]

end InputSource

section Resolving

variable {resolver : Option EntityResolver} {files : Files} {id : ResourceId}
  {source : InputSource Stream} {name : String} {l l' : Ledger}

open InputSource

/-- Of a source that is handed out for a named entity, the stream of characters is counted, and the
stream of bytes is if there is no other or nothing in it. -/
theorem counted_of_resolveMonitored (hname : id.entityName = some name)
    (h : resolveMonitored resolver files id l = .ok (some source) l') :
    ∃ resolve answer, resolver = some resolve ∧
      resolve (.asked id :: l.journal) id = .ok (some answer) ∧ answer.Offers source ∧
        (∀ stream, source.charStream = some stream → stream.IsCounted name .chars) ∧
          ∀ stream, source.byteStream = some stream →
            (stream.IsCounted name .bytes ↔ answer.charStream = none ∨ stream.content = []) := by
  obtain ⟨resolve, answer, opened, _, rfl, hanswer, hopen, rfl⟩ := source_of_resolveMonitored h
  have hchars : opened.charStream = answer.charStream := by
    rcases cases_of_openSource hopen with ⟨rfl, _⟩ | ⟨_, _, file, rfl⟩
    · rfl
    · rfl
  rw [hname]
  refine ⟨resolve, answer, rfl, hanswer, ⟨?_, ?_, ?_⟩, ?_, ?_⟩
  · rw [← hchars]
    exact content_charStream_monitored opened
  · intro hsome
    rcases cases_of_openSource hopen with ⟨rfl, _⟩ | ⟨hnochars, hnobytes, _⟩
    · exact content_byteStream_monitored opened
    · simp [hnochars, hnobytes] at hsome
  · exact isSome_monitored (isSome_of_openSource hopen)
  · intro stream hstream
    obtain ⟨inner, _, rfl⟩ := Option.map_eq_some_iff.mp
      ((charStream_monitored opened).symm.trans hstream)
    exact MonitoredStream.isCounted_ofStream inner .chars name
  · intro stream hstream
    obtain ⟨inner, _, rfl⟩ := Option.map_eq_some_iff.mp
      ((byteStream_monitored opened).symm.trans hstream)
    rw [← hchars]
    split
    · next hnone =>
        exact iff_of_true (MonitoredStream.isCounted_ofStream inner .bytes name) (.inl hnone)
    · next hsome => exact Stream.isCounted_plain_iff.trans (by simp [hsome, Stream.content])

end Resolving

namespace Beside

def answer : InputSource ByteStream :=
  ⟨none, none, none, some (.ofBytes [98, 121, 116, 101, 115]), some (.ofBytes [99])⟩

def resolver : EntityResolver := fun _ _ => .ok (some answer)

def entity : ResourceId := ⟨none, some "both", none, some "e"⟩

theorem resolve_entity : resolveMonitored (some resolver) ⟨"/", [], []⟩ entity .empty =
    .ok (some (answer.monitored "e")) ⟨0, [], [.asked entity]⟩ := rfl

/-- The characters are counted, and the bytes beside them are not. -/
theorem counted_characters :
    entity.entityName = some "e" ∧
      resolveMonitored (some resolver) ⟨"/", [], []⟩ entity .empty =
        .ok (some (answer.monitored "e")) ⟨0, [], [.asked entity]⟩ ∧
      (Stream.monitored (.ofStream (.ofBytes [99]) .chars "e")).IsCounted "e" .chars ∧
      ¬ (Stream.plain (.ofBytes [98, 121, 116, 101, 115])).IsCounted "e" .bytes := by
  obtain ⟨resolve, found, hresolve, hfound, _, hchars, hbytes⟩ :=
    counted_of_resolveMonitored rfl resolve_entity
  cases hresolve
  cases hfound
  refine ⟨rfl, rfl, hchars _ rfl, fun hcounted => ?_⟩
  rcases (hbytes _ rfl).mp hcounted with hnone | hnil
  · cases hnone
  · cases hnil

theorem not_forall_isCounted :
    ¬ ∀ (resolver : EntityResolver) (files : Files) (id : ResourceId) (name : String)
        (source : InputSource Stream) (l l' : Ledger), id.entityName = some name →
      resolveMonitored (some resolver) files id l = .ok (some source) l' →
        (∀ stream, source.charStream = some stream → stream.IsCounted name .chars) ∧
          ∀ stream, source.byteStream = some stream → stream.IsCounted name .bytes := by
  intro h
  have hcounted := (h resolver ⟨"/", [], []⟩ entity "e" _ .empty _ rfl resolve_entity).2 _ rfl
  exact absurd (Stream.isCounted_plain_iff.mp hcounted) (by decide)

end Beside

end XmlBounds
