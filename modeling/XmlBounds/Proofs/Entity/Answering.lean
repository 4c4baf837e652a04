import XmlBounds.Proofs.Entity.Fetching

/-!
# Answers in words

A resolver that answers with texts: what is fetched is the text that it has for the identifier,
whatever was fetched and counted before.
-/

namespace XmlBounds

theorem Text.decodeUtf8_bytes (text : String) : decodeUtf8 (bytes text) = .ok text := by
  have hread : String.fromUTF8? text.toByteArray = some text := by
    unfold String.fromUTF8?
    rw [dif_pos text.isValidUTF8]
    rfl
  unfold decodeUtf8 bytes
  rw [Array.toArray_toList, hread]

namespace MonitoredStream

variable {policy : Policy} {reporter : Reporter} {l l' : Ledger} {s : MonitoredStream}
  {got content : List UInt8}

/-- A stream that is read to its end without interruptions has given all its bytes. -/
theorem content_of_readRest (hreporter : reporter.NeverInterrupts)
    (h : readRest policy reporter got s l = .ok content l') : content = got ++ s.inner.content := by
  induction got, s, l using readRest.induct policy reporter with
  | case1 got s l fault hread =>
      rw [readRest_eq, hread] at h
      cases h
  | case2 got s l inner hread =>
      rw [readRest_eq, hread] at h
      have hchunk : s.inner.content.take (max 32 got.length) = [] := by
        unfold ByteStream.read at hread
        split at hread
        · cases hread
        · simp only [Except.ok.injEq, Prod.mk.injEq] at hread
          exact hread.1
      cases h
      rcases List.take_eq_nil_iff.mp hchunk with hzero | hnil
      · omega
      · rw [hnil, List.append_nil]
  | case3 got s l b chunk inner hread s' amount fault mid hcount =>
      rw [readRest_eq, hread] at h
      obtain ⟨_, _, haccepted, _⟩ := ok_of_bind h
      cases hcount.symm.trans haccepted
  | case4 got s l b chunk inner hread s' amount done mid hcount ih =>
      rw [readRest_eq, hread] at h
      have hrest := (bind_of_ok hcount).symm.trans h
      rcases Accounted.ok_of_takenUp hcount with ⟨rfl, _⟩ | ⟨_, fault, hinterruption, hfailed⟩
      · rw [ih hrest, ByteStream.content_of_read hread, dif_pos rfl, List.append_assoc]
        rfl
      · rw [isInterruption_of_countEntity hreporter hfailed] at hinterruption
        cases hinterruption

end MonitoredStream

/-- The bytes that a stream has left. -/
def Stream.content : Stream → List UInt8
  | plain stream => stream.content
  | monitored stream => stream.inner.content

theorem Stream.content_of_readAll {policy : Policy} {reporter : Reporter} {stream : Stream}
    {bytes : List UInt8} {l l' : Ledger} (hreporter : reporter.NeverInterrupts)
    (h : stream.readAll policy reporter l = .ok bytes l') : bytes = stream.content := by
  cases stream with
  | plain s =>
      simp only [Stream.readAll, ByteStream.readAll] at h
      cases hfault : s.failure with
      | some fault =>
          rw [hfault] at h
          cases h
      | none =>
          rw [hfault] at h
          cases h
          rfl
  | monitored s =>
      obtain ⟨content, mid, hread, hnote⟩ := ok_of_bind h
      obtain ⟨_, noted, _, hpure⟩ := ok_of_bind hnote
      cases hpure
      exact MonitoredStream.content_of_readRest hreporter hread

/-- The resolver that answers each request with the text that it has for the identifier. -/
def EntityResolver.answering (texts : ResourceId → String) : EntityResolver := fun _ id =>
  .ok (some (.ofText "" (texts id)))

theorem stream_of_answering {files : Files} {id : ResourceId} {texts : ResourceId → String}
    {answer : Option (InputSource Stream)} {l l' : Ledger}
    (h : resolveMonitored (some (.answering texts)) files id l = .ok answer l') :
    ∃ source stream, answer = some source ∧ source.charStream = some stream ∧
      stream.content = Text.bytes (texts id) := by
  obtain ⟨_, noted, _, hask⟩ := ok_of_bind h
  obtain ⟨ledger, asked, _, haccept⟩ := ok_of_bind hask
  obtain ⟨opened, mid, hopen, hpure⟩ := ok_of_bind haccept
  cases hopen
  cases hpure
  cases hname : id.entityName with
  | none => exact ⟨_, _, rfl, rfl, rfl⟩
  | some name => exact ⟨_, _, rfl, rfl, rfl⟩

/-- A fetch that succeeds gives the text that the resolver has for the identifier. -/
theorem text_of_fetch {ctx : CheckContext} {texts : ResourceId → String}
    (hresolver : ctx.resolver = some (.answering texts))
    (hreporter : ctx.reporter.NeverInterrupts) {kind : ResourceKind} {id : ResourceId}
    {text : String} {base : Option String} {l l' : Ledger}
    (h : fetch ctx kind id l = .ok (text, base) l') : text = texts id := by
  obtain ⟨_, passed, _, h⟩ := ok_of_bind h
  obtain ⟨source, resolved, hresolve, h⟩ := ok_of_bind h
  obtain ⟨read, mid, hread, hpure⟩ := ok_of_bind h
  cases hpure
  obtain ⟨answer, asked, hanswer, hsource⟩ := ok_of_bind hresolve
  rw [hresolver] at hanswer
  obtain ⟨found, stream, rfl, hstream, hcontent⟩ := stream_of_answering hanswer
  cases hsource
  unfold InputSource.readText at hread
  rw [hstream] at hread
  obtain ⟨bytes, delivered, hbytes, hdecode⟩ := ok_of_bind hread
  rw [Stream.content_of_readAll hreporter hbytes, hcontent, Text.decodeUtf8_bytes] at hdecode
  cases hdecode
  rfl

end XmlBounds
