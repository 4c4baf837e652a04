import XmlBounds.Proofs.Entity.Sizes

/-!
# What streams deliver

A monitored stream that is read to its end has counted all that it gives, read by read. So what it
has given is within the limit for the entity.
-/

namespace XmlBounds

namespace Entry

def All (P : Entry → Prop) (new : List Entry) : Prop := ∀ e ∈ new, P e

variable {P : Entry → Prop} {older newer : List Entry}

theorem all_nil : All P [] := by simp [All]

theorem all_singleton {e : Entry} (h : P e) : All P [e] := by
  intro d hd
  rw [List.mem_singleton.mp hd]
  exact h

theorem all_append (h : All P older) (h' : All P newer) : All P (newer ++ older) := by
  intro e he
  rcases List.mem_append.mp he with he | he
  · exact h' e he
  · exact h e he

instance : Additive (All P) (All P) where
  nil := all_nil
  append h h' := all_append h h'
  stop := all_nil
  appendFailure h h' := all_append h h'

def Counts (name : String) (e : Entry) : Prop := ∃ amount, e = .counted name amount

end Entry

namespace MonitoredStream

variable {policy : Policy} {reporter : Reporter} {l l' : Ledger} {s : MonitoredStream}
  {got content : List UInt8}

/-- A read that gives anything is counted before the next one. -/
theorem readRest_eq (policy : Policy) (reporter : Reporter) (got : List UInt8)
    (s : MonitoredStream) :
    readRest policy reporter got s =
      match s.inner.read (max 32 got.length) with
      | .error fault => throw (.io fault)
      | .ok ([], _) => pure got
      | .ok (b :: chunk, inner) =>
          (countEntity policy reporter s.entityName (s.unit.measure (b :: chunk))
              (s.take (b :: chunk) inner).size).takenUp >>= fun done =>
            readRest policy reporter (if done then got ++ b :: chunk else got)
              (s.take (b :: chunk) inner) := by
  funext l
  rw [readRest]
  split
  · next hread => rw [hread]; rfl
  · next hread => rw [hread]; rfl
  · next b chunk inner hread =>
      rw [hread]
      simp only [Bind.bind, EStateM.bind]
      cases (countEntity policy reporter s.entityName (s.unit.measure (b :: chunk))
        (s.take (b :: chunk) inner).size).takenUp l with
      | ok done l' => rfl
      | error fault l' => rfl

theorem length_lt_of_read {n : Nat} {b : UInt8} {chunk : List UInt8} {inner : ByteStream}
    (h : s.inner.read n = .ok (b :: chunk, inner)) :
    (s.take (b :: chunk) inner).inner.content.length < s.inner.content.length := by
  rw [ByteStream.content_of_read h]
  simp only [take, List.length_append, List.length_cons]
  omega

theorem holds_readRest {C : Contract Ledger} [C.Composes] {name : String}
    (hcount : ∀ amount size, C.Holds (countEntity policy reporter name amount size).takenUp)
    (got : List UInt8) (s : MonitoredStream) (hname : s.entityName = name) :
    C.Holds (readRest policy reporter got s) := by
  rw [readRest_eq]
  split
  · exact Contract.holds_throw _
  · exact Contract.holds_pure _
  · next b chunk inner hread =>
      have hshorter := length_lt_of_read hread
      rw [hname]
      exact (hcount _ _).bind fun _ => holds_readRest hcount _ _ hname
termination_by s.inner.content.length

/-- What was kept is no larger than the stream was found to be, so it is within the limit. -/
theorem measure_le_of_readRest (h : readRest policy reporter got s l = .ok content l')
    (hsize : s.unit.measure got ≤ s.size)
    (hlimit : s.unit.measure got ≤ policy.sizeLimit s.entityName) :
    s.unit.measure content ≤ policy.sizeLimit s.entityName := by
  -- What has been kept is never more than the size, and each count that was accepted has held the
  -- size against the limit. What is counted in vain only makes the size larger.
  induction got, s, l using readRest.induct policy reporter with
  | case1 got s l fault hread =>
      rw [readRest_eq, hread] at h
      cases h
  | case2 got s l inner hread =>
      rw [readRest_eq, hread] at h
      cases h
      exact hlimit
  | case3 got s l b chunk inner hread s' amount fault mid hcount =>
      rw [readRest_eq, hread] at h
      obtain ⟨_, _, haccepted, _⟩ := ok_of_bind h
      cases hcount.symm.trans haccepted
  | case4 got s l b chunk inner hread s' amount done mid hcount ih =>
      rw [readRest_eq, hread] at h
      have hrest := (bind_of_ok hcount).symm.trans h
      have hmeasure : s.unit.measure (got ++ b :: chunk) ≤ s'.size := by
        rw [StreamUnit.measure_append]
        exact Nat.add_le_add_right hsize _
      rcases Accounted.ok_of_takenUp hcount with ⟨rfl, haccepted⟩ | ⟨rfl, _⟩
      · exact ih hrest hmeasure (Nat.le_trans hmeasure (of_countEntity haccepted).2.1)
      · exact ih hrest (Nat.le_trans hsize (Nat.le_add_right _ _)) hlimit

end MonitoredStream

/-- The entity for which a stream is counted. -/
def Stream.label : Stream → Option String
  | plain _ => none
  | monitored stream => some stream.entityName

/-- The entity for which the stream of a source that is to be read is counted. -/
def InputSource.label (source : InputSource Stream) : Option String :=
  (source.charStream.or source.byteStream).bind Stream.label

/-- The entry is about reading text of the entity, and the text is within the limit. -/
def Entry.Reads (policy : Policy) (label : Option String) (e : Entry) : Prop :=
  ∃ name, label = some name ∧
    (e.Counts name ∨ ∃ units, e = .delivered name units ∧ units ≤ policy.sizeLimit name)

/-- The text of the entity was read to its end, and nothing was done after that. -/
def Delivered (policy : Policy) (label : Option String) (new : List Entry) : Prop :=
  Entry.All (Entry.Reads policy label) new ∧
    ∀ name, label = some name → ∃ units rest, new = .delivered name units :: rest

section Reading

variable {policy : Policy} {reporter : Reporter}

theorem all_reads_of_counts {name : String} {new : List Entry}
    (h : Entry.All (Entry.Counts name) new) : Entry.All (Entry.Reads policy (some name)) new :=
  fun e he => ⟨name, rfl, .inl (h e he)⟩

theorem delivered_cons {name : String} {units : Nat} {new : List Entry}
    (hunits : units ≤ policy.sizeLimit name) (h : Entry.All (Entry.Counts name) new) :
    Delivered policy (some name) (.delivered name units :: new) := by
  constructor
  · intro e he
    rcases List.mem_cons.mp he with rfl | he
    · exact ⟨name, rfl, .inr ⟨units, rfl, hunits⟩⟩
    · exact all_reads_of_counts h e he
  · intro name' hname
    cases hname
    exact ⟨units, new, rfl⟩

theorem delivered_none : Delivered policy none [] :=
  ⟨Entry.all_nil, fun _ h => by cases h⟩

theorem holds_countEntity (name : String) (amount size : Nat) :
    (Contract.writes (Entry.All (Entry.Counts name)) (Entry.All (Entry.Counts name))).Holds
      (countEntity policy reporter name amount size) := by
  have hone : Entry.All (Entry.Counts name) [.counted name amount] := by
    intro e he
    exact ⟨amount, List.mem_singleton.mp he⟩
  exact ⟨fun h => ⟨_, (of_countEntity h).1, hone⟩, fun h => ⟨_, grows_of_countEntity h, hone⟩⟩

theorem holds_readAll_monitored (s : MonitoredStream) :
    (Contract.writes (Delivered policy (some s.entityName))
      (Entry.All (Entry.Reads policy (some s.entityName)))).Holds
        (s.readAll policy reporter) := by
  have hrest : (Contract.writes (Entry.All (Entry.Counts s.entityName))
      (Entry.All (Entry.Counts s.entityName))).Holds
        (MonitoredStream.readRest policy reporter [] s) :=
    MonitoredStream.holds_readRest
      (fun amount size => (holds_countEntity s.entityName amount size).takenUp fun h => h) [] s rfl
  have hlast : ∀ {l content l'}, MonitoredStream.readRest policy reporter [] s l = .ok content l' →
      (Contract.writes
        (fun new => ∃ units ≤ policy.sizeLimit s.entityName, new = [.delivered s.entityName units])
        (fun _ => False)).Holds (do
          Accounted.note (.delivered s.entityName (s.unit.measure content))
          return content) := by
    intro l content l' hread
    have hwithin : s.unit.measure content ≤ policy.sizeLimit s.entityName :=
      MonitoredStream.measure_le_of_readRest hread (by simp) (by simp)
    constructor
    · intro mid bytes mid' h
      cases h
      exact ⟨_, ⟨rfl, (Counter.add_zero _).symm⟩, _, hwithin, rfl⟩
    · intro mid fault mid' h
      cases h
  refine hrest.next hlast ?_ all_reads_of_counts fun _ h => h.elim
  rintro older _ hold ⟨units, hunits, rfl⟩
  exact delivered_cons hunits hold

theorem holds_readAll (stream : Stream) :
    (Contract.writes (Delivered policy stream.label)
      (Entry.All (Entry.Reads policy stream.label))).Holds (stream.readAll policy reporter) := by
  cases stream with
  | monitored s => exact holds_readAll_monitored s
  | plain s =>
      simp only [Stream.readAll]
      split
      · exact Contract.writes_pure _ delivered_none
      · exact Contract.writes_throw _ Entry.all_nil

/-- What is done with bytes that were read, once no more is read. -/
def Decodes {α : Type} (decode : List UInt8 → Accounted α) : Prop :=
  ∀ bytes, (∃ a, decode bytes = pure a) ∨ ∃ fault, decode bytes = throw fault

/-- A source without streams is empty; of another, one stream is read and decoded. -/
theorem readText_cases (source : InputSource Stream) :
    (source.label = none ∧ source.readText policy reporter = pure "") ∨
      ∃ (stream : Stream) (decode : List UInt8 → Accounted String), Decodes decode ∧
        source.label = stream.label ∧
          source.readText policy reporter = stream.readAll policy reporter >>= decode := by
  obtain ⟨publicId, systemId, base, byteStream, charStream⟩ := source
  cases charStream with
  | some stream =>
      refine .inr ⟨stream, _, fun bytes => ?_, rfl, rfl⟩
      split
      · exact .inl ⟨_, rfl⟩
      · exact .inr ⟨_, rfl⟩
  | none =>
      cases byteStream with
      | some stream =>
          refine .inr ⟨stream, _, fun bytes => ?_, rfl, rfl⟩
          split
          · exact .inl ⟨_, rfl⟩
          · exact .inr ⟨_, rfl⟩
      | none => exact .inl ⟨rfl, rfl⟩

theorem holds_decoded {α : Type} (stream : Stream) {decode : List UInt8 → Accounted α}
    (h : Decodes decode) :
    (Contract.writes (Delivered policy stream.label)
      (Entry.All (Entry.Reads policy stream.label))).Holds
        (stream.readAll policy reporter >>= decode) := by
  have hdecode : ∀ bytes, (Contract.writes (· = []) (· = [])).Holds (decode bytes) := by
    intro bytes
    rcases h bytes with ⟨a, ha⟩ | ⟨fault, hfault⟩
    · rw [ha]
      exact Contract.writes_pure _ rfl
    · rw [hfault]
      exact Contract.writes_throw _ rfl
  refine (holds_readAll stream).next (fun _ => hdecode _) ?_ id ?_
  · rintro older _ hold rfl
    exact hold
  · rintro older _ hold rfl
    exact hold.1

/-- What is read of a source is counted and delivered for the entity of its stream. -/
theorem holds_readText (source : InputSource Stream) :
    (Contract.writes (Delivered policy source.label)
      (Entry.All (Entry.Reads policy source.label))).Holds (source.readText policy reporter) := by
  rcases readText_cases source with ⟨hlabel, htext⟩ | ⟨stream, decode, hdecode, hlabel, htext⟩
  · rw [hlabel, htext]
    exact Contract.writes_pure _ delivered_none
  · rw [hlabel, htext]
    exact holds_decoded stream hdecode

theorem bounds_readAll (hreporter : reporter.NeverInterrupts) (stream : Stream) :
    (Contract.bounds (policy.limit .totalEntitySize).toNat).Holds
      (stream.readAll policy reporter) := by
  cases stream with
  | plain s =>
      simp only [Stream.readAll]
      split
      · exact Contract.holds_pure _
      · exact Contract.holds_throw _
  | monitored s =>
      have hcount : ∀ amount size, (Contract.bounds (policy.limit .totalEntitySize).toNat).Holds
          (countEntity policy reporter s.entityName amount size).takenUp := by
        intro amount size
        rw [takenUp_countEntity hreporter]
        exact bounds_countEntity.thenPure _
      refine (MonitoredStream.holds_readRest hcount [] s rfl).bind fun content => ?_
      exact (Contract.bounds_note _).bind fun _ => Contract.holds_pure _

theorem bounds_readText (hreporter : reporter.NeverInterrupts) (source : InputSource Stream) :
    (Contract.bounds (policy.limit .totalEntitySize).toNat).Holds
      (source.readText policy reporter) := by
  rcases readText_cases source with ⟨_, htext⟩ | ⟨stream, decode, hdecode, _, htext⟩
  · rw [htext]
    exact Contract.holds_pure _
  · rw [htext]
    refine (bounds_readAll hreporter stream).bind fun bytes => ?_
    rcases hdecode bytes with ⟨a, ha⟩ | ⟨fault, hfault⟩
    · rw [ha]
      exact Contract.holds_pure _
    · rw [hfault]
      exact Contract.holds_throw _

end Reading

end XmlBounds
