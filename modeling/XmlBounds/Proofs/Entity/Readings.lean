import XmlBounds.Proofs.Entity.Answering
import XmlBounds.Proofs.Entity.Sharing
import XmlBounds.Proofs.Text.Encoding

/-!
# Reading in chunks of any size

A stream is read by pulls, each with a buffer of its own, and the inner stream may give fewer bytes
than the buffer holds. A pull that fails ends nothing: what it took stays taken and counted. However
the content is cut by the pulls, the same units are counted in the end; and as long as the counter
has room for them, some pull fails or none does.
-/

namespace XmlBounds

/-- A request for more of a stream. -/
structure Pull where
  /-- How many bytes the buffer holds. -/
  room : Nat
  /-- How many bytes the inner stream gives at most, however large the buffer is. -/
  ready : Nat

namespace Pull

def reach (c : Pull) : Nat := min c.room c.ready

/-- How many bytes a row of pulls takes from a stream that has so many. -/
def span : List Pull → Nat
  | [] => 0
  | c :: rest => c.reach + span rest

def ofReach (n : Nat) : Pull := ⟨n, n⟩

theorem span_append (pulls rest : List Pull) : span (pulls ++ rest) = span pulls + span rest := by
  induction pulls with
  | nil => simp [span]
  | cons c pulls ih =>
      rw [List.cons_append, span, span, ih]
      omega

end Pull

def outcome {α : Type} : EStateM.Result Fault Ledger α → Except Fault α
  | .ok a _ => .ok a
  | .error fault _ => .error fault

/-- What a row of pulls comes to. -/
structure Reading where
  outcomes : List (Except Fault (List UInt8))
  stream : Stream
  ledger : Ledger

namespace Reading

def Fails (r : Reading) : Prop := ∃ fault, .error fault ∈ r.outcomes

/-- What was given before the first pull that failed. -/
def givenBefore : List (Except Fault (List UInt8)) → List UInt8
  | .ok chunk :: rest => chunk ++ givenBefore rest
  | _ => []

def delivered (r : Reading) : List UInt8 := givenBefore r.outcomes

theorem fails_cons (first : Except Fault (List UInt8)) (later : Reading) :
    Fails { later with outcomes := first :: later.outcomes } ↔
      (∃ fault, first = .error fault) ∨ later.Fails := by
  simp [Fails, exists_or, eq_comm]

end Reading

namespace Stream

/-- One pull for up to `n` bytes. A stream that nobody counts leaves the ledger alone. -/
def read (policy : Policy) (reporter : Reporter) (n : Nat) :
    Stream → Ledger → Stream × EStateM.Result Fault Ledger (List UInt8)
  | .plain s, l =>
      match s.read n with
      | .error fault => (.plain s, .error (.io fault) l)
      | .ok (chunk, rest) => (.plain rest, .ok chunk l)
  | .monitored s, l =>
      let (rest, result) := s.read policy reporter n l
      (.monitored rest, result)

/-- The pulls are made in order, whatever comes of them. -/
def readEach (policy : Policy) (reporter : Reporter) : List Pull → Stream → Ledger → Reading
  | [], stream, l => ⟨[], stream, l⟩
  | c :: rest, stream, l =>
      let (after, result) := stream.read policy reporter c.reach l
      let later := readEach policy reporter rest after (Sharing.ending result).2
      { later with outcomes := outcome result :: later.outcomes }

end Stream

namespace ByteStream

theorem drop_of_take_eq_nil {n : Nat} {content : List UInt8} (h : content.take n = []) :
    content.drop n = content := by
  have hall := List.take_append_drop n content
  rwa [h, List.nil_append] at hall

end ByteStream

namespace MonitoredStream

variable {policy : Policy} {reporter : Reporter} {n : Nat} {s : MonitoredStream} {l : Ledger}

/-- Neither the total nor the size is beyond its limit once the bytes are read. -/
structure StaysWithin (policy : Policy) (s : MonitoredStream) (l : Ledger) (bytes : List UInt8) :
    Prop where
  total : (l.total.add (s.unit.measure bytes)).toNat ≤ (policy.limit .totalEntitySize).toNat
  size : s.size + s.unit.measure bytes ≤ policy.sizeLimit s.entityName

theorem sizeViolation_eq_none_iff {bytes : List UInt8} :
    policy.sizeViolation s.entityName (s.size + s.unit.measure bytes)
      (l.total.add (s.unit.measure bytes)).toNat = none ↔ s.StaysWithin policy l bytes := by
  rw [← Option.not_isSome_iff_eq_none, Policy.sizeViolation_isSome, not_or, Nat.not_lt, Nat.not_lt]
  exact ⟨fun h => ⟨h.1, h.2⟩, fun h => ⟨h.total, h.size⟩⟩

/-- A counter that has room for all has counted no more before. -/
theorem StaysWithin.of_append {p q : List UInt8}
    (hroom : l.total.toNat + s.unit.measure (p ++ q) < UInt64.size)
    (h : s.StaysWithin policy l (p ++ q)) : s.StaysWithin policy l p := by
  have htotal := h.total
  have hsize := h.size
  rw [Counter.toNat_add_of_lt hroom] at htotal
  rw [StreamUnit.measure_append] at htotal hsize hroom
  constructor
  · rw [Counter.toNat_add_of_lt (by omega)]
    omega
  · omega

/-- The stream once so many bytes were taken from it. -/
def past (s : MonitoredStream) (n : Nat) : MonitoredStream :=
  s.take (s.inner.content.take n) { s.inner with content := s.inner.content.drop n }

theorem past_past (m n : Nat) : (s.past m).past n = s.past (m + n) := by
  simp only [past, take, List.take_add, List.drop_drop, StreamUnit.measure_append, Nat.add_assoc]

/-- What is read later is held against what was counted before. -/
theorem staysWithin_past {q : List UInt8} {after : Ledger}
    (htotal : after.total = l.total.add (s.unit.measure (s.inner.content.take n))) :
    (s.past n).StaysWithin policy after q ↔
      s.StaysWithin policy l (s.inner.content.take n ++ q) := by
  have hmeasure := s.unit.measure_append (s.inner.content.take n) q
  have hadd : after.total.add (s.unit.measure q) =
      l.total.add (s.unit.measure (s.inner.content.take n ++ q)) := by
    rw [htotal, Counter.add_add, hmeasure]
  constructor
  · rintro ⟨hlimit, hsize⟩
    simp only [past, take, hadd] at hlimit hsize
    exact ⟨hlimit, by omega⟩
  · rintro ⟨hlimit, hsize⟩
    constructor
    · simpa only [past, take, hadd] using hlimit
    · simp only [past, take]
      omega

theorem read_accepted (reporter : Reporter) (hchunk : s.inner.content.take n ≠ [])
    (h : s.StaysWithin policy l (s.inner.content.take n)) :
    ∃ after, (s.read policy reporter n l).2 = .ok (s.inner.content.take n) after := by
  have hcount := countEntity_eq policy reporter s.entityName
    (s.unit.measure (s.inner.content.take n)) (s.size + s.unit.measure (s.inner.content.take n)) l
  rw [sizeViolation_eq_none_iff.mpr h] at hcount
  rw [read_of_nonempty hchunk]
  exact ⟨_, bind_of_ok hcount⟩

theorem read_rejected (reporter : Reporter) (hchunk : s.inner.content.take n ≠ [])
    (h : ¬ s.StaysWithin policy l (s.inner.content.take n)) :
    ∃ fault after, (s.read policy reporter n l).2 = .error fault after := by
  have hcount := countEntity_eq policy reporter s.entityName
    (s.unit.measure (s.inner.content.take n)) (s.size + s.unit.measure (s.inner.content.take n)) l
  obtain ⟨d, hd⟩ := Option.ne_none_iff_exists'.mp fun hnone =>
    h (sizeViolation_eq_none_iff.mp hnone)
  rw [hd] at hcount
  rw [read_of_nonempty hchunk]
  exact ⟨_, _, bind_of_error hcount⟩

theorem of_read_ok {chunk : List UInt8} {after : Ledger}
    (h : (s.read policy reporter n l).2 = .ok chunk after) :
    chunk = s.inner.content.take n ∧ (chunk = [] ∨ s.StaysWithin policy l chunk) := by
  by_cases hchunk : s.inner.content.take n = []
  · rw [read_of_empty hchunk] at h
    split at h
    · cases h
    · cases h
      exact ⟨hchunk.symm, .inl rfl⟩
  · by_cases hwithin : s.StaysWithin policy l (s.inner.content.take n)
    · obtain ⟨after', hread⟩ := read_accepted reporter hchunk hwithin
      cases hread.symm.trans h
      exact ⟨rfl, .inr hwithin⟩
    · obtain ⟨fault, after', hread⟩ := read_rejected reporter hchunk hwithin
      cases hread.symm.trans h

theorem read_at_end (hchunk : s.inner.content.take n = []) (hend : s.inner.failure = none) :
    (s.read policy reporter n l).2 = .ok [] l := by
  rw [read_of_empty hchunk, hend]

theorem total_read (policy : Policy) (reporter : Reporter) (s : MonitoredStream) (n : Nat)
    (l : Ledger) : (Sharing.ending (s.read policy reporter n l).2).2.total =
    l.total.add (s.unit.measure (s.inner.content.take n)) := by
  by_cases h : s.inner.content.take n = []
  · rw [read_of_empty h, h, StreamUnit.measure_nil, Counter.add_zero]
    cases s.inner.failure <;> rfl
  · rw [read_of_nonempty h, Sharing.ending_countEntity]
    rfl

end MonitoredStream

namespace Stream

variable {policy : Policy} {reporter : Reporter} {pulls : List Pull} {stream : Stream}
  {s : MonitoredStream} {l : Ledger}

theorem content_read (n : Nat) :
    (stream.read policy reporter n l).1.content = stream.content.drop n := by
  cases stream with
  | plain s =>
      simp only [read, ByteStream.read]
      split
      · next hread =>
          split at hread
          · next hchunk _ => exact (ByteStream.drop_of_take_eq_nil hchunk).symm
          · cases hread
      · next hread =>
          split at hread
          · cases hread
          · cases hread
            rfl
  | monitored s => exact congrArg (·.inner.content) MonitoredStream.read_fst

theorem content_readEach :
    (readEach policy reporter pulls stream l).stream.content =
      stream.content.drop (Pull.span pulls) := by
  induction pulls generalizing stream l with
  | nil => rfl
  | cons c rest ih =>
      rw [readEach, ih, content_read, List.drop_drop]
      rfl

theorem readEach_cons (c : Pull) (rest : List Pull) :
    readEach policy reporter (c :: rest) (.monitored s) l =
      let result := (s.read policy reporter c.reach l).2
      let later := readEach policy reporter rest (.monitored (s.past c.reach))
        (Sharing.ending result).2
      { later with outcomes := outcome result :: later.outcomes } := by
  simp only [readEach, read, MonitoredStream.read_fst]
  rfl

theorem stream_readEach :
    (readEach policy reporter pulls (.monitored s) l).stream =
      .monitored (s.past (Pull.span pulls)) := by
  induction pulls generalizing s l with
  | nil => simp [readEach, Pull.span, MonitoredStream.past, MonitoredStream.take]
  | cons c rest ih =>
      rw [readEach_cons, ih, MonitoredStream.past_past]
      rfl

theorem total_readEach :
    (readEach policy reporter pulls (.monitored s) l).ledger.total =
      l.total.add (s.unit.measure (s.inner.content.take (Pull.span pulls))) := by
  induction pulls generalizing s l with
  | nil => simp [readEach, Pull.span]
  | cons c rest ih =>
      have hfirst := MonitoredStream.total_read policy reporter s c.reach l
      rw [readEach_cons, ih, hfirst, Counter.add_add, Pull.span, List.take_add,
        StreamUnit.measure_append]
      rfl

/-- Some pull fails exactly if the bytes that were taken are beyond a limit together. -/
theorem fails_readEach (policy : Policy) (reporter : Reporter) (pulls : List Pull) (l : Ledger)
    (hend : s.inner.failure = none)
    (hroom : l.total.toNat + s.unit.measure (s.inner.content.take (Pull.span pulls)) <
      UInt64.size) :
    (readEach policy reporter pulls (.monitored s) l).Fails ↔
      s.inner.content.take (Pull.span pulls) ≠ [] ∧
        ¬ s.StaysWithin policy l (s.inner.content.take (Pull.span pulls)) := by
  -- A count that is refused stays refused once more is read, so the last total decides.
  induction pulls generalizing s l with
  | nil => simp [readEach, Reading.Fails, Pull.span]
  | cons c rest ih =>
      have htotal := MonitoredStream.total_read policy reporter s c.reach l
      have hsplit : s.inner.content.take (Pull.span (c :: rest)) =
          s.inner.content.take c.reach ++ (s.past c.reach).inner.content.take (Pull.span rest) := by
        rw [Pull.span, List.take_add]
        rfl
      rw [hsplit] at hroom
      have hrest : (Sharing.ending (s.read policy reporter c.reach l).2).2.total.toNat +
          s.unit.measure ((s.past c.reach).inner.content.take (Pull.span rest)) < UInt64.size := by
        rw [StreamUnit.measure_append] at hroom
        rw [htotal, Counter.toNat_add_of_lt (by omega)]
        omega
      have hlater := ih (s := s.past c.reach)
        (l := (Sharing.ending (s.read policy reporter c.reach l).2).2) hend hrest
      rw [MonitoredStream.staysWithin_past htotal] at hlater
      rw [readEach_cons, hsplit, Reading.fails_cons, hlater]
      generalize (s.past c.reach).inner.content.take (Pull.span rest) = taken at hroom
      by_cases hchunk : s.inner.content.take c.reach = []
      · rw [MonitoredStream.read_at_end hchunk hend, hchunk]
        simp [outcome]
      · have hsome : s.inner.content.take c.reach ++ taken ≠ [] :=
          List.append_ne_nil_of_left_ne_nil hchunk taken
        by_cases hwithin : s.StaysWithin policy l (s.inner.content.take c.reach)
        · obtain ⟨after, hread⟩ := MonitoredStream.read_accepted reporter hchunk hwithin
          have hmore (h : ¬ s.StaysWithin policy l (s.inner.content.take c.reach ++ taken)) :
              taken ≠ [] := by
            rintro rfl
            exact h (by rwa [List.append_nil])
          rw [hread]
          simp only [outcome, reduceCtorEq, exists_false, false_or]
          exact ⟨fun h => ⟨hsome, h.2⟩, fun h => ⟨hmore h.2, h.2⟩⟩
        · obtain ⟨fault, after, hread⟩ := MonitoredStream.read_rejected reporter hchunk hwithin
          rw [hread]
          exact ⟨fun _ => ⟨hsome, fun h => hwithin (h.of_append hroom)⟩,
            fun _ => .inl ⟨fault, rfl⟩⟩

theorem delivered_of_ok {c : Pull} {rest : List Pull} {chunk : List UInt8} {after : Ledger}
    (h : (s.read policy reporter c.reach l).2 = .ok chunk after) :
    (readEach policy reporter (c :: rest) (.monitored s) l).delivered =
      chunk ++ (readEach policy reporter rest (.monitored (s.past c.reach)) after).delivered := by
  rw [readEach_cons, h]
  rfl

theorem delivered_of_error {c : Pull} {rest : List Pull} {fault : Fault} {after : Ledger}
    (h : (s.read policy reporter c.reach l).2 = .error fault after) :
    (readEach policy reporter (c :: rest) (.monitored s) l).delivered = [] := by
  rw [readEach_cons, h]
  rfl

theorem delivered_isPrefix (policy : Policy) (reporter : Reporter) (pulls : List Pull)
    (s : MonitoredStream) (l : Ledger) :
    (readEach policy reporter pulls (.monitored s) l).delivered <+: s.inner.content := by
  induction pulls generalizing s l with
  | nil => exact List.nil_prefix
  | cons c rest ih =>
      cases hread : (s.read policy reporter c.reach l).2 with
      | error fault after =>
          rw [delivered_of_error hread]
          exact List.nil_prefix
      | ok chunk after =>
          obtain ⟨rfl, _⟩ := MonitoredStream.of_read_ok hread
          have hrest := (List.prefix_append_right_inj (s.inner.content.take c.reach)).mpr
            (ih (s := s.past c.reach) (l := after))
          rw [delivered_of_ok hread]
          rwa [show s.inner.content.take c.reach ++ (s.past c.reach).inner.content =
            s.inner.content from List.take_append_drop c.reach s.inner.content] at hrest

theorem delivered_within (policy : Policy) (reporter : Reporter) (pulls : List Pull)
    (s : MonitoredStream) (l : Ledger) :
    (readEach policy reporter pulls (.monitored s) l).delivered = [] ∨
      s.StaysWithin policy l (readEach policy reporter pulls (.monitored s) l).delivered := by
  induction pulls generalizing s l with
  | nil => exact .inl rfl
  | cons c rest ih =>
      have htotal := MonitoredStream.total_read policy reporter s c.reach l
      cases hread : (s.read policy reporter c.reach l).2 with
      | error fault after => exact .inl (delivered_of_error hread)
      | ok chunk after =>
          obtain ⟨rfl, hchunk⟩ := MonitoredStream.of_read_ok hread
          rw [hread] at htotal
          rw [delivered_of_ok hread]
          -- What comes later was held against what this pull had counted already.
          rcases ih (s := s.past c.reach) (l := after) with hnil | hlater
          · rwa [hnil, List.append_nil]
          · exact .inr ((MonitoredStream.staysWithin_past htotal).mp hlater)

theorem delivered_ofLength {p : List UInt8} (hp : p <+: s.inner.content) (hpos : 0 < p.length)
    (h : s.StaysWithin policy l p) :
    (readEach policy reporter [.ofReach p.length] (.monitored s) l).delivered = p := by
  have hreach : (Pull.ofReach p.length).reach = p.length := Nat.min_self _
  have hchunk : s.inner.content.take (Pull.ofReach p.length).reach = p := by
    rw [hreach]
    exact (List.prefix_iff_eq_take.mp hp).symm
  obtain ⟨after, hread⟩ := MonitoredStream.read_accepted reporter
    (by rw [hchunk]; exact List.ne_nil_of_length_pos hpos) (by rwa [hchunk])
  rw [delivered_of_ok hread, hchunk]
  exact List.append_nil p

/-- What the pulls may give: the beginnings of the content that are within the limits. -/
theorem exists_delivered_iff {p : List UInt8} :
    (∃ reporter pulls, (readEach policy reporter pulls (.monitored s) l).delivered = p) ↔
      p = [] ∨ p <+: s.inner.content ∧ s.StaysWithin policy l p := by
  constructor
  · rintro ⟨reporter, pulls, rfl⟩
    have hfront := delivered_isPrefix policy reporter pulls s l
    exact (delivered_within policy reporter pulls s l).imp id fun hwithin => ⟨hfront, hwithin⟩
  · rintro (rfl | ⟨hp, hwithin⟩)
    · exact ⟨.logging, [], rfl⟩
    · rcases Nat.eq_zero_or_pos p.length with hzero | hpos
      · rw [List.eq_nil_of_length_eq_zero hzero]
        exact ⟨.logging, [], rfl⟩
      · exact ⟨.logging, [.ofReach p.length], delivered_ofLength hp hpos hwithin⟩

/-- Bytes that only continue characters are given whole, however many they are. -/
theorem delivered_continuing (policy : Policy) (reporter : Reporter) (l : Ledger)
    (hunit : s.unit = .chars)
    (hbytes : ∀ b ∈ s.inner.content, b &&& 0xC0 = 0x80) (hpos : 0 < s.inner.content.length)
    (hstart : s.StaysWithin policy l []) :
    (readEach policy reporter [.ofReach s.inner.content.length] (.monitored s) l).delivered =
      s.inner.content := by
  have hmeasure : s.unit.measure s.inner.content = s.unit.measure [] := by
    rw [hunit, StreamUnit.measure_chars_eq_zero hbytes, StreamUnit.measure_nil]
  apply delivered_ofLength List.prefix_rfl hpos
  constructor
  · rw [hmeasure]
    exact hstart.total
  · rw [hmeasure]
    exact hstart.size

end Stream

section Contents

variable (policy : Policy) (unit : StreamUnit) (name : String) (content : List UInt8) (l : Ledger)

/-- What reading a content to its end comes to. -/
structure Verdict (r : Reading) : Prop where
  stream : r.stream = .monitored ⟨.ofBytes [], unit, name, unit.measure content⟩
  total : r.ledger.total = l.total.add (unit.measure content)
  fails : l.total.toNat + unit.measure content < UInt64.size → (r.Fails ↔ content ≠ [] ∧
    ((policy.limit .totalEntitySize).toNat < l.total.toNat + unit.measure content ∨
      policy.sizeLimit name < unit.measure content))

def Stream.unread : Stream := .monitored (.ofStream (.ofBytes content) unit name)

variable {policy unit name content l}

theorem MonitoredStream.not_staysWithin_iff {bytes : List UInt8} :
    ¬ (MonitoredStream.ofStream (.ofBytes content) unit name).StaysWithin policy l bytes ↔
      (policy.limit .totalEntitySize).toNat < (l.total.add (unit.measure bytes)).toNat ∨
        policy.sizeLimit name < unit.measure bytes := by
  rw [← MonitoredStream.sizeViolation_eq_none_iff, ← ne_eq, ← Option.isSome_iff_ne_none,
    Policy.sizeViolation_isSome]
  simp only [ofStream, Nat.zero_add]

theorem verdict_of_content_eq_nil {reporter : Reporter} {pulls : List Pull}
    (hend : (Stream.readEach policy reporter pulls (.unread unit name content) l).stream.content =
      []) :
    Verdict policy unit name content l
      (Stream.readEach policy reporter pulls (.unread unit name content) l) := by
  rw [Stream.content_readEach] at hend
  have hdrop : content.drop (Pull.span pulls) = [] := hend
  have htake : content.take (Pull.span pulls) = content :=
    List.take_of_length_le (List.drop_eq_nil_iff.mp hdrop)
  constructor
  · rw [Stream.unread, Stream.stream_readEach]
    simp [MonitoredStream.past, MonitoredStream.take, MonitoredStream.ofStream, ByteStream.ofBytes,
      hdrop, htake]
  · rw [Stream.unread, Stream.total_readEach]
    exact congrArg (fun bytes => l.total.add (unit.measure bytes)) htake
  · intro hroom
    have htaken : (MonitoredStream.ofStream (.ofBytes content) unit name).inner.content.take
        (Pull.span pulls) = content := htake
    have hfails := Stream.fails_readEach policy reporter pulls l
      (s := .ofStream (.ofBytes content) unit name) rfl (by rw [htaken]; exact hroom)
    rw [htaken, MonitoredStream.not_staysWithin_iff, Counter.toNat_add_of_lt hroom] at hfails
    exact hfails

/-- Any two readings of a content to its end count the same, which is the number of characters if
the content is text and is read as such; and as long as the counter has room for it, either both
fail somewhere or neither does. -/
theorem verdict_readEach (policy : Policy) (unit : StreamUnit) (name : String)
    (content : List UInt8) (l : Ledger) (reporter reporter' : Reporter) (pulls pulls' : List Pull)
    (hend : (Stream.readEach policy reporter pulls (.unread unit name content) l).stream.content =
      [])
    (hend' : (Stream.readEach policy reporter' pulls' (.unread unit name content) l).stream.content
      = []) :
    let r := Stream.readEach policy reporter pulls (.unread unit name content) l
    let r' := Stream.readEach policy reporter' pulls' (.unread unit name content) l
    Verdict policy unit name content l r ∧ Verdict policy unit name content l r' ∧
      r.stream = r'.stream ∧ r.ledger.total = r'.ledger.total ∧
      (l.total.toNat + unit.measure content < UInt64.size → (r.Fails ↔ r'.Fails)) ∧
      ∀ text, unit = .chars → Text.decodeUtf8 content = .ok text →
        r.stream = .monitored ⟨.ofBytes [], unit, name, text.length⟩ ∧
          r.ledger.total = l.total.add text.length := by
  have hr := verdict_of_content_eq_nil hend
  have hr' := verdict_of_content_eq_nil hend'
  refine ⟨hr, hr', hr.stream.trans hr'.stream.symm, hr.total.trans hr'.total.symm,
    fun hroom => (hr.fails hroom).trans (hr'.fails hroom).symm, ?_⟩
  rintro text rfl htext
  have hlength : StreamUnit.chars.measure content = text.length := by
    rw [Text.eq_bytes_of_decodeUtf8 htext, Text.measure_bytes]
  rw [← hlength]
  exact ⟨hr.stream, hr.total⟩

theorem verdict_of_split_character :
    let policy := Policy.initial.setLimit .totalEntitySize 1
    let byOne : List Pull := [⟨1, 8⟩, ⟨8, 1⟩]
    let atOnce : List Pull := [⟨8, 8⟩]
    let reading := fun pulls =>
      Stream.readEach policy .logging pulls (.unread .chars "e" [0xC3, 0xA9]) .empty
    ((reading byOne).stream.content = [] ∧ (reading atOnce).stream.content = []) ∧
      (reading byOne).stream = .monitored ⟨.ofBytes [], .chars, "e", 1⟩ ∧
      ((reading byOne).Fails ↔ (reading atOnce).Fails) := by
  have h := verdict_readEach (Policy.initial.setLimit .totalEntitySize 1) .chars "e" [0xC3, 0xA9]
    .empty .logging .logging [⟨1, 8⟩, ⟨8, 1⟩] [⟨8, 8⟩] (by rfl) (by rfl)
  exact ⟨⟨rfl, rfl⟩, h.1.stream, h.2.2.2.2.1 (by decide)⟩

/-- A counter that has room for one byte of two starts again when both are read at once, and is
beyond its limit when they are read one after the other. A stream that cannot be read to its end
fails whoever asks for more than its bytes, with nothing beyond a limit. -/
theorem not_forall_fails_iff :
    (¬ ∀ (policy : Policy) (unit : StreamUnit) (name : String) (content : List UInt8) (l : Ledger)
        (reporter : Reporter) (pulls pulls' : List Pull),
      (Stream.readEach policy reporter pulls (.unread unit name content) l).stream.content = [] →
      (Stream.readEach policy reporter pulls' (.unread unit name content) l).stream.content = [] →
        ((Stream.readEach policy reporter pulls (.unread unit name content) l).Fails ↔
          (Stream.readEach policy reporter pulls' (.unread unit name content) l).Fails)) ∧
    (let broken : Stream := .monitored (.ofStream ⟨[97, 98], some ⟨.other, none⟩⟩ .bytes "e")
     (Stream.readEach .initial .recording [.ofReach 2] broken .empty).outcomes = [.ok [97, 98]] ∧
      (Stream.readEach .initial .recording [.ofReach 2, .ofReach 1] broken .empty).outcomes =
        [.ok [97, 98], .error (.io ⟨.other, none⟩)]) := by
  refine ⟨fun h => ?_, rfl, rfl⟩
  have hsame := h .initial .bytes "e" [97, 98] Sharing.nearlyFull .recording [.ofReach 2]
    [.ofReach 1, .ofReach 1] (by rfl) (by rfl)
  have hatOnce : (Stream.readEach .initial .recording [.ofReach 2] (.unread .bytes "e" [97, 98])
      Sharing.nearlyFull).outcomes = [.ok [97, 98]] := by rfl
  have hbyOne : (Stream.readEach .initial .recording [.ofReach 1, .ofReach 1]
      (.unread .bytes "e" [97, 98]) Sharing.nearlyFull).outcomes =
        [.error (.fatal Policy.initial.totalDiagnostic), .ok [98]] := by rfl
  obtain ⟨fault, hfault⟩ := hsame.mpr ⟨_, by rw [hbyOne]; exact List.mem_cons_self⟩
  rw [hatOnce] at hfault
  cases List.mem_singleton.mp hfault

theorem measure_delivered_le (policy : Policy) (reporter : Reporter) (pulls : List Pull)
    (inner : ByteStream) (unit : StreamUnit) (name : String) (l : Ledger) :
    unit.measure (Stream.readEach policy reporter pulls
      (.monitored (.ofStream inner unit name)) l).delivered ≤ policy.sizeLimit name := by
  rcases Stream.delivered_within policy reporter pulls (.ofStream inner unit name) l with
    hnil | hwithin
  · rw [hnil, StreamUnit.measure_nil]
    exact Nat.zero_le _
  · exact Nat.le_trans (Nat.le_add_left _ 0) hwithin.size

theorem length_delivered_le_of_isDense {inner : ByteStream} (hdense : IsDense inner.content)
    (policy : Policy) (reporter : Reporter) (pulls : List Pull) (name : String) (l : Ledger) :
    (Stream.readEach policy reporter pulls
      (.monitored (.ofStream inner .chars name)) l).delivered.length ≤
        4 * policy.sizeLimit name := by
  have hlength := hdense _
    (Stream.delivered_isPrefix policy reporter pulls (.ofStream inner .chars name) l)
  have hmeasure := measure_delivered_le policy reporter pulls inner .chars name l
  omega

/-- A stream of characters gives no more characters than its limit allows. It gives no more than
four bytes for each of those, however it is read, exactly if no beginning of its content that is
within the limits is longer; text is never longer. -/
theorem length_delivered_le_iff (policy : Policy) (name : String) (inner : ByteStream)
    (l : Ledger) :
    let s := MonitoredStream.ofStream inner .chars name
    let given := fun reporter pulls =>
      (Stream.readEach policy reporter pulls (.monitored s) l).delivered
    (∀ reporter pulls, StreamUnit.chars.measure (given reporter pulls) ≤ policy.sizeLimit name) ∧
      ((∀ reporter pulls, (given reporter pulls).length ≤ 4 * policy.sizeLimit name) ↔
        ∀ p, p <+: inner.content → s.StaysWithin policy l p →
          p.length ≤ 4 * policy.sizeLimit name) ∧
      ∀ text, Text.decodeUtf8 inner.content = .ok text →
        ∀ reporter pulls, (given reporter pulls).length ≤ 4 * policy.sizeLimit name := by
  intro s given
  refine ⟨fun reporter pulls => measure_delivered_le policy reporter pulls inner .chars name l,
    ⟨?_, ?_⟩, ?_⟩
  · intro hgiven p hp hwithin
    obtain ⟨reporter, pulls, rfl⟩ := Stream.exists_delivered_iff.mpr (.inr ⟨hp, hwithin⟩)
    exact hgiven reporter pulls
  · intro hfront reporter pulls
    rcases Stream.exists_delivered_iff.mp ⟨reporter, pulls, rfl⟩ with hnil | ⟨hp, hwithin⟩
    · rw [show given reporter pulls = [] from hnil]
      exact Nat.zero_le _
    · exact hfront _ hp hwithin
  · intro text htext reporter pulls
    apply length_delivered_le_of_isDense
    rw [Text.eq_bytes_of_decodeUtf8 htext]
    exact isDense_bytes text

/-- Five bytes that continue characters are given under a limit of one character. -/
theorem not_forall_length_delivered_le :
    ¬ ∀ (policy : Policy) (reporter : Reporter) (name : String) (content : List UInt8)
        (pulls : List Pull) (l : Ledger),
      (Stream.readEach policy reporter pulls (.unread .chars name content) l).delivered.length ≤
        4 * policy.sizeLimit name := by
  intro h
  let policy := Policy.initial.setLimit .generalEntitySize 1
  have hbytes : ∀ b ∈ List.replicate 5 (0x80 : UInt8), b &&& 0xC0 = 0x80 := by
    intro b hb
    rw [List.eq_of_mem_replicate hb]
    rfl
  have hfive := h policy .recording "e" (List.replicate 5 0x80) [.ofReach 5] .empty
  have hgiven : (Stream.readEach policy .recording [.ofReach 5]
      (.unread .chars "e" (List.replicate 5 0x80)) .empty).delivered = List.replicate 5 0x80 :=
    Stream.delivered_continuing policy .recording .empty
      (s := .ofStream (.ofBytes (List.replicate 5 0x80)) .chars "e")
      rfl hbytes (by decide) ⟨by decide, by decide⟩
  have hlimit : policy.sizeLimit "e" = 1 := by decide
  rw [hgiven, List.length_replicate, hlimit] at hfive
  exact absurd hfive (by decide)

end Contents

end XmlBounds
