import XmlBounds.Entity.Size

/-!
# Monitored streams

A stream holds the bytes that are still to be read. A monitored stream counts what is read from
it, in bytes or in characters, into its own size and into the ledger's total, and checks both
after every read that gives anything. What a failing read took stays read and counted. A reading
to the end goes on after an interruption, and what the interrupted read took is not among what it
gives.
-/

namespace XmlBounds

/-- A stream of bytes. -/
structure ByteStream where
  content : List UInt8
  /-- What stands behind the bytes, if they cannot be read to an end. -/
  fault : Option IoFault
  deriving DecidableEq, Repr

namespace ByteStream

def ofBytes (content : List UInt8) : ByteStream := ⟨content, none⟩

/-- What a read meets that finds no more bytes. An interruption is not the end of a stream, so none
is met there. -/
def failure (s : ByteStream) : Option IoFault := s.fault.filter (·.kind ≠ .interrupted)

/-- Takes up to `n` bytes from the front; no bytes mean the end. -/
def read (n : Nat) (s : ByteStream) : Except IoFault (List UInt8 × ByteStream) :=
  match s.content.take n, s.failure with
  | [], some fault => .error fault
  | chunk, _ => .ok (chunk, { s with content := s.content.drop n })

theorem content_of_read {n : Nat} {s s' : ByteStream} {chunk : List UInt8}
    (h : s.read n = .ok (chunk, s')) : s.content = chunk ++ s'.content := by
  unfold read at h
  split at h
  · simp at h
  · simp only [Except.ok.injEq, Prod.mk.injEq] at h
    rw [← h.1, ← h.2]
    exact (List.take_append_drop n s.content).symm

def readAll (s : ByteStream) : Except IoFault (List UInt8) :=
  match s.failure with
  | some fault => .error fault
  | none => .ok s.content

end ByteStream

/-- What a monitored stream counts. -/
inductive StreamUnit where
  | bytes
  | chars
  deriving DecidableEq, Repr

/-- How many units a chunk holds. A byte that continues a character adds none. -/
def StreamUnit.measure : StreamUnit → List UInt8 → Nat
  | bytes, chunk => chunk.length
  | chars, chunk => chunk.countP fun b => b &&& 0xC0 != 0x80

@[simp] theorem StreamUnit.measure_nil (u : StreamUnit) : u.measure [] = 0 := by cases u <;> rfl

@[simp] theorem StreamUnit.measure_append (u : StreamUnit) (s t : List UInt8) :
    u.measure (s ++ t) = u.measure s + u.measure t := by
  cases u <;> simp [measure]

/-- A stream over the text of an entity. -/
structure MonitoredStream where
  inner : ByteStream
  unit : StreamUnit
  /-- With a percent sign if it is a parameter entity. -/
  entityName : String
  /-- The units read so far. -/
  size : Nat
  deriving DecidableEq, Repr

namespace MonitoredStream

/-- A stream of which nothing has been read. -/
def ofStream (inner : ByteStream) (unit : StreamUnit) (entityName : String) : MonitoredStream :=
  ⟨inner, unit, entityName, 0⟩

/-- The stream as it is shown to a reader of logs. -/
def describe (s : MonitoredStream) : String :=
  let unit := match s.unit with
    | .bytes => "Bytes"
    | .chars => "Chars"
  "MonitoredStream \x7b entity_name: " ++ Text.quoted s.entityName ++ ", unit: " ++ unit ++
    ", size: " ++ toString s.size ++ " \x7d"

/-- The stream after a chunk was taken from its inner stream. -/
def take (s : MonitoredStream) (chunk : List UInt8) (inner : ByteStream) : MonitoredStream :=
  { s with inner, size := s.size + s.unit.measure chunk }

/-- Reads up to `n` bytes: the stream afterwards, and what came of it. -/
def read (policy : Policy) (reporter : Reporter) (n : Nat) (s : MonitoredStream) (ledger : Ledger) :
    MonitoredStream × EStateM.Result Fault Ledger (List UInt8) :=
  match s.inner.read n with
  | .error fault => (s, .error (.io fault) ledger)
  | .ok ([], inner) => ({ s with inner }, .ok [] ledger)
  | .ok (chunk, inner) =>
      let s := s.take chunk inner
      let counted : Accounted (List UInt8) := do
        countEntity policy reporter s.entityName (s.unit.measure chunk) s.size
        return chunk
      (s, counted ledger)

/-- Reads to the end, `got` being what was read before. The first read asks for 32 bytes, and each
other for as many as there are already, so that a buffer that is full is doubled. A chunk whose
count is interrupted is left out. -/
def readRest (policy : Policy) (reporter : Reporter) (got : List UInt8) (s : MonitoredStream) :
    Accounted (List UInt8) := fun ledger =>
  match _h : s.inner.read (max 32 got.length) with
  | .error fault => .error (.io fault) ledger
  | .ok ([], _) => .ok got ledger
  | .ok (b :: chunk, inner) =>
      let s' := s.take (b :: chunk) inner
      let amount := s.unit.measure (b :: chunk)
      match (countEntity policy reporter s.entityName amount s'.size).takenUp ledger with
      | .error fault ledger => .error fault ledger
      | .ok done ledger =>
          readRest policy reporter (if done then got ++ b :: chunk else got) s' ledger
termination_by s.inner.content.length
decreasing_by
  rw [ByteStream.content_of_read _h]
  simp only [take, List.length_append, List.length_cons]
  omega

def readAll (policy : Policy) (reporter : Reporter) (s : MonitoredStream) :
    Accounted (List UInt8) := do
  let content ← readRest policy reporter [] s
  Accounted.note (.delivered s.entityName (s.unit.measure content))
  return content

end MonitoredStream

end XmlBounds
