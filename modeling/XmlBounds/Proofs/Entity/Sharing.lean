import Mathlib.Logic.Function.Basic
import XmlBounds.Proofs.Entity.Sizes

/-!
# One total for many readers

Any number of monitored streams and monitors of declarations share one ledger. They take turns in
any order, and go on after a turn that fails. The total is what all of them have met so far, as far
as the counter has room for it, and the size of each stream is its own share. A turn that counts
something fails if the new total or the size of what it counts is beyond a limit, and reports one
diagnostic, of the total if that is beyond its limit. A turn that counts nothing changes nothing,
whatever the total is.
-/

namespace XmlBounds

namespace Policy

def sizeDiagnostic (policy : Policy) (name : String) : Diagnostic :=
  if Dtd.isParameterName name then
    .fatal .parameterEntitySize [policy.limitArg .parameterEntitySize]
  else .fatal .generalEntitySize [policy.limitArg .generalEntitySize]

def totalDiagnostic (policy : Policy) : Diagnostic :=
  .fatal .totalEntitySize [policy.limitArg .totalEntitySize]

/-- What is reported of an entity of a size, once the total is as given. -/
def sizeViolation (policy : Policy) (name : String) (size total : Nat) : Option Diagnostic :=
  if (policy.limit .totalEntitySize).toNat < total then some policy.totalDiagnostic
  else if policy.sizeLimit name < size then some (policy.sizeDiagnostic name)
  else none

variable {policy : Policy} {name : String} {size total : Nat}

theorem head?_checkEntitySize :
    (policy.checkEntitySize size total (Dtd.isParameterName name)).head? =
      policy.sizeViolation name size total := by
  by_cases htotal : (policy.limit .totalEntitySize).toNat < total
  · simp [checkEntitySize, sizeViolation, totalDiagnostic, htotal]
  · by_cases hparameter : Dtd.isParameterName name = true
    · by_cases hsize : (policy.limit .parameterEntitySize).toNat < size <;>
        simp [checkEntitySize, sizeViolation, sizeLimit, sizeDiagnostic, htotal, hparameter, hsize]
    · by_cases hsize : (policy.limit .generalEntitySize).toNat < size <;>
        simp [checkEntitySize, sizeViolation, sizeLimit, sizeDiagnostic, htotal, hparameter, hsize]

theorem sizeViolation_isSome :
    (policy.sizeViolation name size total).isSome = true ↔
      (policy.limit .totalEntitySize).toNat < total ∨ policy.sizeLimit name < size := by
  unfold sizeViolation
  split
  · next htotal => simp [htotal]
  · next htotal =>
      split
      · next hsize => simp [hsize]
      · next hsize => simp [htotal, hsize]

end Policy

/-- The fault of a diagnostic that is raised: the reporter's own if it has one. -/
def Reporter.faultOf (reporter : Reporter) (d : Diagnostic) : Fault :=
  match reporter.respond d with
  | .ok () => .fatal d
  | .error fault => fault

/-- The ledger once an amount is counted for the entity, and what is found is reported. -/
def Ledger.counting (l : Ledger) (reporter : Reporter) (name : String) (amount : Nat)
    (found : Option Diagnostic) : Ledger where
  total := l.total.add amount
  reports := l.reports ++ found.toList.map (⟨·, reporter.records⟩)
  journal := .counted name amount :: l.journal

theorem countEntity_eq (policy : Policy) (reporter : Reporter) (name : String) (amount size : Nat)
    (l : Ledger) :
    countEntity policy reporter name amount size l =
      match policy.sizeViolation name size (l.total.add amount).toNat with
      | none => .ok () (l.counting reporter name amount none)
      | some d => .error (reporter.faultOf d) (l.counting reporter name amount (some d)) := by
  rw [countEntity_apply, ← Policy.head?_checkEntitySize]
  cases policy.checkEntitySize size (l.total.add amount).toNat (Dtd.isParameterName name) with
  | nil => simp [Accounted.raiseFirst, Ledger.counting]; rfl
  | cons d rest =>
      simp only [Accounted.raiseFirst, Accounted.raise_apply, List.head?_cons]
      rfl

namespace MonitoredStream

variable {s : MonitoredStream} {n : Nat} {policy : Policy} {reporter : Reporter} {l : Ledger}

theorem read_of_empty (h : s.inner.content.take n = []) :
    s.read policy reporter n l =
      (s, match s.inner.failure with
        | some fault => .error (.io fault) l
        | none => .ok [] l) := by
  have hrest : s.inner.content.drop n = s.inner.content := by
    rcases List.take_eq_nil_iff.mp h with rfl | hnil
    · rfl
    · rw [hnil, List.drop_nil]
  cases hfailure : s.inner.failure with
  | some fault => simp [read, ByteStream.read, h, hfailure]
  | none => simp [read, ByteStream.read, h, hrest, hfailure]

theorem read_of_nonempty (h : s.inner.content.take n ≠ []) :
    s.read policy reporter n l =
      (s.take (s.inner.content.take n) { s.inner with content := s.inner.content.drop n },
        (countEntity policy reporter s.entityName (s.unit.measure (s.inner.content.take n))
          (s.size + s.unit.measure (s.inner.content.take n)) >>= fun _ =>
            pure (s.inner.content.take n)) l) := by
  obtain ⟨b, rest, hchunk⟩ := List.exists_cons_of_ne_nil h
  have hread : s.inner.read n =
      .ok (b :: rest, { s.inner with content := s.inner.content.drop n }) := by
    simp only [ByteStream.read, hchunk]
  unfold read
  rw [hread, hchunk]
  rfl

/-- What a read takes is gone from the stream and added to its size, also when the read fails. -/
theorem read_fst : (s.read policy reporter n l).1 =
    s.take (s.inner.content.take n) { s.inner with content := s.inner.content.drop n } := by
  by_cases h : s.inner.content.take n = []
  · have hrest : s.inner.content.drop n = s.inner.content := by
      have := List.take_append_drop n s.inner.content
      rwa [h, List.nil_append] at this
    rw [read_of_empty h, h, hrest]
    simp [take]
  · rw [read_of_nonempty h]

end MonitoredStream

namespace Sharing

/-- A monitor of declarations, with a reporter of its own, meets an event, or a stream is read. -/
inductive Turn (ι : Type) where
  | meet (reporter : Reporter) (e : Dtd.Event)
  | read (i : ι) (n : Nat)

/-- The streams and the ledger that they share with each other and with the monitors. -/
structure State (ι : Type) where
  stream : ι → MonitoredStream
  ledger : Ledger

structure Tally where
  reporter : Reporter
  name : String
  amount : Nat
  /-- The size of the declared text, or of all that was read from the stream, this turn's chunk
  included. -/
  size : Nat

def ending {α : Type} : EStateM.Result Fault Ledger α → Option Fault × Ledger
  | .ok _ l => (none, l)
  | .error fault l => (some fault, l)

section Counting

variable {ι : Type}

def Turn.text? : Turn ι → Option String
  | .meet _ (.internalEntity _ text) => some text
  | _ => none

/-- The characters of the texts that are declared. -/
def declared : List (Turn ι) → Nat
  | [] => 0
  | turn :: rest => (turn.text?.map String.length).getD 0 + declared rest

/-- A turn counts something if it declares an internal entity or takes a chunk that is not
empty. -/
def State.tally? (reporterOf : ι → Reporter) (st : State ι) : Turn ι → Option Tally
  | .meet reporter (.internalEntity name text) => some ⟨reporter, name, text.length, text.length⟩
  | .meet _ _ => none
  | .read i n =>
      let s := st.stream i
      let chunk := s.inner.content.take n
      if chunk = [] then none
      else some ⟨reporterOf i, s.entityName, s.unit.measure chunk, s.size + s.unit.measure chunk⟩

/-- What a turn that counts nothing fails with: an inner stream that cannot be read on. -/
def State.fault? (st : State ι) : Turn ι → Option Fault
  | .meet _ _ => none
  | .read i _ => (st.stream i).inner.failure.map .io

def State.content (st : State ι) (i : ι) : List UInt8 := (st.stream i).inner.content

/-- The units that chunks hold, each by the unit of its stream. -/
def State.measure (st : State ι) : List (ι × List UInt8) → Nat
  | [] => 0
  | (i, chunk) :: rest => (st.stream i).unit.measure chunk + measure st rest

/-- What a turn that counts something comes to. -/
structure Counts (policy : Policy) (t : Tally) (st : State ι) (out : Option Fault × State ι) :
    Prop where
  total : out.2.ledger.total = st.ledger.total.add t.amount
  fails : out.1.isSome = true ↔
    (policy.limit .totalEntitySize).toNat < out.2.ledger.total.toNat ∨
      policy.sizeLimit t.name < t.size
  /-- The total comes first, and nothing else is reported. -/
  reports : out.2.ledger.reports = st.ledger.reports ++
    (policy.sizeViolation t.name t.size out.2.ledger.total.toNat).toList.map
      (⟨·, t.reporter.records⟩)

/-- What a turn that counts nothing comes to. -/
structure Idles (fault : Option Fault) (st : State ι) (out : Option Fault × State ι) : Prop where
  ledger : out.2.ledger = st.ledger
  size (i : ι) : (out.2.stream i).size = (st.stream i).size
  fails : out.1 = fault

variable {policy : Policy} {reporterOf : ι → Reporter} {st : State ι}

theorem ending_countEntity {α : Type} {reporter : Reporter} {name : String} {amount size : Nat}
    {l : Ledger} (a : α) :
    ending ((countEntity policy reporter name amount size >>= fun _ => pure a) l) =
      let found := policy.sizeViolation name size (l.total.add amount).toNat
      (found.map reporter.faultOf, l.counting reporter name amount found) := by
  have hcount := countEntity_eq policy reporter name amount size l
  cases hfound : policy.sizeViolation name size (l.total.add amount).toNat with
  | none =>
      rw [hfound] at hcount
      rw [bind_of_ok hcount]
      rfl
  | some d =>
      rw [hfound] at hcount
      simp only [Bind.bind, EStateM.bind, hcount]
      rfl

/-- A turn counts if all it does to the ledger is the counting of its tally. -/
theorem counts_of_counting {t : Tally} {out : Option Fault × State ι} {l : Ledger}
    (htotal : l.total = st.ledger.total) (hreports : l.reports = st.ledger.reports)
    (hending : (out.1, out.2.ledger) =
      let found := policy.sizeViolation t.name t.size (l.total.add t.amount).toNat
      (found.map t.reporter.faultOf, l.counting t.reporter t.name t.amount found)) :
    Counts policy t st out := by
  obtain ⟨hfailure, hledger⟩ := Prod.mk.inj hending
  have hnew : out.2.ledger.total = l.total.add t.amount := by
    rw [hledger]
    rfl
  constructor
  · rw [hnew, htotal]
  · rw [hfailure, Option.isSome_map, hnew]
    exact Policy.sizeViolation_isSome
  · rw [hnew, hledger, ← hreports]
    rfl

theorem amount_meet (reporter : Reporter) (e : Dtd.Event) :
    (st.tally? reporterOf (.meet reporter e)).elim 0 (·.amount) =
      declared [(.meet reporter e : Turn ι)] := by
  cases e <;> rfl

theorem amount_read (i : ι) (n : Nat) :
    (st.tally? reporterOf (.read i n)).elim 0 (·.amount) =
      (st.stream i).unit.measure ((st.content i).take n) := by
  unfold State.tally? State.content
  by_cases h : (st.stream i).inner.content.take n = []
  · simp [h]
  · simp [h]

theorem declared_cons (turn : Turn ι) (rest : List (Turn ι)) :
    declared (turn :: rest) = declared [turn] + declared rest := rfl

theorem measure_cons (i : ι) (chunk : List UInt8) (rest : List (ι × List UInt8)) :
    st.measure ((i, chunk) :: rest) = (st.stream i).unit.measure chunk + st.measure rest := rfl

/-- Only the units of the streams have a part in the measure. -/
theorem measure_congr {after : State ι}
    (h : ∀ i, (after.stream i).unit = (st.stream i).unit) (chunks : List (ι × List UInt8)) :
    after.measure chunks = st.measure chunks := by
  induction chunks with
  | nil => rfl
  | cons chunk rest ih => rw [measure_cons, measure_cons, h, ih]

end Counting

section Turns

variable {ι : Type} [DecidableEq ι] (policy : Policy) (reporterOf : ι → Reporter)

/-- What a turn fails with, and the state afterwards. -/
def Turn.take (st : State ι) : Turn ι → Option Fault × State ι
  | .meet reporter e =>
      let (failure, l) := ending (sizeMonitor policy reporter e st.ledger)
      (failure, { st with ledger := l })
  | .read i n =>
      let (s, result) := (st.stream i).read policy (reporterOf i) n st.ledger
      let (failure, l) := ending result
      (failure, ⟨Function.update st.stream i s, l⟩)

/-- The turns are taken in order. One that fails ends nothing. -/
def run : List (Turn ι) → State ι → State ι
  | [], st => st
  | turn :: rest, st => run rest (turn.take policy reporterOf st).2

/-- The chunks that the turns take from streams of the given contents, each with its stream. -/
def drawn (content : ι → List UInt8) : List (Turn ι) → List (ι × List UInt8)
  | [] => []
  | .meet _ _ :: rest => drawn content rest
  | .read i n :: rest =>
      (i, (content i).take n) :: drawn (Function.update content i ((content i).drop n)) rest

/-- The units that the turns meet. -/
def State.met (st : State ι) (turns : List (Turn ι)) : Nat :=
  declared turns + st.measure (drawn st.content turns)

def chunksOf (i : ι) (chunks : List (ι × List UInt8)) : List (ι × List UInt8) :=
  chunks.filter (·.1 = i)

/-- The state once turns were taken: the total is what all of them have met, and the size of a
stream is its own share. -/
structure Shared (st : State ι) (turns : List (Turn ι)) (after : State ι) : Prop where
  total : after.ledger.total = st.ledger.total.add (st.met turns)
  /-- A counter that has room counts exactly. -/
  toNat_total : st.ledger.total.toNat + st.met turns < UInt64.size →
    after.ledger.total.toNat = st.ledger.total.toNat + st.met turns
  size (i : ι) : (after.stream i).size =
    (st.stream i).size + st.measure (chunksOf i (drawn st.content turns))

/-- What the next turn comes to in a state. -/
def State.Expects (st : State ι) (turn : Turn ι) : Prop :=
  match st.tally? reporterOf turn with
  | some t => Counts policy t st (turn.take policy reporterOf st)
  | none => Idles (st.fault? turn) st (turn.take policy reporterOf st)

variable {policy : Policy} {reporterOf : ι → Reporter} {st : State ι}

theorem chunksOf_cons_same (i : ι) (chunk : List UInt8) (rest : List (ι × List UInt8)) :
    chunksOf i ((i, chunk) :: rest) = (i, chunk) :: chunksOf i rest := by
  simp [chunksOf]

theorem chunksOf_cons_ne {i j : ι} (h : j ≠ i) (chunk : List UInt8)
    (rest : List (ι × List UInt8)) : chunksOf j ((i, chunk) :: rest) = chunksOf j rest := by
  simp [chunksOf, Ne.symm h]

theorem take_read (i : ι) (n : Nat) :
    ((Turn.read i n).take policy reporterOf st).2.stream =
      Function.update st.stream i ((st.stream i).take ((st.stream i).inner.content.take n)
        { (st.stream i).inner with content := (st.stream i).inner.content.drop n }) := by
  rw [← MonitoredStream.read_fst]
  rfl

theorem content_take_read (i : ι) (n : Nat) :
    ((Turn.read i n).take policy reporterOf st).2.content =
      Function.update st.content i ((st.content i).drop n) := by
  funext j
  unfold State.content
  rw [take_read]
  by_cases hj : j = i
  · subst hj
    rw [Function.update_self, Function.update_self]
    rfl
  · rw [Function.update_of_ne hj, Function.update_of_ne hj]

theorem measure_take_meet (reporter : Reporter) (e : Dtd.Event)
    (chunks : List (ι × List UInt8)) :
    ((Turn.meet reporter e).take policy reporterOf st).2.measure chunks = st.measure chunks := by
  apply measure_congr
  intro j
  rfl

theorem measure_take_read (i : ι) (n : Nat) (chunks : List (ι × List UInt8)) :
    ((Turn.read i n).take policy reporterOf st).2.measure chunks = st.measure chunks := by
  apply measure_congr
  intro j
  rw [take_read]
  by_cases hj : j = i
  · subst hj
    rw [Function.update_self]
    rfl
  · rw [Function.update_of_ne hj]

theorem expects_turn (turn : Turn ι) : st.Expects policy reporterOf turn := by
  unfold State.Expects
  cases turn with
  | meet reporter e =>
      cases e with
      | internalEntity name text =>
          have hmonitor := sizeMonitor_internal policy reporter name text st.ledger
          apply counts_of_counting
            (l := { st.ledger with journal := .declared name text :: st.ledger.journal })
          · rfl
          · rfl
          · simp only [Turn.take, hmonitor]
            exact ending_countEntity _
      | _ => exact ⟨rfl, fun _ => rfl, rfl⟩
  | read i n =>
      by_cases h : (st.stream i).inner.content.take n = []
      · have hread : (st.stream i).read policy (reporterOf i) n st.ledger = _ :=
          MonitoredStream.read_of_empty h
        have htake : (Turn.read i n).take policy reporterOf st = (st.fault? (.read i n), st) := by
          simp only [Turn.take, hread, Function.update_eq_self, State.fault?]
          cases (st.stream i).inner.failure <;> rfl
        simp only [State.tally?, h, if_true]
        rw [htake]
        exact ⟨rfl, fun _ => rfl, rfl⟩
      · have hread : (st.stream i).read policy (reporterOf i) n st.ledger = _ :=
          MonitoredStream.read_of_nonempty h
        simp only [State.tally?, h, if_false]
        apply counts_of_counting (l := st.ledger)
        · rfl
        · rfl
        · simp only [Turn.take, hread]
          exact ending_countEntity _

theorem take_total (turn : Turn ι) : (turn.take policy reporterOf st).2.ledger.total =
    st.ledger.total.add ((st.tally? reporterOf turn).elim 0 (·.amount)) := by
  have h : st.Expects policy reporterOf turn := expects_turn turn
  unfold State.Expects at h
  cases htally : st.tally? reporterOf turn with
  | some t =>
      rw [htally] at h
      exact h.total
  | none =>
      rw [htally] at h
      rw [h.ledger]
      exact (Counter.add_zero _).symm

theorem total_run (turns : List (Turn ι)) (st : State ι) :
    (run policy reporterOf turns st).ledger.total = st.ledger.total.add (st.met turns) := by
  induction turns generalizing st with
  | nil => exact (Counter.add_zero _).symm
  | cons turn rest ih =>
      have hrest := ih (turn.take policy reporterOf st).2
      rw [take_total turn, Counter.add_add, State.met] at hrest
      rw [run, hrest, State.met, declared_cons]
      cases turn with
      | meet reporter e =>
          -- no stream changes, so what is left to draw is as it was
          rw [amount_meet, measure_take_meet, Nat.add_assoc]
          rfl
      | read i n =>
          rw [amount_read, content_take_read, measure_take_read, drawn, measure_cons]
          congr 1
          have hnothing : declared [(.read i n : Turn ι)] = 0 := rfl
          omega

theorem size_run (turns : List (Turn ι)) (st : State ι) (i : ι) :
    ((run policy reporterOf turns st).stream i).size =
      (st.stream i).size + st.measure (chunksOf i (drawn st.content turns)) := by
  induction turns generalizing st with
  | nil => rfl
  | cons turn rest ih =>
      have hrest := ih (turn.take policy reporterOf st).2
      cases turn with
      | meet reporter e =>
          rw [measure_take_meet] at hrest
          exact hrest
      | read j n =>
          rw [content_take_read, measure_take_read, take_read] at hrest
          rw [run, hrest, drawn]
          by_cases hi : i = j
          · subst hi
            rw [chunksOf_cons_same, measure_cons, Function.update_self]
            exact Nat.add_assoc _ _ _
          · rw [chunksOf_cons_ne hi, Function.update_of_ne hi]

/-- At every point of every interleaving, the counter and the sizes are what was met so far, and the
next turn fails as the counter and the sizes say. -/
theorem shared_expects (policy : Policy) (reporterOf : ι → Reporter) (start : State ι)
    (turns : List (Turn ι)) (turn : Turn ι) :
    Shared start turns (run policy reporterOf turns start) ∧
      (run policy reporterOf turns start).Expects policy reporterOf turn := by
  have htotal : (run policy reporterOf turns start).ledger.total =
      start.ledger.total.add (start.met turns) := total_run turns start
  refine ⟨⟨htotal, fun hroom => ?_, size_run turns start⟩, expects_turn turn⟩
  rw [htotal, Counter.toNat_add_of_lt hroom]

end Turns

/-- A declaration and two reads of a stream fill the total to its limit, and the next declaration
fails. -/
theorem shared_of_declaration :
    let policy := Policy.initial.setLimit .totalEntitySize 6
    let start : State Unit :=
      ⟨fun _ => .ofStream (.ofBytes [97, 98, 99, 100]) .bytes "e", .empty⟩
    let turns : List (Turn Unit) :=
      [.read () 3, .meet .recording (.internalEntity "f" "xy"), .read () 3]
    start.ledger.total.toNat + start.met turns < UInt64.size ∧
      (run policy (fun _ => .recording) turns start).ledger.total.toNat = 6 ∧
      ((Turn.meet .logging (.internalEntity "g" "z")).take policy (fun _ => .recording)
        (run policy (fun _ => .recording) turns start)).1.isSome = true := by
  intro policy start turns
  have hmet : start.met turns = 6 := by decide
  have hroom : start.ledger.total.toNat + start.met turns < UInt64.size := by
    rw [hmet]
    decide
  obtain ⟨hshared, hnext⟩ := shared_expects policy (fun _ => .recording) start turns
    (.meet .logging (.internalEntity "g" "z"))
  have htotal : (run policy (fun _ => .recording) turns start).ledger.total.toNat = 6 := by
    rw [hshared.toNat_total hroom, hmet]
    rfl
  refine ⟨hroom, htotal, hnext.fails.mpr (.inl ?_)⟩
  rw [hnext.total, Counter.toNat_add, htotal]
  decide

/-- A counter that has room for one more. -/
def nearlyFull : Ledger := { Ledger.empty with total := 18446744073709551614 }

/-- A read at the end of a stream counts nothing, and does not fail for a total that is already
beyond its limit; and a counter without room does not count what is met. -/
theorem not_forall_shared :
    (¬ ∀ (policy : Policy) (reporterOf : Unit → Reporter) (start : State Unit)
        (turns : List (Turn Unit)) (n : Nat),
      let out := (Turn.read () n).take policy reporterOf (run policy reporterOf turns start)
      out.1.isSome = true ↔ (policy.limit .totalEntitySize).toNat < out.2.ledger.total.toNat ∨
        policy.sizeLimit (out.2.stream ()).entityName < (out.2.stream ()).size) ∧
    ¬ ∀ (policy : Policy) (reporterOf : Unit → Reporter) (start : State Unit)
        (turns : List (Turn Unit)),
      (run policy reporterOf turns start).ledger.total.toNat =
        start.ledger.total.toNat + start.met turns := by
  constructor
  · intro h
    let policy := Policy.initial.setLimit .totalEntitySize 3
    let stream := MonitoredStream.ofStream (.ofBytes [97, 98, 99, 100]) .chars "e"
    have hread := h policy (fun _ => .recording) ⟨fun _ => stream, .empty⟩ [.read () 4] 4
    have htotal : (policy.limit .totalEntitySize).toNat < 4 := by decide
    exact absurd (hread.mpr (.inl htotal)) (by decide)
  · intro h
    let stream := MonitoredStream.ofStream (.ofBytes [97, 98]) .bytes "e"
    have htotal := h .initial (fun _ => .recording) ⟨fun _ => stream, nearlyFull⟩ [.read () 2]
    exact absurd htotal (by decide)

end Sharing

end XmlBounds
