/-!
# Punycode

A label is written as its ASCII characters, a hyphen, and the other characters in the order of
their numbers: each as the distance from the one before, in digits of base 36 whose weights adapt
to the distances seen.
-/

namespace XmlBounds.Url.Punycode

/-- A digit: letters stand for 0 to 25, numerals for 26 to 35. -/
def digitChar (d : Nat) : Char :=
  if d < 26 then Char.ofNat ('a'.toNat + d) else Char.ofNat ('0'.toNat + (d - 26))

/-- The least value of a last digit at position `k`. -/
def threshold (k bias : Nat) : Nat :=
  if k ≤ bias then 1 else if bias + 26 ≤ k then 26 else k - bias

theorem threshold_pos (k bias : Nat) : 1 ≤ threshold k bias := by
  unfold threshold
  split
  · omega
  · split <;> omega

/-- Divides a large distance down, counting the digits that it would take. -/
def settle (delta k : Nat) : Nat × Nat :=
  if 455 < delta then settle (delta / 35) (k + 36) else (delta, k)
termination_by delta
decreasing_by exact Nat.div_lt_self (by omega) (by omega)

/-- The bias after a distance `delta` was written as the `count`th. -/
def adapt (delta count : Nat) (isFirst : Bool) : Nat :=
  let damped := if isFirst then delta / 700 else delta / 2
  let (rest, k) := settle (damped + damped / count) 0
  k + 36 * rest / (rest + 38)

/-- A distance in digits, from position `k` on. -/
def digits (bias k q : Nat) : List Char :=
  let t := threshold k bias
  if q < t then [digitChar q]
  else digitChar (t + (q - t) % (36 - t)) :: digits bias (k + 36) ((q - t) / (36 - t))
termination_by q
decreasing_by
  have hpos := threshold_pos k bias
  have hdiv := Nat.div_le_self (q - threshold k bias) (36 - threshold k bias)
  omega

/-- How far the writing of a label has come. -/
structure State where
  written : List Char
  delta : Nat
  bias : Nat
  count : Nat

/-- Passes one character of the label while the characters numbered `code` are written. -/
def State.pass (basic code : Nat) (st : State) (c : Char) : State :=
  if c.toNat < code then { st with delta := st.delta + 1 }
  else if c.toNat = code then
    { written := st.written ++ digits st.bias 36 st.delta
      delta := 0
      bias := adapt st.delta (st.count + 1) (st.count == basic)
      count := st.count + 1 }
  else st

def encode (label : List Char) : List Char :=
  let basic := label.filter (·.toNat < 0x80)
  let codes := ((label.filter (0x80 ≤ ·.toNat)).map Char.toNat).eraseDups.mergeSort
  let (st, _) := codes.foldl
    (fun (st, next) code =>
      let st := { st with delta := st.delta + (code - next) * (st.count + 1) }
      let st := label.foldl (State.pass basic.length code) st
      ({ st with delta := st.delta + 1 }, code + 1))
    (({ written := [], delta := 0, bias := 72, count := basic.length } : State), 0x80)
  basic ++ (if basic = [] then [] else ['-']) ++ st.written

def digit? (c : Char) : Option Nat :=
  if 'a' ≤ c ∧ c ≤ 'z' then some (c.toNat - 'a'.toNat)
  else if '0' ≤ c ∧ c ≤ '9' then some (c.toNat - '0'.toNat + 26)
  else none

/-- How far the reading of a label has come. -/
structure Reading where
  label : List Char
  code : Nat
  /-- The distance read so far, counted from the beginning of the label. -/
  index : Nat
  /-- The index at which the present distance began. -/
  origin : Nat
  weight : Nat
  position : Nat
  bias : Nat

/-- Reads a digit. The last one of a distance inserts a character. -/
def Reading.next (r : Reading) (c : Char) : Option Reading := do
  let d ← digit? c
  let index := r.index + d * r.weight
  let t := threshold r.position r.bias
  if t ≤ d then
    return { r with index, weight := r.weight * (36 - t), position := r.position + 36 }
  else
    let count := r.label.length + 1
    let code := r.code + index / count
    let place := index % count
    if Nat.isValidChar code then
      return {
        label := r.label.take place ++ Char.ofNat code :: r.label.drop place
        code
        index := place + 1
        origin := place + 1
        weight := 1
        position := 36
        bias := adapt (index - r.origin) count (r.origin == 0) }
    else none

/-- The label that a text in Punycode stands for. -/
def decode? (s : List Char) : Option (List Char) := do
  let digits := (s.reverse.takeWhile (· != '-')).reverse
  let basic := s.take (s.length - digits.length - 1)
  let r ← digits.foldlM Reading.next
    { label := basic, code := 0x80, index := 0, origin := 0, weight := 1, position := 36,
      bias := 72 }
  if r.position = 36 then return r.label else none

end XmlBounds.Url.Punycode
