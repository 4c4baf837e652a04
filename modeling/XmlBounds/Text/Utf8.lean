/-!
# Reading UTF-8

Bytes are read as text by the standard library. Bytes that are no text have a first fault: either
a sequence that no text can hold, with the number of bytes that are its fault, or a sequence cut
off by the end.
-/

namespace XmlBounds.Text

/-- The first fault of bytes that are not UTF-8. -/
inductive Utf8Fault where
  /-- The `count` bytes from `index` begin no character. -/
  | invalid (count index : Nat)
  /-- The character at `index` is cut off by the end. -/
  | incomplete (index : Nat)
  deriving DecidableEq, Repr

def Utf8Fault.message : Utf8Fault → String
  | .invalid count index => s!"invalid utf-8 sequence of {count} bytes from index {index}"
  | .incomplete index => s!"incomplete utf-8 byte sequence from index {index}"

/-- What may follow the first byte of a character: how many bytes, and the range of the first of
them, which keeps out overlong forms, surrogates and values past the last code point. -/
def following (b : UInt8) : Option (Nat × UInt8 × UInt8) :=
  if b < 0x80 then some (0, 0x80, 0xBF)
  else if 0xC2 ≤ b && b ≤ 0xDF then some (1, 0x80, 0xBF)
  else if b == 0xE0 then some (2, 0xA0, 0xBF)
  else if b == 0xED then some (2, 0x80, 0x9F)
  else if 0xE1 ≤ b && b ≤ 0xEF then some (2, 0x80, 0xBF)
  else if b == 0xF0 then some (3, 0x90, 0xBF)
  else if 0xF1 ≤ b && b ≤ 0xF3 then some (3, 0x80, 0xBF)
  else if b == 0xF4 then some (3, 0x80, 0x8F)
  else none

/-- Reads past the bytes owed after a first byte: the rest, or how many bytes stood before the one
that does not belong (`some`) or the end (`none`). -/
def skipFollowing : (owed : Nat) → (low high : UInt8) → (seen : Nat) → List UInt8 →
    Except (Option Nat) (List UInt8)
  | 0, _, _, _, rest => .ok rest
  | _ + 1, _, _, _, [] => .error none
  | owed + 1, low, high, seen, b :: rest =>
      if low ≤ b && b ≤ high then skipFollowing owed 0x80 0xBF (seen + 1) rest
      else .error (some seen)

theorem length_skipFollowing {owed : Nat} {low high : UInt8} {seen : Nat} {s rest : List UInt8}
    (h : skipFollowing owed low high seen s = .ok rest) : rest.length ≤ s.length := by
  induction owed generalizing low high seen s with
  | zero =>
      simp only [skipFollowing, Except.ok.injEq] at h
      simp [h]
  | succ owed ih =>
      cases s with
      | nil => simp [skipFollowing] at h
      | cons b s =>
          rw [skipFollowing] at h
          split at h
          · have := ih h
            simp only [List.length_cons]
            omega
          · simp at h

/-- The first fault at or after the byte `index`, if there is one. -/
def utf8Fault? (index : Nat) (s : List UInt8) : Option Utf8Fault :=
  match s with
  | [] => none
  | b :: rest =>
      match following b with
      | none => some (.invalid 1 index)
      | some (owed, low, high) =>
          match h : skipFollowing owed low high 1 rest with
          | .error none => some (.incomplete index)
          | .error (some seen) => some (.invalid seen index)
          | .ok rest' => utf8Fault? (index + 1 + owed) rest'
termination_by s.length
decreasing_by
  have := length_skipFollowing h
  simp only [List.length_cons]
  omega

/-- The text that the bytes spell, or their first fault. -/
def decodeUtf8 (s : List UInt8) : Except Utf8Fault String :=
  match String.fromUTF8? ⟨s.toArray⟩ with
  | some text => .ok text
  | none => .error ((utf8Fault? 0 s).getD (.incomplete s.length))

end XmlBounds.Text
