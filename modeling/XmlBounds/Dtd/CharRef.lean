import XmlBounds.Dtd.Fault

/-!
# Character references

In the literal of an entity, a reference `&#…;` or `&#x…;` stands for the character of that
number. Every other text stays as it is written, and the character that a reference stands for is
not read again.
-/

namespace XmlBounds.Dtd

/-- The number of a character reference. -/
structure CharNumber where
  radix : Nat
  digits : List Char
  deriving DecidableEq, Repr

def CharNumber.reference (n : CharNumber) : List Char :=
  ['&', '#'] ++ (if n.radix = 16 then ['x'] else []) ++ n.digits ++ [';']

def isHexDigit (c : Char) : Bool := (Text.digit? 16 c).isSome

/-- The digits of a radix up to a semicolon, and the text after it. -/
def digitsUpToSemicolon? (isDigit : Char → Bool) (s : List Char) :
    Option (List Char × List Char) :=
  match s.takeWhile isDigit, s.dropWhile isDigit with
  | d :: digits, ';' :: rest => some (d :: digits, rest)
  | _, _ => none

/-- The number of a reference whose `&#` was passed, and the text after its semicolon. -/
def charNumber? (s : List Char) : Option (CharNumber × List Char) :=
  match s with
  | 'x' :: rest => (digitsUpToSemicolon? isHexDigit rest).map fun (d, r) => (⟨16, d⟩, r)
  | _ => (digitsUpToSemicolon? Char.isDigit s).map fun (d, r) => (⟨10, d⟩, r)

theorem length_of_digitsUpToSemicolon? {isDigit : Char → Bool} {s digits rest : List Char}
    (h : digitsUpToSemicolon? isDigit s = some (digits, rest)) : rest.length < s.length := by
  unfold digitsUpToSemicolon? at h
  split at h
  · next hd =>
      simp only [Option.some.injEq, Prod.mk.injEq] at h
      have := (List.dropWhile_sublist (l := s) isDigit).length_le
      rw [hd, List.length_cons] at this
      rw [← h.2]
      omega
  · simp at h

theorem length_of_charNumber? {s rest : List Char} {n : CharNumber}
    (h : charNumber? s = some (n, rest)) : rest.length < s.length := by
  unfold charNumber? at h
  split at h
  · simp only [Option.map_eq_some_iff, Prod.exists, Prod.mk.injEq] at h
    obtain ⟨_, _, hd, -, rfl⟩ := h
    have := length_of_digitsUpToSemicolon? hd
    simp only [List.length_cons]
    omega
  · simp only [Option.map_eq_some_iff, Prod.exists, Prod.mk.injEq] at h
    obtain ⟨_, _, hd, -, rfl⟩ := h
    exact length_of_digitsUpToSemicolon? hd

/-- The character of a number, which must be a Unicode scalar value. -/
def CharNumber.char (n : CharNumber) : Except Fault Char :=
  match Text.readDigits n.radix 4294967295 .tooLarge 0 n.digits with
  | .error why => .error (.unreadableCharRef (String.ofList n.reference) why)
  | .ok code =>
      if Nat.isValidChar code then .ok (Char.ofNat code)
      else .error (.invalidCharRef (String.ofList n.reference))

/-- The literal with its character references replaced. -/
def expandChars (s : List Char) : Except Fault (List Char) :=
  match s with
  | [] => .ok []
  | '&' :: '#' :: rest =>
      match _h : charNumber? rest with
      | some (n, rest') => do
          let c ← n.char
          return c :: (← expandChars rest')
      | none => do return '&' :: (← expandChars ('#' :: rest))
  | c :: rest => do return c :: (← expandChars rest)
termination_by s.length
decreasing_by
  · have := length_of_charNumber? _h
    simp only [List.length_cons]
    omega
  · simp
  · simp

/-- The text with its character references replaced. -/
def expandCharRefs (text : String) : Except Fault String :=
  (expandChars text.toList).map String.ofList

end XmlBounds.Dtd
