/-!
# Reading decimal integers

A number is an optional sign and ASCII digits, nothing else. The reading stops at the first
character that is no digit or that carries the value out of the range, whichever comes first.
-/

namespace XmlBounds.Text

/-- Why a text is no integer of the wanted range. -/
inductive IntegerFault where
  | empty
  | invalidDigit
  | tooLarge
  | tooSmall
  deriving DecidableEq, Repr

def IntegerFault.message : IntegerFault → String
  | .empty => "cannot parse integer from empty string"
  | .invalidDigit => "invalid digit found in string"
  | .tooLarge => "number too large to fit in target type"
  | .tooSmall => "number too small to fit in target type"

/-- The value of a digit in a radix up to sixteen. -/
def digit? (radix : Nat) (c : Char) : Option Nat :=
  let value? :=
    if '0' ≤ c ∧ c ≤ '9' then some (c.toNat - '0'.toNat)
    else if 'a' ≤ c ∧ c ≤ 'f' then some (c.toNat - 'a'.toNat + 10)
    else if 'A' ≤ c ∧ c ≤ 'F' then some (c.toNat - 'A'.toNat + 10)
    else none
  value?.filter (· < radix)

/-- Reads digits onto `acc`; a value above `bound` is the fault `beyond`. -/
def readDigits (radix bound : Nat) (beyond : IntegerFault) :
    Nat → List Char → Except IntegerFault Nat
  | acc, [] => .ok acc
  | acc, c :: rest =>
      match digit? radix c with
      | none => .error .invalidDigit
      | some d =>
          if bound < acc * radix + d then .error beyond
          else readDigits radix bound beyond (acc * radix + d) rest

/-- Reads a number from 0 to `bound`; a plus sign may stand in front. -/
def readNat (radix bound : Nat) (s : List Char) : Except IntegerFault Nat :=
  match s with
  | [] => .error .empty
  | ['+'] => .error .invalidDigit
  | '+' :: rest => readDigits radix bound .tooLarge 0 rest
  | _ => readDigits radix bound .tooLarge 0 s

/-- Reads a signed decimal number of 32 bits. -/
def readInt32 (s : List Char) : Except IntegerFault Int32 :=
  match s with
  | [] => .error .empty
  | ['+'] | ['-'] => .error .invalidDigit
  | '-' :: rest => (readDigits 10 2147483648 .tooSmall 0 rest).map fun n => Int32.ofInt (-n)
  | '+' :: rest => (readDigits 10 2147483647 .tooLarge 0 rest).map fun n => Int32.ofInt n
  | _ => (readDigits 10 2147483647 .tooLarge 0 s).map fun n => Int32.ofInt n

end XmlBounds.Text
