import XmlBounds.Text.Blank
import XmlBounds.Text.Integer
import XmlBounds.Text.Quoted

/-!
# Property values

A caller passes a setting as a number, a text, a truth value or nothing. Each use of a value
converts it or says why it does not convert.
-/

namespace XmlBounds

/-- A value passed to or read from a setting. -/
inductive PropertyValue where
  | int (n : Int32)
  | text (s : String)
  | bool (b : Bool)
  | null
  deriving DecidableEq, Repr

/-- Why a value does not serve as what it is wanted for. -/
inductive ValueFault where
  /-- The text is no limit. -/
  | malformedLimit (text : String) (why : Text.IntegerFault)
  | expectedLimit (got : PropertyValue)
  | expectedBool (got : PropertyValue)
  | expectedText (got : PropertyValue)
  deriving DecidableEq, Repr

namespace PropertyValue

/-- The value as it is shown to a reader. -/
def display : PropertyValue → String
  | int n => toString n.toInt
  | text s => s
  | bool b => if b then "true" else "false"
  | null => "null"

/-- The value together with its kind, as fault messages show it. -/
def describe : PropertyValue → String
  | int n => s!"Int({toString n.toInt})"
  | text s => s!"Str({Text.quoted s})"
  | bool b => if b then "Bool(true)" else "Bool(false)"
  | null => "Null"

/-- The value as a limit; a text is read as a decimal number between blanks. -/
def asLimit : PropertyValue → Except ValueFault Int32
  | int n => .ok n
  | text s => (Text.readInt32 (Text.trim s.toList)).mapError (.malformedLimit s)
  | other => .error (.expectedLimit other)

/-- The value as a switch; a text must read `true` or `false`, in any case and between blanks. -/
def asBool : PropertyValue → Except ValueFault Bool
  | bool b => .ok b
  | text s =>
      if Text.sameIgnoringCase (Text.trimmed s) "true" then .ok true
      else if Text.sameIgnoringCase (Text.trimmed s) "false" then .ok false
      else .error (.expectedBool (text s))
  | other => .error (.expectedBool other)

/-- The value as a text that may be absent. -/
def asText : PropertyValue → Except ValueFault (Option String)
  | text s => .ok (some s)
  | null => .ok none
  | other => .error (.expectedText other)

/-- A text that may be absent, as a value. -/
def ofText : Option String → PropertyValue
  | some s => text s
  | none => null

@[simp] theorem asLimit_int (n : Int32) : (int n).asLimit = .ok n := rfl

@[simp] theorem asBool_bool (b : Bool) : (bool b).asBool = .ok b := rfl

@[simp] theorem asText_ofText (s : Option String) : (ofText s).asText = .ok s := by
  cases s <;> rfl

end PropertyValue

def ValueFault.message : ValueFault → String
  | malformedLimit text why => s!"'{text}' is not a valid limit: {why.message}"
  | expectedLimit got => s!"expected an integer limit, got {got.describe}"
  | expectedBool got => s!"expected a boolean, got {got.describe}"
  | expectedText got => s!"expected a string, got {got.describe}"

end XmlBounds
