import XmlBounds.Markup.Fault
import XmlBounds.Text.Blank
import XmlBounds.Text.Bytes

/-!
# The tokens of a document

A document is read as text and markup in turn, up to its end or to a fault in its markup. Tags must
close in order, but need not all be closed at the end. The insides of tags are left as they are.
-/

namespace XmlBounds.Markup

/-- A start tag or the tag of an empty element: its name, and what stands after it. -/
structure Tag where
  name : String
  attributeText : List Char
  deriving DecidableEq, Repr

/-- A piece of a document. -/
inductive Token where
  | text (content : String)
  /-- What stands between the keyword and the closing bracket, without blanks in front. -/
  | doctype (content : String)
  | startTag (tag : Tag)
  | emptyTag (tag : Tag)
  | endTag
  /-- A comment, a literal section or an instruction. -/
  | ignored
  deriving DecidableEq, Repr

/-- The tokens before the end of a document or its first fault. -/
structure Document where
  tokens : List Token
  fault : Option Fault
  deriving DecidableEq, Repr

/-- The document with a token in front. -/
def Document.cons (t : Token) (d : Document) : Document := { d with tokens := t :: d.tokens }

/-- What was read after an opening bracket. -/
structure Piece where
  token : Token
  /-- How many characters it takes. -/
  length : Nat
  /-- The names of the open elements after it, the innermost first. -/
  opened : List String
  deriving DecidableEq, Repr

/-- How many characters stand before the first closing bracket at which a condition holds, counted
from `n`. What the condition is about is kept up to date by `pass`. -/
def closeIndex? {σ : Type} (isEnd : σ → Bool) (pass : σ → Char → σ) :
    σ → (n : Nat) → List Char → Option Nat
  | _, _, [] => none
  | s, n, c :: rest =>
      if c = '>' ∧ isEnd s then some n else closeIndex? isEnd pass (pass s c) (n + 1) rest

/-- The kinds of markup that begin with an exclamation mark. -/
inductive BangKind where
  | comment
  | literal
  | doctype
  deriving DecidableEq, Repr

namespace BangKind

/-- The kind that the text after the exclamation mark begins. -/
def ofText : List Char → Except TokenFault BangKind
  | [] => .error (.unexpectedEnd "Bang")
  | '[' :: _ => .ok literal
  | '-' :: _ => .ok comment
  | 'D' :: _ | 'd' :: _ => .ok doctype
  | c :: _ => .error (.unexpectedBang ((String.utf8EncodeChar c).headD 0))

/-- The name of the kind in messages. -/
def display : BangKind → String
  | comment => "Comment"
  | literal => "CData"
  | doctype => "DOCTYPE"

/-- Whether the passed characters, the last one first, end a comment. Its two pairs of hyphens do
not overlap. -/
def endsComment : List Char → Bool
  | '-' :: '-' :: _ :: _ :: _ => true
  | _ => false

/-- Whether the passed characters, the last one first, end a literal section. -/
def endsLiteral : List Char → Bool
  | ']' :: ']' :: _ => true
  | _ => false

/-- How many brackets are open after another character. -/
def balance (depth : Nat) (c : Char) : Nat :=
  if c = '<' then depth + 1 else if c = '>' then depth - 1 else depth

/-- How many characters stand before the bracket that closes the markup. -/
def closeIndex? (k : BangKind) (s : List Char) : Option Nat :=
  match k with
  | comment => Markup.closeIndex? endsComment (fun passed c => c :: passed) [] 0 s
  | literal => Markup.closeIndex? endsLiteral (fun passed c => c :: passed) [] 0 s
  | doctype => Markup.closeIndex? (· == 0) balance 0 0 s

/-- Whether a text begins with a keyword, in any case. -/
def beginsWith (keyword : String) (s : List Char) : Bool :=
  (s.take keyword.length).map Char.toLower == keyword.toList.map Char.toLower

/-- The token that the characters between the exclamation mark and the closing bracket make. -/
def token (k : BangKind) (s : List Char) : Except TokenFault Token :=
  match k with
  | comment => if beginsWith "--" s then .ok .ignored else .error (.unexpectedEnd k.display)
  | literal => if beginsWith "[CDATA[" s then .ok .ignored else .error (.unexpectedEnd k.display)
  | doctype =>
      if beginsWith "DOCTYPE" s then
        match (s.drop 7).dropWhile Text.isSpace with
        | [] => .error .emptyDoctype
        | content => .ok (.doctype (String.ofList content))
      else .error (.unexpectedEnd k.display)

end BangKind

/-- Reads what follows `<!`. The position is that of the exclamation mark. -/
def readBang (opened : List String) (position : Nat) (s : List Char) : Except Fault Piece := do
  let kind ← (BangKind.ofText s).mapError (.unreadable position)
  match kind.closeIndex? s with
  | none => throw (.unreadable position (.unexpectedEnd kind.display))
  | some n =>
      let token ← (kind.token (s.take n)).mapError
        (.unreadable (position + 2 + Text.byteLength (s.take n)))
      return ⟨token, n + 2, opened⟩

/-- The characters before a closing bracket, or all if there is none. -/
def upToBracket (s : List Char) : List Char := s.takeWhile (· != '>')

/-- How many bytes are read of a text up to and with its closing bracket. -/
def bracketLength (s : List Char) : Nat := Text.byteLength (s.take ((upToBracket s).length + 1))

/-- The name in an end tag: blanks after it do not count, unless there is nothing else. -/
def endName (s : List Char) : List Char :=
  match (s.reverse.dropWhile Text.isSpace).reverse with
  | [] => s
  | name => name

/-- Reads what follows `<`, where that is a slash: the end of the element last opened. A mismatch is
placed before the tag's text. -/
def readEnd (opened : List String) (position : Nat) (s : List Char) : Except Fault Piece :=
  let content := upToBracket s
  let after := position + bracketLength s - Text.byteLength content
  let name := String.ofList (endName (content.drop 1))
  match opened with
  | [] => .error (.unreadable after (.mismatchedEnd "" (String.ofList (content.drop 1))))
  | expected :: outer =>
      if name = expected then .ok ⟨.endTag, content.length + 1, outer⟩
      else .error (.unreadable after (.mismatchedEnd expected name))

/-- Reads what follows `<`, where that is a question mark. -/
def readInstruction (opened : List String) (position : Nat) (s : List Char) :
    Except Fault Piece :=
  let content := upToBracket s
  if 2 < content.length ∧ content.getLast? = some '?' then
    .ok ⟨.ignored, content.length + 1, opened⟩
  else
    .error (.unreadable (position + bracketLength s - Text.byteLength content)
      (.unexpectedEnd "XmlDecl"))

/-- The quote that is open after another character. -/
def passQuote (quote : Option Char) (c : Char) : Option Char :=
  match quote with
  | none => if c = '"' ∨ c = '\'' then some c else none
  | some q => if c = q then none else some q

/-- The tag with the given content: the name ends at the first blank. -/
def tagOf (content : List Char) : Tag :=
  ⟨String.ofList (content.takeWhile (!Text.isSpace ·)), content.dropWhile (!Text.isSpace ·)⟩

/-- Reads what follows `<` in any other case: a tag, up to a closing bracket outside quotes. A slash
at its end makes it that of an empty element. -/
def readTag (opened : List String) (s : List Char) : Piece :=
  let n := (closeIndex? Option.isNone passQuote none 0 s).getD s.length
  let content := s.take n
  if content.getLast? = some '/' then ⟨.emptyTag (tagOf content.dropLast), n + 1, opened⟩
  else ⟨.startTag (tagOf content), n + 1, (tagOf content).name :: opened⟩

/-- Reads what follows `<` at a position. -/
def readMarkup (opened : List String) (position : Nat) (s : List Char) : Except Fault Piece :=
  match s with
  | '!' :: rest => readBang opened position rest
  | '/' :: _ => readEnd opened position s
  | '?' :: _ => readInstruction opened position s
  | _ => .ok (readTag opened s)

/-- Reads on from a position, with elements open there. An opening bracket at the very end does not
count. -/
def readFrom (opened : List String) (position : Nat) (s : List Char) : Document :=
  match s with
  | [] | ['<'] => ⟨[], none⟩
  | '<' :: c :: rest =>
      match readMarkup opened (position + 1) (c :: rest) with
      | .error fault => ⟨[], some fault⟩
      | .ok piece =>
          (readFrom piece.opened
            (position + 1 + Text.byteLength ((c :: rest).take piece.length))
            ((c :: rest).drop piece.length)).cons piece.token
  | c :: rest =>
      let text := c :: rest.takeWhile (· != '<')
      (readFrom opened (position + Text.byteLength text) (rest.dropWhile (· != '<'))).cons
        (.text (String.ofList text))
termination_by s.length
decreasing_by
  · simp only [List.length_drop, List.length_cons]
    omega
  · have := (List.dropWhile_sublist (l := rest) (· != '<')).length_le
    simp only [List.length_cons]
    omega

/-- Reads a document. A byte order mark in front does not count. -/
def read (text : String) : Document :=
  match text.toList with
  | '\uFEFF' :: rest => readFrom [] 0 rest
  | s => readFrom [] 0 s

end XmlBounds.Markup
