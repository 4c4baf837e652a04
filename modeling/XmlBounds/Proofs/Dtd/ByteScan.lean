import XmlBounds.Dtd.Doctype
import XmlBounds.Proofs.Text.Boundaries

/-!
# Scanning at byte offsets

The scanner as it works on a text in memory. The cursor is a byte offset; what is read is cut out of
the text, and the cursor is moved by lengths in bytes, so an offset may come to stand inside a
character. A cut that is not possible ends the run, and so does a turn of a loop that does not take
the cursor forward. Every place of the cursor, every cut and every such turn is put on record.
-/

namespace XmlBounds.Dtd

/-- What ends a run before it has a result. -/
inductive Stop where
  | fault (fault : Fault)
  /-- The ends of a cut are out of order, or one stands inside a character. -/
  | badCut
  /-- A turn of a loop has not taken the cursor forward within the text. -/
  | stuck
  deriving DecidableEq, Repr

/-- What is done at byte offsets of a text. -/
inductive Act where
  | place (text : String) (offset : Nat)
  | cut (text : String) (start stop : Nat)
  /-- A turn of a loop ends, and another follows. -/
  | turn (text : String) (before after : Nat)
  deriving DecidableEq, Repr

def Act.IsSound : Act → Prop
  | place text offset => offset ≤ text.utf8ByteSize ∧ Text.IsBoundary text offset
  | cut text start stop => start ≤ stop ∧ Text.IsBoundary text start ∧ Text.IsBoundary text stop
  | turn text before after => before < after ∧ after ≤ text.utf8ByteSize

structure Track where
  offset : Nat
  /-- What was done, the last first. -/
  acts : List Act
  deriving DecidableEq, Repr

def Track.note (t : Track) (act : Act) : Track := { t with acts := act :: t.acts }

/-- A reader at byte offsets of a text. -/
abbrev ByteScan := ReaderT String (ExceptT Stop (StateM Track))

namespace ByteScan

variable {σ α : Type}

/-- What the reader comes to from the beginning of a text. -/
def outcome (x : ByteScan α) (text : String) : Except Stop α := (x text ⟨0, []⟩).1

/-- What it does on the way. -/
def acts (x : ByteScan α) (text : String) : List Act := (x text ⟨0, []⟩).2.acts

/-! ## The cursor -/

def record (act : Act) : ByteScan Unit := modify (·.note act)

def place (offset : Nat) : ByteScan Unit := do
  modify fun t => { t with offset }
  record (.place (← read) offset)

def forward (n : Nat) : ByteScan Unit := do place ((← get).offset + n)

def cut (text : String) (start stop : Nat) : ByteScan String := do
  record (.cut text start stop)
  match Text.slice? text start stop with
  | some part => return part
  | none => throw .badCut

def rest : ByteScan String := do
  let text ← read
  cut text (← get).offset text.utf8ByteSize

def isDone : ByteScan Bool := return decide ((← read).utf8ByteSize ≤ (← get).offset)

def fail (complaint : Complaint) : ByteScan α := do
  let near := String.ofList ((← rest).toList.take 24)
  throw (.fault (.malformed complaint (← get).offset near))

/-- Makes turns, each from what the one before has left, until one has a result. -/
def loop (turn : σ → ByteScan (σ ⊕ α)) (s : σ) : ByteScan α := fun text t =>
  match turn s text t with
  | (.error stop, t') => (.error stop, t')
  | (.ok (.inr a), t') => (.ok a, t')
  | (.ok (.inl s'), t') =>
      let t'' := t'.note (.turn text t.offset t'.offset)
      if _h : t.offset < t'.offset ∧ t'.offset ≤ text.utf8ByteSize then loop turn s' text t''
      else (.error .stuck, t'')
termination_by text t => text.utf8ByteSize - t.offset
decreasing_by
  simp only [Track.note]
  omega

/-! ## Readers -/

def at? (token : String) : ByteScan Bool := do
  return (Text.bytes token).isPrefixOf (Text.bytes (← rest))

def eat (token : String) : ByteScan Bool := do
  if ← at? token then
    forward token.utf8ByteSize
    return true
  else return false

def expect (token : String) : ByteScan Unit := do
  if ← eat token then return
  else fail (.expected token)

def space : ByteScan Bool := do
  let rest ← rest
  let trimmed := String.ofList (rest.toList.dropWhile Text.isSpace)
  forward (rest.utf8ByteSize - trimmed.utf8ByteSize)
  return trimmed.utf8ByteSize ≠ rest.utf8ByteSize

def requireSpace : ByteScan Unit := do
  if ← space then return
  else fail .expectedSpace

def name : ByteScan String := do
  let rest ← rest
  let found := Scan.namePrefix rest.toList
  if found = [] then fail .expectedName
  else
    forward (Text.byteLength found)
    cut rest 0 (Text.byteLength found)

def atQuote : ByteScan Bool := do return (← rest).toList.head?.any Scan.isQuote

def literal : ByteScan String := do
  match (← rest).toList.head? with
  | some quote =>
      if Scan.isQuote quote then
        forward 1
        let rest ← rest
        match Text.offsetOf? (String.singleton quote) rest with
        | none => fail .unterminatedLiteral
        | some stop =>
            forward (stop + 1)
            cut rest 0 stop
      else fail .expectedLiteral
  | none => fail .expectedLiteral

def upTo (terminator : String) : ByteScan String := do
  let rest ← rest
  match Text.offsetOf? terminator rest with
  | none => fail (.missing terminator)
  | some stop =>
      forward (stop + terminator.utf8ByteSize)
      cut rest 0 stop

/-- The byte offset of the `>` that closes a declaration, counted from `i`. -/
def closeOffset? : (quote : Option Char) → (i : Nat) → List Char → Option Nat
  | _, _, [] => none
  | some q, i, c :: rest => closeOffset? (if c = q then none else some q) (i + c.utf8Size) rest
  | none, i, c :: rest =>
      if c = '>' then some i
      else closeOffset? (if Scan.isQuote c then some c else none) (i + c.utf8Size) rest

def upToClose : ByteScan String := do
  let rest ← rest
  match closeOffset? none 0 rest.toList with
  | none => fail .unterminatedDeclaration
  | some stop =>
      forward (stop + 1)
      return Text.trimmed (← cut rest 0 stop)

/-! ## Declarations -/

def externalId (systemIsOptional : Bool) : ByteScan (Option String × Option String) := do
  if ← eat "SYSTEM" then
    requireSpace
    return (none, some (← literal))
  else if ← eat "PUBLIC" then
    requireSpace
    let publicId ← literal
    if ← space <&&> atQuote then return (some publicId, some (← literal))
    else if systemIsOptional then return (some publicId, none)
    else fail .expectedSystemLiteral
  else fail .expectedExternalId

def close : ByteScan Unit := do
  let _ ← space
  expect ">"

def entityName : ByteScan String := do
  requireSpace
  if ← at? "%" then
    forward 1
    requireSpace
    return parameterName (← name)
  else name

/-- The character references of a text counted from the byte offset `i`: for each the offsets at
which it begins and ends. -/
def charRefsFrom (i : Nat) (s : List Char) : List (Nat × Nat) :=
  match s with
  | [] => []
  | '&' :: '#' :: rest =>
      match _h : charNumber? rest with
      | some (n, rest') =>
          let stop := i + Text.byteLength n.reference
          (i, stop) :: charRefsFrom stop rest'
      | none => charRefsFrom (i + 1) ('#' :: rest)
  | c :: rest => charRefsFrom (i + c.utf8Size) rest
termination_by s.length
decreasing_by
  · have := length_of_charNumber? _h
    simp only [List.length_cons]
    omega
  · simp
  · simp

/-- The number that the digits of a reference write, after an `x` in hexadecimal. -/
def charNumber (digits : List Char) : CharNumber :=
  match digits with
  | 'x' :: digits => ⟨16, digits⟩
  | digits => ⟨10, digits⟩

/-- Replaces the references of a text, given by their offsets. The text is expanded up to `last`. -/
def replaceRefs (text expanded : String) (last : Nat) : List (Nat × Nat) → ByteScan String
  | [] => do return expanded ++ (← cut text last text.utf8ByteSize)
  | (start, stop) :: refs => do
      let digits ← cut text (start + 2) (stop - 1)
      match (charNumber digits.toList).char with
      | .error fault => throw (.fault fault)
      | .ok c =>
          let before ← cut text last start
          replaceRefs text (expanded ++ before ++ String.singleton c) stop refs

def replacement (text : String) : ByteScan String :=
  replaceRefs text "" 0 (charRefsFrom 0 text.toList)

def externalEntity (base : Option String) (entity : String) : ByteScan Event := do
  let (publicId, systemId) ← externalId false
  let systemId := systemId.getD ""
  if ← space <&&> eat "NDATA" then
    if isParameterName entity then fail .unparsedParameter
    else
      requireSpace
      let notationName ← name
      close
      return .unparsedEntity entity publicId systemId notationName
  else
    expect ">"
    return .externalEntity entity publicId systemId base

def entity (base : Option String) : ByteScan Event := do
  let entity ← entityName
  requireSpace
  if ← atQuote then
    let text ← literal
    close
    return .internalEntity entity (← replacement text)
  else externalEntity base entity

def element : ByteScan Event := do
  requireSpace
  let declared ← name
  return .element declared (← upToClose)

def attlist : ByteScan Event := do
  requireSpace
  let declared ← name
  return .attlist declared (← upToClose)

def notationDecl : ByteScan Event := do
  requireSpace
  let declared ← name
  let _ ← space
  let (publicId, systemId) ← externalId true
  close
  return .notationDecl declared publicId systemId

def instruction : ByteScan Event := do
  let body ← upTo "?>"
  let target := body.toList.takeWhile (!Text.isBlank ·)
  match body.toList.dropWhile (!Text.isBlank ·) with
  | [] => return .instruction body ""
  | blank :: _ =>
      let stop := Text.byteLength target
      let target ← cut body 0 stop
      let data ← cut body (stop + blank.utf8Size) body.utf8ByteSize
      return .instruction target (Text.trimmed data)

/-! ## Markup -/

def ignoredTurn (depth : Nat) : ByteScan (Nat ⊕ Unit) := do
  if ← isDone then fail .unterminatedIgnore
  else if ← eat "<![" then return .inl (depth + 1)
  else if ← eat "]]>" then
    if depth - 1 = 0 then return .inr ()
    else return .inl (depth - 1)
  else
    forward (((← rest).toList.head?.map Char.utf8Size).getD 1)
    return .inl depth

def ignored : ByteScan Unit := loop ignoredTurn 1

def conditional (depth : Nat) : ByteScan (List Event × Nat) := do
  let _ ← space
  if ← eat "INCLUDE" then
    let _ ← space
    expect "["
    return ([.startConditional true], depth + 1)
  else if ← eat "IGNORE" then
    let _ ← space
    expect "["
    ignored
    return ([.startConditional false, .endConditional], depth)
  else fail .expectedSectionKeyword

def sectionEnd (depth : Nat) : ByteScan (List Event × Nat) :=
  if depth = 0 then fail .unbalancedSectionEnd
  else return ([.endConditional], depth - 1)

def parameterReference : ByteScan Event := do
  let referenced ← name
  expect ";"
  return .parameterReference (parameterName referenced)

def single (depth : Nat) (x : ByteScan Event) : ByteScan (List Event × Nat) := do
  return ([← x], depth)

def markup (base : Option String) (depth : Nat) : ByteScan (List Event × Nat) := do
  if ← eat "<!--" then single depth (Event.comment <$> upTo "-->")
  else if ← eat "<?" then single depth instruction
  else if ← eat "<![" then conditional depth
  else if ← eat "]]>" then sectionEnd depth
  else if ← eat "<!ENTITY" then single depth (entity base)
  else if ← eat "<!ELEMENT" then single depth element
  else if ← eat "<!ATTLIST" then single depth attlist
  else if ← eat "<!NOTATION" then single depth notationDecl
  else if ← eat "%" then single depth parameterReference
  else fail .unexpectedMarkup

def scanTurn (base : Option String) (s : List Event × Nat) :
    ByteScan ((List Event × Nat) ⊕ List Event) := do
  let _ ← space
  if ← isDone then
    if s.2 = 0 then return .inr s.1
    else throw (.fault .openSection)
  else
    let (events, depth) ← markup base s.2
    return .inl (s.1 ++ events, depth)

def scan (base : Option String) : ByteScan (List Event) := loop (scanTurn base) ([], 0)

/-! ## DOCTYPE declarations -/

/-- Where a search among the bytes for the end of an internal subset stands. -/
inductive ByteState where
  | plain
  | comment
  | literal (quote : UInt8)
  deriving DecidableEq, Repr

/-- The byte offset of the bracket that closes an internal subset, counted from `i`. -/
def subsetEndOffsetFrom? (state : ByteState) (i : Nat) (s : List UInt8) : Option Nat :=
  match state, s with
  | _, [] => none
  | .comment, b :: rest =>
      if (Text.bytes "-->").isPrefixOf (b :: rest) then
        subsetEndOffsetFrom? .plain (i + 3) (rest.drop 2)
      else subsetEndOffsetFrom? .comment (i + 1) rest
  | .literal quote, b :: rest =>
      subsetEndOffsetFrom? (if b = quote then .plain else .literal quote) (i + 1) rest
  | .plain, b :: rest =>
      if (Text.bytes "<!--").isPrefixOf (b :: rest) then
        subsetEndOffsetFrom? .comment (i + 4) (rest.drop 3)
      else if b = '"'.toUInt8 ∨ b = '\''.toUInt8 then
        subsetEndOffsetFrom? (.literal b) (i + 1) rest
      else if b = ']'.toUInt8 then some i
      else subsetEndOffsetFrom? .plain (i + 1) rest
termination_by s.length
decreasing_by all_goals simp; try omega

def subsetEndOffset? (text : String) (start : Nat) : Option Nat :=
  subsetEndOffsetFrom? .plain start ((Text.bytes text).drop start)

def subset : ByteScan String := do
  let text ← read
  let start := (← get).offset
  match subsetEndOffset? text start with
  | none => fail .unterminatedSubset
  | some stop =>
      let passed ← cut text start stop
      place (stop + 1)
      return passed

def externalSubset : ByteScan (Option String × Option String) := do
  if ← at? "SYSTEM" <||> at? "PUBLIC" then
    let ids ← externalId false
    let _ ← space
    return ids
  else return (none, none)

def internalSubset : ByteScan (Option String) := do
  if ← eat "[" then
    let text ← subset
    let _ ← space
    return some text
  else return none

def doctype : ByteScan Doctype := do
  let _ ← space
  let root ← name
  let _ ← space
  let (publicId, systemId) ← externalSubset
  let subset ← internalSubset
  if ← isDone then return { root, publicId, systemId, subset }
  else fail .unexpectedAfterDoctype

/-- The parts of a DOCTYPE declaration, without the blanks and the keyword in front. -/
def splitDoctype : ByteScan Doctype := do
  let trimmed := String.ofList (Text.trimStart (← read).toList)
  let keyword := Text.slice? trimmed 0 7
  let body ←
    if keyword.any fun head => head.toList.map Char.toUpper = "DOCTYPE".toList then
      cut trimmed 7 trimmed.utf8ByteSize
    else pure trimmed
  withReader (fun _ => body) doctype

end ByteScan

end XmlBounds.Dtd
