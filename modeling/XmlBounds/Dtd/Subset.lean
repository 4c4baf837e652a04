import XmlBounds.Dtd.CharRef
import XmlBounds.Dtd.Cursor
import XmlBounds.Dtd.Event

/-!
# Scanning DTD text

The text of a subset is a sequence of declarations, comments, instructions, references to
parameter entities and conditional sections, with white space between them. Content models and
attribute definitions are kept as they are written. Each step passes at least one character
(`Scan.progresses_markup`), so the scan of every text ends.
-/

namespace XmlBounds.Dtd

namespace Scan

/-- A test that fails where no white space stands before. -/
def afterSpace (test : Scan Bool) : Scan Bool := do
  if ← space then test else return false

theorem Reads.afterSpace {test : Scan Bool} (h : Reads test) : Reads (afterSpace test) :=
  .bind .space fun _ => .ite h (.pure _)

/-- The identifiers after `SYSTEM` or `PUBLIC`. A notation may have a public one alone. -/
def externalId (systemIsOptional : Bool) : Scan (Option String × Option String) := do
  if ← eat "SYSTEM" then
    requireSpace
    return (none, some (← literal))
  else if ← eat "PUBLIC" then
    requireSpace
    let publicId ← literal
    if ← afterSpace atQuote then return (some publicId, some (← literal))
    else if systemIsOptional then return (some publicId, none)
    else fail .expectedSystemLiteral
  else fail .expectedExternalId

theorem Reads.externalId (systemIsOptional : Bool) : Reads (externalId systemIsOptional) := by
  refine .bind (.eat _) fun _ => .ite ?_ (.bind (.eat _) fun _ => .ite ?_ (Progresses.fail _).reads)
  · exact .bind .requireSpace fun _ => .bind .literal fun _ => .pure _
  · exact .bind .requireSpace fun _ => .bind .literal fun _ => .bind (.afterSpace .atQuote) fun _ =>
      .ite (.bind .literal fun _ => .pure _) (.ite (.pure _) (Progresses.fail _).reads)

def close : Scan Unit := do
  let _ ← space
  expect ">"

theorem Reads.close : Reads close := .bind .space fun _ => .expect _

/-- The name of a declared entity, with its percent sign if it is a parameter entity. -/
def entityName : Scan String := do
  requireSpace
  if ← eat "%" then
    requireSpace
    return parameterName (← name)
  else name

theorem Reads.entityName : Reads entityName :=
  .bind .requireSpace fun _ => .bind (.eat _) fun _ =>
    .ite (.bind .requireSpace fun _ => .bind .name fun _ => .pure _) .name

/-- The replacement text of an entity: its literal with the character references replaced. -/
def replacement (text : String) : Scan String := fun c =>
  (expandCharRefs text).map fun expanded => (expanded, c)

theorem Reads.replacement (text : String) : Reads (replacement text) := by
  intro c a c' h
  unfold Scan.replacement at h
  cases hx : expandCharRefs text with
  | error e => simp [hx, Except.map] at h
  | ok s =>
      simp only [hx, Except.map, Except.ok.injEq, Prod.mk.injEq] at h
      exact ⟨[], h.2 ▸ c.passes_refl⟩

/-- What is left of the declaration of an entity with external identifiers. -/
def externalEntity (base : Option String) (entity : String) : Scan Event := do
  let (publicId, systemId) ← externalId false
  let systemId := systemId.getD ""
  if ← afterSpace (eat "NDATA") then
    if isParameterName entity then fail .unparsedParameter
    else
      requireSpace
      let notationName ← name
      close
      return .unparsedEntity entity publicId systemId notationName
  else
    expect ">"
    return .externalEntity entity publicId systemId base

theorem Reads.externalEntity (base : Option String) (entity : String) :
    Reads (externalEntity base entity) :=
  .bind (.externalId _) fun _ => .bind (.afterSpace (.eat _)) fun _ =>
    .ite
      (.ite (Progresses.fail _).reads
        (.bind .requireSpace fun _ => .bind .name fun _ => .bind .close fun _ => .pure _))
      (.bind (.expect _) fun _ => .pure _)

def entity (base : Option String) : Scan Event := do
  let entity ← entityName
  requireSpace
  if ← atQuote then
    let text ← literal
    close
    return .internalEntity entity (← replacement text)
  else externalEntity base entity

theorem Reads.entity (base : Option String) : Reads (entity base) :=
  .bind .entityName fun _ => .bind .requireSpace fun _ => .bind .atQuote fun _ =>
    .ite
      (.bind .literal fun _ => .bind .close fun _ => .bind (.replacement _) fun _ => .pure _)
      (.externalEntity _ _)

def element : Scan Event := do
  requireSpace
  let declared ← name
  return .element declared (← upToClose)

theorem Reads.element : Reads element :=
  .bind .requireSpace fun _ => .bind .name fun _ => .bind .upToClose fun _ => .pure _

def attlist : Scan Event := do
  requireSpace
  let declared ← name
  return .attlist declared (← upToClose)

theorem Reads.attlist : Reads attlist :=
  .bind .requireSpace fun _ => .bind .name fun _ => .bind .upToClose fun _ => .pure _

def notationDecl : Scan Event := do
  requireSpace
  let declared ← name
  let _ ← space
  let (publicId, systemId) ← externalId true
  close
  return .notationDecl declared publicId systemId

theorem Reads.notationDecl : Reads notationDecl :=
  .bind .requireSpace fun _ => .bind .name fun _ => .bind .space fun _ =>
    .bind (.externalId _) fun _ => .bind .close fun _ => .pure _

/-- What follows `<?`: a target, and data after the first blank. -/
def instruction : Scan Event := do
  let body := (← upTo "?>").toList
  let target := body.takeWhile (!Text.isBlank ·)
  let data := (body.dropWhile (!Text.isBlank ·)).drop 1
  return .instruction (String.ofList target) (String.ofList (Text.trim data))

theorem Reads.instruction : Reads instruction := .bind (.upTo _) fun _ => .pure _

/-- How many characters an ignored section takes with the `]]>` that closes it, counted from `n`;
`depth` further sections are open inside it. -/
def ignoredFrom? : (depth n : Nat) → List Char → Option Nat
  | depth, n, '<' :: '!' :: '[' :: rest => ignoredFrom? (depth + 1) (n + 3) rest
  | 0, n, ']' :: ']' :: '>' :: _ => some (n + 3)
  | depth + 1, n, ']' :: ']' :: '>' :: rest => ignoredFrom? depth (n + 3) rest
  | depth, n, _ :: rest => ignoredFrom? depth (n + 1) rest
  | _, _, [] => none

/-- Passes the rest of an ignored section. -/
def ignored : Scan Unit := do
  let text ← rest
  match ignoredFrom? 0 0 text with
  | some n =>
      let _ ← take n
  | none =>
      let _ ← take text.length
      fail .unterminatedIgnore

theorem Reads.ignored : Reads ignored := by
  refine .bind .rest fun text => ?_
  split
  · exact .bind (.take _) fun _ => .pure _
  · exact .bind (.take _) fun _ => (Progresses.fail _).reads

/-- What follows `<![`: the events, and how many sections are open after it. -/
def conditional (depth : Nat) : Scan (List Event × Nat) := do
  let _ ← space
  if ← eat "INCLUDE" then
    let _ ← space
    expect "["
    return ([.startConditional true], depth + 1)
  else if ← eat "IGNORE" then
    let _ ← space
    expect "["
    ignored
    return ([.startConditional false, .endConditional], depth)
  else fail .expectedSectionKeyword

theorem Reads.conditional (depth : Nat) : Reads (conditional depth) :=
  .bind .space fun _ => .bind (.eat _) fun _ =>
    .ite (.bind .space fun _ => .bind (.expect _) fun _ => .pure _)
      (.bind (.eat _) fun _ =>
        .ite
          (.bind .space fun _ => .bind (.expect _) fun _ => .bind .ignored fun _ => .pure _)
          (Progresses.fail _).reads)

/-- What follows `]]>`: the end of the section last opened. -/
def sectionEnd (depth : Nat) : Scan (List Event × Nat) :=
  if depth = 0 then fail .unbalancedSectionEnd
  else return ([.endConditional], depth - 1)

theorem Reads.sectionEnd (depth : Nat) : Reads (sectionEnd depth) :=
  .ite (Progresses.fail _).reads (.pure _)

def parameterReference : Scan Event := do
  let referenced ← name
  expect ";"
  return .parameterReference (parameterName referenced)

theorem Reads.parameterReference : Reads parameterReference :=
  .bind .name fun _ => .bind (.expect _) fun _ => .pure _

/-- A single event, which opens and closes no section. -/
def single (depth : Nat) (x : Scan Event) : Scan (List Event × Nat) := do
  return ([← x], depth)

theorem Reads.single {x : Scan Event} (depth : Nat) (h : Reads x) : Reads (single depth x) :=
  .bind h fun _ => .pure _

/-- The next markup: its events, and how many sections are open after it. -/
def markup (base : Option String) (depth : Nat) : Scan (List Event × Nat) := do
  if ← eat "<!--" then single depth (Event.comment <$> upTo "-->")
  else if ← eat "<?" then single depth instruction
  else if ← eat "<![" then conditional depth
  else if ← eat "]]>" then sectionEnd depth
  else if ← eat "<!ENTITY" then single depth (entity base)
  else if ← eat "<!ELEMENT" then single depth element
  else if ← eat "<!ATTLIST" then single depth attlist
  else if ← eat "<!NOTATION" then single depth notationDecl
  else if ← eat "%" then single depth parameterReference
  else fail .unexpectedMarkup

theorem progresses_markup (base : Option String) (depth : Nat) :
    Progresses (markup base depth) := by
  refine .choose (by simp) (.single _ (.bind (.upTo _) fun _ => .pure _)) ?_
  refine .choose (by simp) (.single _ .instruction) ?_
  refine .choose (by simp) (.conditional _) ?_
  refine .choose (by simp) (.sectionEnd _) ?_
  refine .choose (by simp) (.single _ (.entity _)) ?_
  refine .choose (by simp) (.single _ .element) ?_
  refine .choose (by simp) (.single _ .attlist) ?_
  refine .choose (by simp) (.single _ .notationDecl) ?_
  exact .choose (by simp) (.single _ .parameterReference) (.fail _)

end Scan

/-- The place after the white space that the text begins with. -/
def Cursor.afterSpace (c : Cursor) : Cursor := c.advance (c.rest.takeWhile Text.isSpace).length

theorem Cursor.length_afterSpace (c : Cursor) : c.afterSpace.rest.length ≤ c.rest.length := by
  simp [afterSpace, advance]

/-- The events of the text from a place on, `depth` sections being open there. -/
def scanFrom (base : Option String) (depth : Nat) (c : Cursor) : Except Fault (List Event) :=
  if c.afterSpace.rest = [] then
    if depth = 0 then .ok [] else .error .openSection
  else
    match _h : Scan.markup base depth c.afterSpace with
    | .error fault => .error fault
    | .ok ((events, depth'), c') => do return events ++ (← scanFrom base depth' c')
termination_by c.rest.length
decreasing_by
  obtain ⟨taken, hne, hp⟩ := Scan.progresses_markup base depth _ _ _ _h
  have hlen := hp.length_le
  have hpos := List.length_pos_iff.mpr hne
  have hle := c.length_afterSpace
  omega

/-- The events of a subset. External entities are relative to `base`. -/
def scan (text : String) (base : Option String) : Except Fault (List Event) :=
  scanFrom base 0 (.start text.toList)

end XmlBounds.Dtd
