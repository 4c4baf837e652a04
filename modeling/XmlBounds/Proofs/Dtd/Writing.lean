import XmlBounds.Proofs.Dtd.Splitting

/-!
# DTD text as it is written

The written forms of what a subset may contain. A subset is a row of markup with white space
between: declarations, comments, instructions, references to parameter entities, and the marks of
conditional sections. The forms say which texts stand for which events, without saying how a text is
read.
-/

namespace XmlBounds.Dtd

/-- White space, or nothing. -/
def IsSpaces (s : List Char) : Prop := ∀ c ∈ s, Text.isSpace c = true

/-- A text in which the characters of a class stand in literals only. -/
inductive QuotesAll (p : Char → Prop) : List Char → Prop where
  | nil : QuotesAll p []
  | plain {c : Char} {s : List Char} : Scan.isQuote c = false → ¬ p c → QuotesAll p s →
      QuotesAll p (c :: s)
  | literal {text : String} {literal s : List Char} : WritesLiteral text literal → QuotesAll p s →
      QuotesAll p (literal ++ s)

/-- A text whose section ends close sections that are opened before them, `depth` of them before
the text and all others in it. -/
inductive Balances : (depth : Nat) → List Char → Prop where
  | nil : Balances 0 []
  | opening {depth : Nat} {s : List Char} : Balances (depth + 1) s →
      Balances depth ("<![".toList ++ s)
  | closing {depth : Nat} {s : List Char} : Balances depth s →
      Balances (depth + 1) ("]]>".toList ++ s)
  | other {depth : Nat} {c : Char} {s : List Char} : ¬ "<![".toList <+: c :: s →
      ¬ "]]>".toList <+: c :: s → Balances depth s → Balances depth (c :: s)

/-- The name of an entity, after the keyword of its declaration. -/
inductive WritesEntityName : String → List Char → Prop where
  | general {gap name : List Char} : IsGap gap → IsName name →
      WritesEntityName (String.ofList name) (gap ++ name)
  | parameter {gap gap' name : List Char} : IsGap gap → IsGap gap' → IsName name →
      WritesEntityName (parameterName (String.ofList name)) (gap ++ "%".toList ++ gap' ++ name)

/-- The identifiers of a notation: a public one may stand alone. -/
inductive WritesNotationIds : Option String → Option String → List Char → Prop where
  | both {publicId : Option String} {systemId : String} {ids : List Char} :
      WritesIds publicId (some systemId) ids → WritesNotationIds publicId (some systemId) ids
  | publicOnly {publicId : String} {gap literal : List Char} : IsGap gap →
      WritesLiteral publicId literal →
      WritesNotationIds (some publicId) none ("PUBLIC".toList ++ gap ++ literal)

/-- What stands in an instruction: a target, and data after the first blank. -/
inductive WritesInstruction : String → String → List Char → Prop where
  | bare {target : List Char} : (∀ c ∈ target, Text.isBlank c = false) →
      WritesInstruction (String.ofList target) "" target
  | withData {target data : List Char} {blank : Char} : (∀ c ∈ target, Text.isBlank c = false) →
      Text.isBlank blank = true →
      WritesInstruction (String.ofList target) (String.ofList (Text.trim data))
        (target ++ blank :: data)

/-- The written forms of an event that stands for itself. The external entities are relative to the
base. -/
inductive WritesEvent (base : Option String) : Event → List Char → Prop where
  | comment {body : List Char} : ¬ "-->".toList <:+: body →
      WritesEvent base (.comment (String.ofList body)) ("<!--".toList ++ body ++ "-->".toList)
  | instruction {target data : String} {body : List Char} : ¬ "?>".toList <:+: body →
      WritesInstruction target data body →
      WritesEvent base (.instruction target data) ("<?".toList ++ body ++ "?>".toList)
  | internalEntity {name text replaced : String} {head gap literal back : List Char} :
      WritesEntityName name head → IsGap gap → WritesLiteral text literal →
      expandCharRefs text = .ok replaced → IsSpaces back →
      WritesEvent base (.internalEntity name replaced)
        ("<!ENTITY".toList ++ head ++ gap ++ literal ++ back ++ ">".toList)
  | externalEntity {name systemId : String} {publicId : Option String}
      {head gap ids back : List Char} : WritesEntityName name head → IsGap gap →
      WritesIds publicId (some systemId) ids → IsSpaces back →
      WritesEvent base (.externalEntity name publicId systemId base)
        ("<!ENTITY".toList ++ head ++ gap ++ ids ++ back ++ ">".toList)
  | unparsedEntity {systemId : String} {publicId : Option String}
      {gap name gap₁ ids gap₂ gap₃ notationName back : List Char} : IsGap gap → IsName name →
      IsGap gap₁ → WritesIds publicId (some systemId) ids → IsGap gap₂ → IsGap gap₃ →
      IsName notationName → IsSpaces back →
      WritesEvent base
        (.unparsedEntity (String.ofList name) publicId systemId (String.ofList notationName))
        ("<!ENTITY".toList ++ gap ++ name ++ gap₁ ++ ids ++ gap₂ ++ "NDATA".toList ++ gap₃ ++
          notationName ++ back ++ ">".toList)
  | element {gap name body : List Char} : IsGap gap → IsName name →
      Begins (!Scan.isNameChar ·) body → QuotesAll (· = '>') body →
      WritesEvent base (.element (String.ofList name) (String.ofList (Text.trim body)))
        ("<!ELEMENT".toList ++ gap ++ name ++ body ++ ">".toList)
  | attlist {gap name body : List Char} : IsGap gap → IsName name →
      Begins (!Scan.isNameChar ·) body → QuotesAll (· = '>') body →
      WritesEvent base (.attlist (String.ofList name) (String.ofList (Text.trim body)))
        ("<!ATTLIST".toList ++ gap ++ name ++ body ++ ">".toList)
  | notationDecl {publicId systemId : Option String} {gap name gap' ids back : List Char} :
      IsGap gap → IsName name → IsGap gap' → WritesNotationIds publicId systemId ids →
      IsSpaces back →
      WritesEvent base (.notationDecl (String.ofList name) publicId systemId)
        ("<!NOTATION".toList ++ gap ++ name ++ gap' ++ ids ++ back ++ ">".toList)
  | parameterReference {name : List Char} : IsName name →
      WritesEvent base (.parameterReference (parameterName (String.ofList name)))
        ("%".toList ++ name ++ ";".toList)

/-- The mark that begins a section, up to its bracket. -/
def sectionStart (keyword : String) (before after : List Char) : List Char :=
  "<![".toList ++ before ++ keyword.toList ++ after ++ "[".toList

/-- A section that is passed over. -/
def ignoredSection (before after body : List Char) : List Char :=
  sectionStart "IGNORE" before after ++ body ++ "]]>".toList

/-- The written forms of a piece of markup, where `depth` sections are open before it and `depth'`
after it. -/
inductive WritesMarkup (base : Option String) :
    (depth : Nat) → List Event → (depth' : Nat) → List Char → Prop where
  | event {depth : Nat} {e : Event} {s : List Char} : WritesEvent base e s →
      WritesMarkup base depth [e] depth s
  | included {depth : Nat} {before after : List Char} : IsSpaces before → IsSpaces after →
      WritesMarkup base depth [.startConditional true] (depth + 1)
        (sectionStart "INCLUDE" before after)
  | ignored {depth : Nat} {before after body : List Char} : IsSpaces before → IsSpaces after →
      Balances 0 body →
      WritesMarkup base depth [.startConditional false, .endConditional] depth
        (ignoredSection before after body)
  | sectionEnd {depth : Nat} :
      WritesMarkup base (depth + 1) [.endConditional] depth "]]>".toList

/-- A row of markup with white space between. -/
inductive WritesSubset (base : Option String) :
    (depth : Nat) → List Event → (depth' : Nat) → List Char → Prop where
  | nil {depth : Nat} : WritesSubset base depth [] depth []
  | space {depth depth' : Nat} {events : List Event} {c : Char} {s : List Char} :
      Text.isSpace c = true → WritesSubset base depth events depth' s →
      WritesSubset base depth events depth' (c :: s)
  | markup {depth depth' depth'' : Nat} {first later : List Event} {s t : List Char} :
      WritesMarkup base depth first depth' s → WritesSubset base depth' later depth'' t →
      WritesSubset base depth (first ++ later) depth'' (s ++ t)

variable {base : Option String}

theorem WritesSubset.append {depth depth' depth'' : Nat} {events events' : List Event}
    {s t : List Char} (hs : WritesSubset base depth events depth' s)
    (ht : WritesSubset base depth' events' depth'' t) :
    WritesSubset base depth (events ++ events') depth'' (s ++ t) := by
  induction hs with
  | nil => exact ht
  | space hc _ ih => exact .space hc (ih ht)
  | markup hmarkup _ ih =>
      rw [List.append_assoc, List.append_assoc]
      exact .markup hmarkup (ih ht)

theorem WritesSubset.of_spaces {depth depth' : Nat} {events : List Event} {s t : List Char}
    (hs : IsSpaces s) (ht : WritesSubset base depth events depth' t) :
    WritesSubset base depth events depth' (s ++ t) := by
  induction s with
  | nil => exact ht
  | cons c s ih =>
      exact .space (hs c List.mem_cons_self) (ih fun d hd => hs d (List.mem_cons_of_mem c hd))

end XmlBounds.Dtd
