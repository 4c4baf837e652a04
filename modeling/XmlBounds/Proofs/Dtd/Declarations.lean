import XmlBounds.Proofs.Dtd.Recognition
import XmlBounds.Proofs.Dtd.References

/-!
# Declarations of entities, written and scanned

Entities that are declared one after another are scanned as just these entities, with the texts and
identifiers that were declared, whatever the white space, the quotes and the spelling of the texts.
-/

namespace XmlBounds.Dtd

/-! ## Written declarations -/

/-- What a declaration says of an entity. -/
inductive DeclaredEntity where
  | internal (isParameter : Bool) (name text : String)
  | external (isParameter : Bool) (name : String) (publicId : Option String) (systemId : String)
  | unparsed (name : String) (publicId : Option String) (systemId notationName : String)
  deriving DecidableEq, Repr

def declaredName (isParameter : Bool) (name : String) : String :=
  if isParameter then parameterName name else name

/-- The event of a declaration that is scanned with a base. -/
def DeclaredEntity.event (base : Option String) : DeclaredEntity → Event
  | internal isParameter name text => .internalEntity (declaredName isParameter name) text
  | external isParameter name publicId systemId =>
      .externalEntity (declaredName isParameter name) publicId systemId base
  | unparsed name publicId systemId notationName =>
      .unparsedEntity name publicId systemId notationName

/-- The name of an entity, after the keyword of its declaration and the sign of a parameter
entity. -/
inductive WritesHead : Bool → String → List Char → Prop where
  | general {name : String} {gap : List Char} : IsGap gap → IsName name.toList →
      WritesHead false name (gap ++ name.toList)
  | parameter {name : String} {gap gap' : List Char} : IsGap gap → IsGap gap' →
      IsName name.toList → WritesHead true name (gap ++ "%".toList ++ gap' ++ name.toList)

/-- The written forms of a declaration. -/
inductive WritesDecl : DeclaredEntity → List Char → Prop where
  | internal {isParameter : Bool} {name text : String} {quote : Char}
      {head gap spelling back : List Char} : WritesHead isParameter name head → IsGap gap →
      Scan.isQuote quote = true → Spells quote text.toList spelling → IsSpaces back →
      WritesDecl (.internal isParameter name text)
        ("<!ENTITY".toList ++ head ++ gap ++ (quote :: spelling ++ [quote]) ++ back ++ ">".toList)
  | external {isParameter : Bool} {name systemId : String} {publicId : Option String}
      {head gap ids back : List Char} : WritesHead isParameter name head → IsGap gap →
      WritesIds publicId (some systemId) ids → IsSpaces back →
      WritesDecl (.external isParameter name publicId systemId)
        ("<!ENTITY".toList ++ head ++ gap ++ ids ++ back ++ ">".toList)
  | unparsed {name systemId notationName : String} {publicId : Option String}
      {head gap ids gap₁ gap₂ back : List Char} : WritesHead false name head → IsGap gap →
      WritesIds publicId (some systemId) ids → IsGap gap₁ → IsGap gap₂ →
      IsName notationName.toList → IsSpaces back →
      WritesDecl (.unparsed name publicId systemId notationName)
        ("<!ENTITY".toList ++ head ++ gap ++ ids ++ gap₁ ++ "NDATA".toList ++ gap₂ ++
          notationName.toList ++ back ++ ">".toList)

/-- Declarations one after another, with white space between or without. -/
inductive WritesDecls : List DeclaredEntity → List Char → Prop where
  | nil {spaces : List Char} : IsSpaces spaces → WritesDecls [] spaces
  | cons {decl : DeclaredEntity} {decls : List DeclaredEntity} {spaces s t : List Char} :
      IsSpaces spaces → WritesDecl decl s → WritesDecls decls t →
      WritesDecls (decl :: decls) (spaces ++ s ++ t)

/-! ## Scanning -/

theorem WritesHead.writesEntityName {isParameter : Bool} {name : String} {head : List Char}
    (h : WritesHead isParameter name head) :
    WritesEntityName (declaredName isParameter name) head := by
  cases h with
  | general hgap hname =>
      have hwritten := WritesEntityName.general hgap hname
      rwa [String.ofList_toList] at hwritten
  | parameter hgap hgap' hname =>
      have hwritten := WritesEntityName.parameter hgap hgap' hname
      rwa [String.ofList_toList] at hwritten

theorem WritesDecl.writesEvent {decl : DeclaredEntity} {s : List Char} (h : WritesDecl decl s)
    (base : Option String) : WritesEvent base (decl.event base) s := by
  cases h with
  | @internal _ _ text quote _ _ spelling _ hhead hgap hquote hspelling hback =>
      have hliteral := Scan.writesLiteral_ofList hquote (hspelling.notMem hquote)
      have hreplaced : expandCharRefs (String.ofList spelling) = .ok text := by
        rw [expandCharRefs, String.toList_ofList, hspelling.expandChars_eq, Except.map,
          String.ofList_toList]
      exact .internalEntity hhead.writesEntityName hgap hliteral hreplaced hback
  | external hhead hgap hids hback =>
      exact .externalEntity hhead.writesEntityName hgap hids hback
  | @unparsed name _ notationName _ _ _ _ _ _ _ hhead hgap hids hgap₁ hgap₂ hnotationName hback =>
      cases hhead with
      | @general _ gap' hgap' hname =>
          have hwritten : WritesEvent base _ _ := .unparsedEntity hgap' hname hgap hids hgap₁
            hgap₂ hnotationName hback
          rw [String.ofList_toList, String.ofList_toList] at hwritten
          rwa [← List.append_assoc "<!ENTITY".toList]

theorem WritesDecls.writesSubset {decls : List DeclaredEntity} {s : List Char}
    (h : WritesDecls decls s) (base : Option String) :
    WritesSubset base 0 (decls.map (·.event base)) 0 s := by
  induction h with
  | nil hspaces =>
      have hnone : WritesSubset base 0 [] 0 (_ ++ []) := .of_spaces hspaces .nil
      rwa [List.append_nil] at hnone
  | cons hspaces hdecl _ ih =>
      rw [List.append_assoc]
      exact .of_spaces hspaces (.markup (.event (hdecl.writesEvent base)) ih)

/-! ## What can be written -/

/-- A text that one of the quotes does not occur in. -/
def HasFreeQuote (text : String) : Prop :=
  ∃ quote, Scan.isQuote quote = true ∧ quote ∉ text.toList

/-- The names are names and the identifiers can stand between quotes. The text of an internal entity
is not restricted. -/
def DeclaredEntity.IsWritable : DeclaredEntity → Prop
  | internal _ name _ => IsName name.toList
  | external _ name publicId systemId =>
      IsName name.toList ∧ (∀ id ∈ publicId, HasFreeQuote id) ∧ HasFreeQuote systemId
  | unparsed name publicId systemId notationName =>
      IsName name.toList ∧ IsName notationName.toList ∧ (∀ id ∈ publicId, HasFreeQuote id) ∧
        HasFreeQuote systemId

theorem isGap_blank : IsGap [' '] := ⟨by decide, List.all_eq_true.mp (by decide)⟩

theorem exists_writesHead (isParameter : Bool) {name : String} (h : IsName name.toList) :
    ∃ head, WritesHead isParameter name head := by
  cases isParameter with
  | false => exact ⟨_, .general isGap_blank h⟩
  | true => exact ⟨_, .parameter isGap_blank isGap_blank h⟩

theorem HasFreeQuote.exists_literal {text : String} (h : HasFreeQuote text) :
    ∃ literal, WritesLiteral text literal := by
  obtain ⟨quote, hquote, hnot⟩ := h
  exact ⟨_, .mk hquote hnot⟩

theorem exists_writesIds {publicId : Option String} {systemId : String}
    (hpublic : ∀ id ∈ publicId, HasFreeQuote id) (hsystem : HasFreeQuote systemId) :
    ∃ ids, WritesIds publicId (some systemId) ids := by
  obtain ⟨literal, hliteral⟩ := hsystem.exists_literal
  cases publicId with
  | none => exact ⟨_, .systemOnly isGap_blank hliteral⟩
  | some id =>
      obtain ⟨literal', hliteral'⟩ := (hpublic id rfl).exists_literal
      exact ⟨_, .publicAndSystem isGap_blank isGap_blank hliteral' hliteral⟩

theorem DeclaredEntity.IsWritable.exists_writesDecl {decl : DeclaredEntity} (h : decl.IsWritable) :
    ∃ s, WritesDecl decl s := by
  have hnone : IsSpaces [] := by simp [IsSpaces]
  cases decl with
  | internal isParameter name text =>
      obtain ⟨head, hhead⟩ := exists_writesHead isParameter h
      obtain ⟨spelling, hspelling⟩ := exists_spells '"' text.toList
      exact ⟨_, .internal hhead isGap_blank (by decide) hspelling hnone⟩
  | external isParameter name publicId systemId =>
      obtain ⟨hname, hpublic, hsystem⟩ := h
      obtain ⟨head, hhead⟩ := exists_writesHead isParameter hname
      obtain ⟨ids, hids⟩ := exists_writesIds hpublic hsystem
      exact ⟨_, .external hhead isGap_blank hids hnone⟩
  | unparsed name publicId systemId notationName =>
      obtain ⟨hname, hnotationName, hpublic, hsystem⟩ := h
      obtain ⟨head, hhead⟩ := exists_writesHead false hname
      obtain ⟨ids, hids⟩ := exists_writesIds hpublic hsystem
      exact ⟨_, .unparsed hhead isGap_blank hids isGap_blank isGap_blank hnotationName hnone⟩

theorem exists_writesDecls {decls : List DeclaredEntity} (h : ∀ decl ∈ decls, decl.IsWritable) :
    ∃ s, WritesDecls decls s := by
  induction decls with
  | nil => exact ⟨[], .nil (by simp [IsSpaces])⟩
  | cons decl decls ih =>
      obtain ⟨s, hs⟩ := (h decl List.mem_cons_self).exists_writesDecl
      obtain ⟨t, ht⟩ := ih fun d hd => h d (List.mem_cons_of_mem decl hd)
      exact ⟨_, @WritesDecls.cons _ _ [] _ _ (by simp [IsSpaces]) hs ht⟩

/-- Every list of such declarations is the scan of some text. -/
theorem exists_scan_eq {decls : List DeclaredEntity} (h : ∀ decl ∈ decls, decl.IsWritable)
    (base : Option String) : ∃ text, scan text base = .ok (decls.map (·.event base)) := by
  obtain ⟨s, hs⟩ := exists_writesDecls h
  refine ⟨String.ofList s, scan_eq_ok_iff.mpr ?_⟩
  rw [String.toList_ofList]
  exact hs.writesSubset base

/-! ## The round trip -/

/-- Written declarations of entities are scanned as what they declare, in their order. -/
theorem scan_of_writesDecls {decls : List DeclaredEntity} {text : String}
    (h : WritesDecls decls text.toList) (base : Option String) :
    scan text base = .ok (decls.map (·.event base)) := scan_eq_ok_iff.mpr (h.writesSubset base)

/-- A quote and an ampersand are spelled in the text of a parameter entity. -/
theorem scan_of_writesDecls_mixed :
    WritesDecls [.internal true "p" "'&\"", .external false "q" (some "x") "y",
          .unparsed "u" none "s" "g"]
        ("<!ENTITY % p \"'&#x26;&#034;\">\n" ++ "<!ENTITY\tq PUBLIC 'x' \"y\" >" ++
          "<!ENTITY u SYSTEM 's' NDATA g>").toList ∧
      scan ("<!ENTITY % p \"'&#x26;&#034;\">\n" ++ "<!ENTITY\tq PUBLIC 'x' \"y\" >" ++
          "<!ENTITY u SYSTEM 's' NDATA g>") (some "b") =
        .ok [.internalEntity "%p" "'&\"", .externalEntity "q" (some "x") "y" (some "b"),
          .unparsedEntity "u" none "s" "g"] := by
  have hnone : IsSpaces [] := by simp [IsSpaces]
  have hnewline : IsSpaces ['\n'] := by simp [IsSpaces, Text.isSpace]
  have htab : IsGap ['\t'] := ⟨by decide, List.all_eq_true.mp (by decide)⟩
  have hname (c : Char) (hc : Scan.isNameStart c = true) : IsName [c] := .mk hc (by simp)
  have hampersand : SpellsChar '&' "&#x26;".toList := by
    have hdigits : IsNumeral 16 (2 * 16 + 6) (['2'] ++ ['6']) :=
      .more (.digit (by decide) (.inl rfl)) (by decide) (.inl rfl)
    exact @SpellsChar.hexadecimal '&' _ hdigits
  have hquote : SpellsChar '"' "&#034;".toList := by
    have hdigits : IsNumeral 10 ((0 * 10 + 3) * 10 + 4) (['0'] ++ ['3'] ++ ['4']) :=
      .more (.more (.digit (by decide) (.inl rfl)) (by decide) (.inl rfl)) (by decide) (.inl rfl)
    exact @SpellsChar.decimal '"' _ hdigits
  have hspelling : Spells '"' "'&\"".toList "'&#x26;&#034;".toList :=
    .literally (by decide) (by decide) (.reference hampersand (.reference hquote .nil))
  have hfirst : WritesDecl (.internal true "p" "'&\"") "<!ENTITY % p \"'&#x26;&#034;\">".toList :=
    .internal (@WritesHead.parameter "p" _ _ isGap_blank isGap_blank (hname 'p' (by decide)))
      isGap_blank (by decide) hspelling hnone
  have hsecond : WritesDecl (.external false "q" (some "x") "y")
      "<!ENTITY\tq PUBLIC 'x' \"y\" >".toList :=
    .external (@WritesHead.general "q" _ htab (hname 'q' (by decide))) isGap_blank
      (.publicAndSystem isGap_blank isGap_blank (@WritesLiteral.mk '\'' "x" (by decide) (by decide))
        (@WritesLiteral.mk '"' "y" (by decide) (by decide))) isGap_blank.spaces
  have hnotationName : IsName "g".toList := hname 'g' (by decide)
  have hthird : WritesDecl (.unparsed "u" none "s" "g") "<!ENTITY u SYSTEM 's' NDATA g>".toList :=
    .unparsed (@WritesHead.general "u" _ isGap_blank (hname 'u' (by decide))) isGap_blank
      (.systemOnly isGap_blank (@WritesLiteral.mk '\'' "s" (by decide) (by decide))) isGap_blank
      isGap_blank hnotationName hnone
  have hwritten : WritesDecls _ ([] ++ _ ++ (['\n'] ++ _ ++ ([] ++ _ ++ []))) :=
    .cons hnone hfirst (.cons hnewline hsecond (.cons hnone hthird (.nil hnone)))
  have h : WritesDecls [.internal true "p" "'&\"", .external false "q" (some "x") "y",
        .unparsed "u" none "s" "g"]
      ("<!ENTITY % p \"'&#x26;&#034;\">\n" ++ "<!ENTITY\tq PUBLIC 'x' \"y\" >" ++
        "<!ENTITY u SYSTEM 's' NDATA g>").toList := by
    simpa using hwritten
  exact ⟨h, scan_of_writesDecls h (some "b")⟩

end XmlBounds.Dtd
