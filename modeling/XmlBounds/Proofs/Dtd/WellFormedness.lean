import XmlBounds.Proofs.Dtd.Recognition

/-!
# The events of a scanned text

The events that a text is scanned as fit together: sections are closed in the order in which they
are opened, what is ignored leaves no trace but its two marks, and each name has the sign of a
parameter entity just if the markup that it comes from has it.
-/

namespace XmlBounds.Dtd

/-! ## Properties of events -/

/-- Whether the event marks the start or the end of a section. -/
def Event.IsSectionMark : Event → Prop
  | .startConditional _ => True
  | .endConditional => True
  | _ => False

/-- Sections are closed in the order in which they are opened, and ignored ones are empty. -/
inductive Nested : List Event → Prop where
  | nil : Nested []
  | other {e : Event} {events : List Event} : ¬ e.IsSectionMark → Nested events →
      Nested (e :: events)
  | included {inside events : List Event} : Nested inside → Nested events →
      Nested (.startConditional true :: (inside ++ .endConditional :: events))
  | ignored {events : List Event} : Nested events →
      Nested (.startConditional false :: .endConditional :: events)

/-- What the event declares or refers to. -/
def Event.subject? : Event → Option String
  | .internalEntity name _ => some name
  | .externalEntity name _ _ _ => some name
  | .unparsedEntity name _ _ _ => some name
  | .element name _ => some name
  | .attlist name _ => some name
  | .notationDecl name _ _ => some name
  | .parameterReference name => some name
  | _ => none

/-- A name, with the sign of a parameter entity or without. -/
inductive IsSubject : String → Prop where
  | plain {name : List Char} : IsName name → IsSubject (String.ofList name)
  | parameter {name : List Char} : IsName name → IsSubject (parameterName (String.ofList name))

/-- The declaration of a parameter entity, or a reference to one. -/
inductive MarksParameter : List Char → Prop where
  | declaration {gap s : List Char} : IsGap gap →
      MarksParameter ("<!ENTITY".toList ++ (gap ++ '%' :: s))
  | reference {s : List Char} : MarksParameter ('%' :: s)

/-- A piece of the text that is scanned between the events before and after. -/
structure IsPlace (base : Option String) (text : String) (earlier later : List Event)
    (front piece back : List Char) : Prop where
  text_eq : text.toList = front ++ (piece ++ back)
  scanned : ∃ depth, WritesSubset base 0 earlier depth front ∧
    WritesSubset base depth later 0 back

/-- What can be relied on in the events of a text. -/
structure IsWellFormed (base : Option String) (text : String) (events : List Event) : Prop where
  nested : Nested events
  /-- An ignored section leaves its marks only, and may hold any other balanced body as well. -/
  ignored : ∀ earlier later, events = earlier ++ .startConditional false :: later →
    ∃ rest front before after body back, later = .endConditional :: rest ∧
      IsPlace base text earlier rest front (ignoredSection before after body) back ∧
      IsSpaces before ∧ IsSpaces after ∧ Balances 0 body ∧
      ∀ other, Balances 0 other →
        scan (String.ofList (front ++ (ignoredSection before after other ++ back))) base =
          .ok events
  subjects : ∀ e ∈ events, ∀ name ∈ e.subject?, IsSubject name
  /-- Each name comes from a piece of the text that has the sign of a parameter entity or not. -/
  marks : ∀ earlier e later, events = earlier ++ e :: later → ∀ name ∈ e.subject?,
    ∃ front piece back, IsPlace base text earlier later front piece back ∧
      WritesEvent base e piece ∧ (isParameterName name = true ↔ MarksParameter piece)
  unparsed : ∀ name publicId systemId notationName,
    .unparsedEntity name publicId systemId notationName ∈ events → isParameterName name = false
  bases : ∀ name publicId systemId base',
    .externalEntity name publicId systemId base' ∈ events → base' = base

variable {base : Option String}

/-! ## Sections -/

/-- Where some sections are open, each is closed before what follows. -/
def NestedFrom : (depth : Nat) → List Event → Prop
  | 0, events => Nested events
  | depth + 1, events => ∃ inside rest, events = inside ++ .endConditional :: rest ∧
      Nested inside ∧ NestedFrom depth rest

theorem NestedFrom.cons {depth : Nat} {front events : List Event}
    (hfront : ∀ {events}, Nested events → Nested (front ++ events)) (h : NestedFrom depth events) :
    NestedFrom depth (front ++ events) := by
  cases depth with
  | zero => exact hfront h
  | succ depth =>
      obtain ⟨inside, rest, rfl, hinside, hrest⟩ := h
      exact ⟨front ++ inside, rest, by rw [List.append_assoc], hfront hinside, hrest⟩

theorem WritesEvent.not_isSectionMark {e : Event} {s : List Char} (h : WritesEvent base e s) :
    ¬ e.IsSectionMark := by
  cases h <;> exact id

theorem WritesMarkup.nestedFrom {depth depth' : Nat} {first later : List Event} {s : List Char}
    (h : WritesMarkup base depth first depth' s) (hlater : NestedFrom depth' later) :
    NestedFrom depth (first ++ later) := by
  cases h with
  | event hevent => exact .cons (fun h => .other hevent.not_isSectionMark h) hlater
  | included =>
      obtain ⟨inside, rest, rfl, hinside, hrest⟩ := hlater
      have hsection {events : List Event} (h : Nested events) :
          Nested ((.startConditional true :: (inside ++ [.endConditional])) ++ events) := by
        simpa using Nested.included hinside h
      simpa using NestedFrom.cons hsection hrest
  | ignored => exact .cons (fun h => .ignored h) hlater
  | sectionEnd => exact ⟨[], later, rfl, .nil, hlater⟩

theorem WritesSubset.nestedFrom {depth depth' : Nat} {events : List Event} {s : List Char}
    (h : WritesSubset base depth events depth' s) (hend : depth' = 0) :
    NestedFrom depth events := by
  induction h with
  | nil =>
      subst hend
      exact .nil
  | space _ _ ih => exact ih hend
  | markup hmarkup _ ih => exact hmarkup.nestedFrom (ih hend)

/-! ## Places -/

/-- A piece of markup with what is written before it and behind it. -/
inductive WritesAround (base : Option String) (depth : Nat) (earlier first later : List Event)
    (depth' : Nat) : List Char → Prop where
  | mk {depth₁ depth₂ : Nat} {front piece back : List Char} :
      WritesSubset base depth earlier depth₁ front → WritesMarkup base depth₁ first depth₂ piece →
      WritesSubset base depth₂ later depth' back →
      WritesAround base depth earlier first later depth' (front ++ (piece ++ back))

theorem WritesMarkup.eq_nil_of_first {depth depth' : Nat} {earlier later : List Event} {e : Event}
    {s : List Char} (h : WritesMarkup base depth (earlier ++ e :: later) depth' s)
    (he : e ≠ .endConditional) : earlier = [] := by
  generalize hfirst : earlier ++ e :: later = first at h
  cases earlier with
  | nil => rfl
  | cons a earlier =>
      -- The event would be a second one, and that is always an end.
      have hsecond : e ∈ first.tail := by simp [← hfirst]
      cases h with
      | ignored => exact absurd (by simpa using hsecond) he
      | _ => simp at hsecond

/-- Each event but an end comes first of the events of some markup. -/
theorem WritesSubset.exists_around {depth depth' : Nat} {events earlier later : List Event}
    {e : Event} {s : List Char} (h : WritesSubset base depth events depth' s)
    (hevents : events = earlier ++ e :: later) (he : e ≠ .endConditional) :
    ∃ more rest, later = more ++ rest ∧
      WritesAround base depth earlier (e :: more) rest depth' s := by
  induction h generalizing earlier with
  | nil => simp at hevents
  | space hc _ ih =>
      obtain ⟨more, rest, rfl, haround⟩ := ih hevents
      cases haround with
      | mk hfront hpiece hback => exact ⟨more, rest, rfl, .mk (.space hc hfront) hpiece hback⟩
  | @markup depth _ depth' first after s t hmarkup hafter ih =>
      have hbehind {u : List Event} (hu : after = u ++ e :: later) : ∃ more rest,
          later = more ++ rest ∧
            WritesAround base depth (first ++ u) (e :: more) rest depth' (s ++ t) := by
        obtain ⟨more, rest, rfl, haround⟩ := ih hu
        cases haround with
        | mk hfront hpiece hback =>
            rw [← List.append_assoc s]
            exact ⟨more, rest, rfl, .mk (.markup hmarkup hfront) hpiece hback⟩
      obtain ⟨u, rfl, hu⟩ | ⟨u, rfl, hu⟩ := List.append_eq_append_iff.mp hevents
      · exact hbehind hu
      · cases u with
        | nil =>
            have hlast := hbehind (u := []) hu.symm
            simpa using hlast
        | cons d more =>
            obtain ⟨rfl, rfl⟩ := List.cons.inj hu
            obtain rfl := hmarkup.eq_nil_of_first he
            exact ⟨more, after, rfl, .mk .nil hmarkup hafter⟩

/-! ## Names -/

/-- The sign of a parameter entity is the first that is no space. -/
theorem marksParameter_iff {gap s : List Char} {c : Char} (hgap : IsGap gap)
    (hc : Text.isSpace c = false) :
    MarksParameter ("<!ENTITY".toList ++ (gap ++ c :: s)) ↔ c = '%' := by
  constructor
  · intro h
    generalize hpiece : "<!ENTITY".toList ++ (gap ++ c :: s) = piece at h
    cases h with
    | @declaration gap' s' hgap' =>
        have hdrop := congrArg (List.dropWhile Text.isSpace) (List.append_cancel_left hpiece)
        rw [Text.dropWhile_append_stop hgap.spaces (by simpa using hc),
          Text.dropWhile_append_stop hgap'.spaces (by simp [Text.isSpace])] at hdrop
        exact (List.cons.inj hdrop).1
    | reference => cases hpiece
  · rintro rfl
    exact .declaration hgap

theorem not_marksParameter {s : List Char} (hdeclaration : ¬ "<!ENTITY".toList <+: s)
    (hreference : ¬ "%".toList <+: s) : ¬ MarksParameter s := by
  intro h
  cases h with
  | declaration => exact hdeclaration (List.prefix_append _ _)
  | reference => exact hreference ⟨_, rfl⟩

/-- A name with the sign that the markup has. -/
def IsSubjectOf (piece : List Char) (name : String) : Prop :=
  IsSubject name ∧ (isParameterName name = true ↔ MarksParameter piece)

theorem IsSubjectOf.plain {piece name : List Char} (hname : IsName name)
    (hpiece : ¬ MarksParameter piece) : IsSubjectOf piece (String.ofList name) := by
  refine ⟨.plain hname, iff_of_false ?_ hpiece⟩
  simp [Scan.isParameterName_ofList hname]

theorem IsSubjectOf.parameter {piece name : List Char} (hname : IsName name)
    (hpiece : MarksParameter piece) : IsSubjectOf piece (parameterName (String.ofList name)) :=
  ⟨.parameter hname, iff_of_true (Scan.isParameterName_parameterName _) hpiece⟩

theorem WritesEntityName.isSubjectOf {name : String} {head : List Char}
    (h : WritesEntityName name head) (s : List Char) :
    IsSubjectOf ("<!ENTITY".toList ++ (head ++ s)) name := by
  cases h with
  | @general gap name hgap hname =>
      refine .plain hname ?_
      cases hname with
      | @mk c rest hc _ =>
          have hspace := Scan.not_isSpace_of_isNameStart c hc
          rw [List.append_assoc, List.cons_append, marksParameter_iff hgap (by simpa using hspace)]
          rintro rfl
          exact absurd hc (by decide)
  | @parameter gap gap' name hgap hgap' hname =>
      refine .parameter hname ?_
      simp only [List.append_assoc]
      exact .declaration hgap

theorem WritesEvent.isSubjectOf {e : Event} {piece : List Char} (h : WritesEvent base e piece) :
    ∀ name ∈ e.subject?, IsSubjectOf piece name := by
  intro name hname
  cases h with
  | comment => cases hname
  | instruction => cases hname
  | internalEntity hsubject =>
      cases hname
      simpa using hsubject.isSubjectOf _
  | externalEntity hsubject =>
      cases hname
      simpa using hsubject.isSubjectOf _
  | unparsedEntity hgap hsubject =>
      cases hname
      simpa using (WritesEntityName.general hgap hsubject).isSubjectOf _
  | element _ hsubject =>
      cases hname
      exact .plain hsubject (not_marksParameter (by simp) (by simp))
  | attlist _ hsubject =>
      cases hname
      exact .plain hsubject (not_marksParameter (by simp) (by simp))
  | notationDecl _ hsubject =>
      cases hname
      exact .plain hsubject (not_marksParameter (by simp) (by simp))
  | parameterReference hsubject =>
      cases hname
      exact .parameter hsubject .reference

/-! ## Well-formedness -/

variable {text : String} {events earlier later : List Event}

/-- An event that marks no section stands for a piece of markup of its own. -/
theorem exists_place_of_scan {e : Event} (h : scan text base = .ok events)
    (hevents : events = earlier ++ e :: later) (he : ¬ e.IsSectionMark) :
    ∃ front piece back, IsPlace base text earlier later front piece back ∧
      WritesEvent base e piece := by
  have hne : e ≠ .endConditional := by
    rintro rfl
    exact he trivial
  obtain ⟨more, rest, rfl, haround⟩ := (scan_eq_ok_iff.mp h).exists_around hevents hne
  generalize htext : text.toList = s at haround
  cases haround with
  | @mk depth _ front piece back hfront hpiece hback =>
      cases hpiece with
      | event hevent => exact ⟨front, piece, back, ⟨htext, depth, hfront, hback⟩, hevent⟩
      | included => exact absurd trivial he
      | ignored => exact absurd trivial he
      | sectionEnd => exact absurd trivial he

theorem exists_writesEvent_of_scan {e : Event} (h : scan text base = .ok events) (he : e ∈ events)
    (hmark : ¬ e.IsSectionMark) : ∃ piece, WritesEvent base e piece := by
  obtain ⟨earlier, later, hevents⟩ := List.append_of_mem he
  obtain ⟨front, piece, back, -, hwritten⟩ := exists_place_of_scan h hevents hmark
  exact ⟨piece, hwritten⟩

theorem not_isSectionMark_of_subject {e : Event} {name : String} (h : name ∈ e.subject?) :
    ¬ e.IsSectionMark := by
  cases e with
  | startConditional => cases h
  | endConditional => cases h
  | _ => exact id

/-- An ignored section can be replaced by any other. -/
theorem exists_ignored_of_scan (h : scan text base = .ok events)
    (hevents : events = earlier ++ .startConditional false :: later) :
    ∃ rest front before after body back, later = .endConditional :: rest ∧
      IsPlace base text earlier rest front (ignoredSection before after body) back ∧
      IsSpaces before ∧ IsSpaces after ∧ Balances 0 body ∧
      ∀ other, Balances 0 other →
        scan (String.ofList (front ++ (ignoredSection before after other ++ back))) base =
          .ok events := by
  obtain ⟨more, rest, rfl, haround⟩ := (scan_eq_ok_iff.mp h).exists_around hevents (by simp)
  generalize htext : text.toList = s at haround
  cases haround with
  | @mk depth _ front _ back hfront hpiece hback =>
      generalize hfirst : Event.startConditional false :: more = first at hpiece
      cases hpiece with
      | event hevent =>
          obtain ⟨rfl, -⟩ := List.cons.inj hfirst
          exact absurd trivial hevent.not_isSectionMark
      | included => cases hfirst
      | sectionEnd => cases hfirst
      | @ignored _ before after body hbefore hafter hbody =>
          obtain ⟨-, rfl⟩ := List.cons.inj hfirst
          refine ⟨_, front, before, after, body, back, rfl, ⟨htext, depth, hfront, hback⟩, hbefore,
            hafter, hbody, fun other hother => scan_eq_ok_iff.mpr ?_⟩
          rw [String.toList_ofList, hevents]
          exact hfront.append (.markup (.ignored hbefore hafter hother) hback)

/-- The events of every text that is scanned are well formed. -/
theorem isWellFormed_of_scan (h : scan text base = .ok events) :
    IsWellFormed base text events where
  nested := (scan_eq_ok_iff.mp h).nestedFrom rfl
  ignored _ _ hevents := exists_ignored_of_scan h hevents
  subjects e he name hname := by
    obtain ⟨piece, hwritten⟩ :=
      exists_writesEvent_of_scan h he (not_isSectionMark_of_subject hname)
    exact (hwritten.isSubjectOf name hname).1
  marks earlier e later hevents name hname := by
    obtain ⟨front, piece, back, hplace, hwritten⟩ :=
      exists_place_of_scan h hevents (not_isSectionMark_of_subject hname)
    exact ⟨front, piece, back, hplace, hwritten, (hwritten.isSubjectOf name hname).2⟩
  unparsed name publicId systemId notationName he := by
    obtain ⟨piece, hwritten⟩ := exists_writesEvent_of_scan h he id
    cases hwritten with
    | unparsedEntity _ hname => exact Scan.isParameterName_ofList hname
  bases name publicId systemId base' he := by
    obtain ⟨piece, hwritten⟩ := exists_writesEvent_of_scan h he id
    cases hwritten
    rfl

/-- An ignored section inside an included one, with a parameter entity declared and referred to. -/
theorem isWellFormed_sections :
    scan "<![INCLUDE[<!ENTITY % p SYSTEM 'b'><![IGNORE[<![x]]>%q;]]>]]>%p;" (some "c") =
        .ok [.startConditional true, .externalEntity "%p" none "b" (some "c"),
          .startConditional false, .endConditional, .endConditional, .parameterReference "%p"] ∧
      IsWellFormed (some "c") "<![INCLUDE[<!ENTITY % p SYSTEM 'b'><![IGNORE[<![x]]>%q;]]>]]>%p;"
        [.startConditional true, .externalEntity "%p" none "b" (some "c"),
          .startConditional false, .endConditional, .endConditional, .parameterReference "%p"] := by
  have h : scan "<![INCLUDE[<!ENTITY % p SYSTEM 'b'><![IGNORE[<![x]]>%q;]]>]]>%p;" (some "c") =
      .ok [.startConditional true, .externalEntity "%p" none "b" (some "c"),
        .startConditional false, .endConditional, .endConditional, .parameterReference "%p"] := by
    decide +kernel
  exact ⟨h, isWellFormed_of_scan h⟩

end XmlBounds.Dtd
