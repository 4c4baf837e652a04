import XmlBounds.Proofs.Dtd.Quoting

/-!
# The bracket that closes an internal subset

An internal subset ends at the first bracket outside of comments and literals. The search for it
knows nothing of instructions: a bracket in an instruction ends the subset, and a quote in one opens
a literal. Where the instructions of a subset keep their brackets in literals, as its other
declarations do, a subset that is scanned is found whole.
-/

namespace XmlBounds.Dtd

/-! ## Brackets out of sight -/

/-- The signs that begin markup and end a subset. -/
def IsBracket (c : Char) : Prop := c = '<' ∨ c = ']'

/-- Brackets are in the literals of the body only, if the event is a declaration of an element or of
attributes. -/
def Event.QuotesBody : Event → Prop
  | .element _ body => QuotesAll IsBracket body.toList
  | .attlist _ body => QuotesAll IsBracket body.toList
  | _ => True

/-- A text in which no bracket that would close a subset stands outside of comments and literals. -/
inductive HidesBrackets : List Char → Prop where
  | nil : HidesBrackets []
  | plain {c : Char} {s : List Char} : Scan.isQuote c = false → c ≠ ']' →
      ¬ "<!--".toList <+: c :: s → HidesBrackets s → HidesBrackets (c :: s)
  | literal {text : String} {literal s : List Char} : WritesLiteral text literal →
      HidesBrackets s → HidesBrackets (literal ++ s)
  | comment {body s : List Char} : ¬ "-->".toList <:+: body → HidesBrackets s →
      HidesBrackets ("<!--".toList ++ (body ++ ("-->".toList ++ s)))

/-! ## Texts with brackets in literals -/

/-- The first bracket of a text that keeps its other signs in literals. -/
theorem QuotesAll.exists_bracket {s : List Char} (h : QuotesAll (· = '<') s)
    (hnot : ¬ QuotesAll IsBracket s) :
    ∃ shelter rest, s = shelter ++ ']' :: rest ∧ QuotesAll IsBracket shelter := by
  induction h with
  | nil => exact absurd .nil hnot
  | @plain c s hquote hc _ ih =>
      by_cases hbracket : c = ']'
      · rw [hbracket]
        exact ⟨[], s, rfl, .nil⟩
      · have hplain : ¬ IsBracket c := by simp [IsBracket, hc, hbracket]
        obtain ⟨shelter, rest, rfl, hshelter⟩ := ih fun hs => hnot (.plain hquote hplain hs)
        exact ⟨c :: shelter, rest, rfl, .plain hquote hplain hshelter⟩
  | @literal _ literal _ hliteral _ ih =>
      obtain ⟨shelter, rest, rfl, hshelter⟩ := ih fun hs => hnot (.literal hliteral hs)
      exact ⟨literal ++ shelter, rest, by rw [List.append_assoc], .literal hliteral hshelter⟩

/-- The characters that stand for nothing but themselves. -/
def isPlain (c : Char) : Bool := c != '"' && c != '\'' && c != '<' && c != ']'

theorem plain_of_isPlain {c : Char} (h : isPlain c = true) :
    Scan.isQuote c = false ∧ ¬ IsBracket c := by
  simp only [isPlain, Bool.and_eq_true, bne_iff_ne] at h
  simp [Scan.isQuote, IsBracket, h]

theorem isPlain_of_class {p : Char → Bool} (hp : ['"', '\'', '<', ']'].all (!p ·) = true)
    {c : Char} (hc : p c = true) : isPlain c = true := by
  have hne (d : Char) (hd : d ∈ ['"', '\'', '<', ']']) : c ≠ d := by
    rintro rfl
    simpa [hc] using List.all_eq_true.mp hp c hd
  simp only [isPlain, Bool.and_eq_true, bne_iff_ne]
  exact ⟨⟨⟨hne _ (by simp), hne _ (by simp)⟩, hne _ (by simp)⟩, hne _ (by simp)⟩

theorem quotesAll_of_isPlain {s : List Char} (h : s.all isPlain = true) : QuotesAll IsBracket s :=
  .of_plain fun c hc => plain_of_isPlain (List.all_eq_true.mp h c hc)

theorem quotesAll_of_class {p : Char → Bool} {s : List Char}
    (hp : ['"', '\'', '<', ']'].all (!p ·) = true) (hs : ∀ c ∈ s, p c = true) :
    QuotesAll IsBracket s :=
  .of_plain fun c hc => plain_of_isPlain (isPlain_of_class hp (hs c hc))

theorem quotesAll_blanks {s : List Char} (h : ∀ c ∈ s, Text.isBlank c = true) :
    QuotesAll IsBracket s := quotesAll_of_class (by decide) h

theorem IsSpaces.quotesAll {s : List Char} (h : IsSpaces s) : QuotesAll IsBracket s :=
  quotesAll_of_class (by decide) h

theorem IsGap.quotesAll {s : List Char} (h : IsGap s) : QuotesAll IsBracket s :=
  IsSpaces.quotesAll h.spaces

theorem IsName.quotesAll {s : List Char} (h : IsName s) : QuotesAll IsBracket s :=
  quotesAll_of_class (by decide) (Scan.isNameChar_of_isName h)

theorem WritesIds.quotesAll {publicId systemId : Option String} {ids : List Char}
    (h : WritesIds publicId systemId ids) : QuotesAll IsBracket ids := by
  cases h with
  | absent => exact .nil
  | systemOnly hgap hliteral =>
      exact ((quotesAll_of_isPlain (by decide)).append hgap.quotesAll).append hliteral.quotesAll
  | publicAndSystem hgap hgap' hliteral hliteral' =>
      refine .append (.append (.append (.append ?_ hgap.quotesAll) hliteral.quotesAll)
        hgap'.quotesAll) hliteral'.quotesAll
      exact quotesAll_of_isPlain (by decide)

theorem WritesNotationIds.quotesAll {publicId systemId : Option String} {ids : List Char}
    (h : WritesNotationIds publicId systemId ids) : QuotesAll IsBracket ids := by
  cases h with
  | both hids => exact hids.quotesAll
  | publicOnly hgap hliteral =>
      exact ((quotesAll_of_isPlain (by decide)).append hgap.quotesAll).append hliteral.quotesAll

theorem WritesEntityName.quotesAll {name : String} {head : List Char}
    (h : WritesEntityName name head) : QuotesAll IsBracket head := by
  cases h with
  | general hgap hname => exact hgap.quotesAll.append hname.quotesAll
  | parameter hgap hgap' hname =>
      have hpercent : QuotesAll IsBracket "%".toList := quotesAll_of_isPlain (by decide)
      exact ((hgap.quotesAll.append hpercent).append hgap'.quotesAll).append hname.quotesAll

theorem QuotesAll.of_trim {s : List Char} (h : QuotesAll IsBracket (Text.trim s)) :
    QuotesAll IsBracket s := by
  obtain ⟨front, back, hs, hfront, hback⟩ := Text.exists_trim s
  rw [hs]
  exact (quotesAll_blanks hfront).append (h.append (quotesAll_blanks hback))

theorem plain_of_isBlank (c : Char) (h : Text.isBlank c = true) :
    Scan.isQuote c = false ∧ ¬ IsBracket c := plain_of_isPlain (isPlain_of_class (by decide) h)

/-! ## Scanned texts -/

theorem HidesBrackets.of_quotesAll {s t : List Char} (hs : QuotesAll IsBracket s)
    (ht : HidesBrackets t) : HidesBrackets (s ++ t) := by
  induction hs with
  | nil => exact ht
  | @plain c s hquote hc _ ih =>
      rw [IsBracket, not_or] at hc
      refine .plain hquote hc.2 ?_ ih
      rintro ⟨u, hu⟩
      exact hc.1 (List.cons.inj hu).1.symm
  | literal hliteral _ ih =>
      rw [List.append_assoc]
      exact .literal hliteral ih

theorem hidesBrackets_declaration (keyword : String) {front s t : List Char}
    (hkeyword : keyword.toList = '<' :: front)
    (hcomment : ∀ u, ¬ "<!--".toList <+: keyword.toList ++ u)
    (hfront : front.all isPlain = true) (hs : QuotesAll IsBracket s)
    (ht : HidesBrackets t) :
    HidesBrackets (keyword.toList ++ s ++ t) := by
  have hnot := hcomment (s ++ t)
  rw [List.append_assoc]
  rw [hkeyword, List.cons_append] at hnot ⊢
  exact .plain (by decide) (by decide) hnot
    (.of_quotesAll (quotesAll_of_isPlain hfront) (.of_quotesAll hs ht))

theorem WritesEvent.hidesBrackets {base : Option String} {e : Event} {s t : List Char}
    (h : WritesEvent base e s) (hbody : e.QuotesBody) (hinstruction : e.QuotesInstruction IsBracket)
    (ht : HidesBrackets t) : HidesBrackets (s ++ t) := by
  have hend : QuotesAll IsBracket ">".toList := quotesAll_of_isPlain (by decide)
  cases h with
  | comment hnot =>
      have hhidden := HidesBrackets.comment hnot ht
      simpa using hhidden
  | instruction _ hwritten =>
      have hmark : QuotesAll IsBracket "?>".toList := quotesAll_of_isPlain (by decide)
      have hrest := ((hwritten.quotesAll_iff plain_of_isBlank).mpr hinstruction).append hmark
      have hhidden := hidesBrackets_declaration "<?" rfl (by simp) (by decide) hrest ht
      simpa using hhidden
  | internalEntity hname hgap hliteral _ hback =>
      have hrest := (((hname.quotesAll.append hgap.quotesAll).append hliteral.quotesAll).append
        hback.quotesAll).append hend
      have hhidden := hidesBrackets_declaration "<!ENTITY" rfl (by simp) (by decide)
        hrest ht
      simpa using hhidden
  | externalEntity hname hgap hids hback =>
      have hrest := (((hname.quotesAll.append hgap.quotesAll).append hids.quotesAll).append
        hback.quotesAll).append hend
      have hhidden := hidesBrackets_declaration "<!ENTITY" rfl (by simp) (by decide)
        hrest ht
      simpa using hhidden
  | unparsedEntity hgap hname hgap' hids hgap₂ hgap₃ hnotationName hback =>
      have hdata : QuotesAll IsBracket "NDATA".toList := quotesAll_of_isPlain (by decide)
      have hfront := ((hgap.quotesAll.append hname.quotesAll).append hgap'.quotesAll).append
        hids.quotesAll
      have hback' := ((hgap₂.quotesAll.append hdata).append hgap₃.quotesAll).append
        (hnotationName.quotesAll.append (hback.quotesAll.append hend))
      have hhidden := hidesBrackets_declaration "<!ENTITY" rfl (by simp) (by decide)
        (hfront.append hback') ht
      simpa using hhidden
  | element hgap hname _ _ =>
      rw [Event.QuotesBody, String.toList_ofList] at hbody
      have hrest := ((hgap.quotesAll.append hname.quotesAll).append hbody.of_trim).append hend
      have hhidden := hidesBrackets_declaration "<!ELEMENT" rfl (by simp) (by decide)
        hrest ht
      simpa using hhidden
  | attlist hgap hname _ _ =>
      rw [Event.QuotesBody, String.toList_ofList] at hbody
      have hrest := ((hgap.quotesAll.append hname.quotesAll).append hbody.of_trim).append hend
      have hhidden := hidesBrackets_declaration "<!ATTLIST" rfl (by simp) (by decide)
        hrest ht
      simpa using hhidden
  | notationDecl hgap hname hgap' hids hback =>
      have hrest := ((((hgap.quotesAll.append hname.quotesAll).append hgap'.quotesAll).append
        hids.quotesAll).append hback.quotesAll).append hend
      have hhidden := hidesBrackets_declaration "<!NOTATION" rfl (by simp) (by decide)
        hrest ht
      simpa using hhidden
  | parameterReference hname =>
      have hpercent : QuotesAll IsBracket "%".toList := quotesAll_of_isPlain (by decide)
      have hsemicolon : QuotesAll IsBracket ";".toList := quotesAll_of_isPlain (by decide)
      exact .of_quotesAll ((hpercent.append hname.quotesAll).append hsemicolon) ht

theorem WritesSubset.hidesBrackets {base : Option String} {depth' : Nat} {events : List Event}
    {s : List Char} (h : WritesSubset base 0 events depth' s)
    (hsections : ∀ isIncluded, .startConditional isIncluded ∉ events)
    (hbodies : ∀ e ∈ events, e.QuotesBody)
    (hinstructions : ∀ e ∈ events, e.QuotesInstruction IsBracket) : HidesBrackets s := by
  generalize hdepth : 0 = depth at h
  induction h with
  | nil => exact .nil
  | @space _ _ _ c s hc _ ih =>
      have hspace : IsSpaces [c] := by simpa [IsSpaces] using hc
      exact .of_quotesAll hspace.quotesAll (ih hsections hbodies hinstructions hdepth)
  | @markup _ _ _ first later _ _ hmarkup _ ih =>
      simp only [List.mem_append, not_or] at hsections
      have hlater := fun hdepth' => ih (fun isIncluded => (hsections isIncluded).2)
        (fun e he => hbodies e (List.mem_append_right _ he))
        (fun e he => hinstructions e (List.mem_append_right _ he)) hdepth'
      cases hmarkup with
      | event hevent =>
          exact hevent.hidesBrackets (hbodies _ (by simp)) (hinstructions _ (by simp))
            (hlater hdepth)
      | included => exact absurd (by simp) (hsections true).1
      | ignored => exact absurd (by simp) (hsections false).1
      | sectionEnd => cases hdepth

/-! ## The search -/

theorem subsetEndFrom?_plain {c : Char} {s : List Char} (hquote : Scan.isQuote c = false)
    (hc : c ≠ ']') (hcomment : ¬ "<!--".toList <+: c :: s) (n : Nat) :
    subsetEndFrom? .plain n (c :: s) = subsetEndFrom? .plain (n + 1) s := by
  have hne : ¬ (c = '"' ∨ c = '\'') := by simpa [Scan.isQuote] using hquote
  rw [subsetEndFrom?, if_neg hne]
  · rintro rest rfl rfl
    exact hcomment (by simp)
  · exact hc

theorem subsetEndFrom?_quote {quote : Char} (h : Scan.isQuote quote = true) (n : Nat)
    (s : List Char) :
    subsetEndFrom? .plain n (quote :: s) = subsetEndFrom? (.literal quote) (n + 1) s := by
  have hquote : quote = '"' ∨ quote = '\'' := by simpa [Scan.isQuote] using h
  rw [subsetEndFrom?, if_pos hquote]
  · rintro rest rfl
    exact absurd h (by decide)
  · rintro rfl
    exact absurd h (by decide)

theorem subsetEndFrom?_literal {quote : Char} {text t : List Char} (h : quote ∉ text) (n : Nat) :
    subsetEndFrom? (.literal quote) n (text ++ quote :: t) =
      subsetEndFrom? .plain (n + text.length + 1) t := by
  induction text generalizing n with
  | nil => simp [subsetEndFrom?]
  | cons c text ih =>
      have hc : c ≠ quote := fun heq => h (heq ▸ List.mem_cons_self)
      have hlater : quote ∉ text := fun hmem => h (List.mem_cons_of_mem c hmem)
      rw [List.cons_append, subsetEndFrom?, if_neg hc, ih hlater]
      simp only [List.length_cons]
      congr 1
      omega

theorem subsetEndFrom?_comment {body t : List Char} (h : ¬ "-->".toList <:+: body) (n : Nat) :
    subsetEndFrom? .comment n (body ++ ("-->".toList ++ t)) =
      subsetEndFrom? .plain (n + body.length + 3) t := by
  induction body generalizing n with
  | nil => exact subsetEndFrom?.eq_1 ..
  | cons c body ih =>
      have hhere : ¬ "-->".toList <+: c :: body ++ ("-->".toList ++ t) :=
        @Scan.not_isPrefix_of_not_isInfix ['-', '-'] _ _ '>' (by decide) h
          (List.cons_ne_nil c body)
      rw [List.cons_append, subsetEndFrom?, ih fun hmem => h (List.infix_cons hmem)]
      · simp only [List.length_cons]
        congr 1
        omega
      · rintro rest rfl hrest
        exact hhere ⟨rest, congrArg ('-' :: ·) hrest.symm⟩

theorem subsetEndFrom?_of_hidesBrackets {s : List Char} (h : HidesBrackets s) (n : Nat)
    (t : List Char) : subsetEndFrom? .plain n (s ++ ']' :: t) = some (n + s.length) := by
  induction h generalizing n with
  | nil => simp [subsetEndFrom?]
  | @plain c s hquote hc hcomment _ ih =>
      have hcomment' : ¬ "<!--".toList <+: c :: (s ++ ']' :: t) :=
        mt (Scan.isPrefix_of_stop (s := c :: s) (by decide)) hcomment
      rw [List.cons_append, subsetEndFrom?_plain hquote hc hcomment', ih]
      simp only [List.length_cons]
      congr 1
      omega
  | literal hliteral _ ih =>
      cases hliteral with
      | mk hquote hnot =>
          simp only [List.cons_append, List.append_assoc, List.nil_append]
          rw [subsetEndFrom?_quote hquote, subsetEndFrom?_literal hnot, ih]
          simp only [List.length_cons, List.length_append]
          congr 1
          omega
  | @comment body s hbody _ ih =>
      have hopen (u : List Char) : subsetEndFrom? .plain n ("<!--".toList ++ u) =
          subsetEndFrom? .comment (n + 4) u := subsetEndFrom?.eq_2 ..
      simp only [List.append_assoc]
      rw [hopen, subsetEndFrom?_comment hbody, ih]
      simp only [List.length_append]
      congr 1
      simp
      omega

/-- The text before the closing bracket, where a comment or a literal may be open in front. -/
def HidesBracketsFrom : SubsetState → List Char → Prop
  | .plain, s => HidesBrackets s
  | .comment, s => ∃ body t, s = body ++ ("-->".toList ++ t) ∧ ¬ "-->".toList <:+: body ∧
      HidesBrackets t
  | .literal quote, s => ∃ inside t, s = inside ++ quote :: t ∧ quote ∉ inside ∧ HidesBrackets t

theorem subsetEndFrom?_eq_some {state : SubsetState} {n m : Nat} {text : List Char}
    (h : subsetEndFrom? state n text = some m) :
    ∃ s left, text = s ++ ']' :: left ∧ m = n + s.length ∧ HidesBracketsFrom state s := by
  fun_induction subsetEndFrom? state n text with
  | case1 n rest ih =>
      obtain ⟨s, left, rfl, rfl, hs⟩ := ih h
      refine ⟨"-->".toList ++ s, left, rfl, ?_, [], s, rfl, by simp, hs⟩
      simp only [List.length_append]
      simp
      omega
  | case2 n rest ih =>
      obtain ⟨_, left, rfl, rfl, body, t, rfl, hbody, ht⟩ := ih h
      refine ⟨"<!--".toList ++ (body ++ ("-->".toList ++ t)), left, rfl, ?_, .comment hbody ht⟩
      simp only [List.length_append]
      simp
      omega
  | case3 n rest =>
      cases h
      exact ⟨[], rest, rfl, rfl, .nil⟩
  | case4 n c rest hcomment hc ih =>
      obtain ⟨s, left, rfl, rfl, hs⟩ := ih h
      refine ⟨c :: s, left, rfl, by simp only [List.length_cons]; omega, ?_⟩
      by_cases hquote : c = '"' ∨ c = '\''
      · rw [if_pos hquote] at hs
        obtain ⟨inside, t, rfl, hnot, ht⟩ := hs
        have hopens : Scan.isQuote c = true := by simpa [Scan.isQuote] using hquote
        have hliteral := HidesBrackets.literal (Scan.writesLiteral_ofList hopens hnot) ht
        rw [List.append_assoc] at hliteral
        exact hliteral
      · rw [if_neg hquote] at hs
        have hplain : Scan.isQuote c = false := by simpa [Scan.isQuote] using hquote
        refine .plain hplain hc ?_ hs
        rintro ⟨t, ht⟩
        obtain ⟨rfl, rfl⟩ := List.cons.inj ht
        exact hcomment _ rfl rfl
  | case5 q n c rest ih =>
      obtain ⟨s, left, rfl, rfl, hs⟩ := ih h
      refine ⟨c :: s, left, rfl, by simp only [List.length_cons]; omega, ?_⟩
      by_cases hc : c = q
      · rw [if_pos hc] at hs
        exact ⟨[], s, by rw [hc]; rfl, by simp, hs⟩
      · rw [if_neg hc] at hs
        obtain ⟨inside, t, rfl, hnot, ht⟩ := hs
        refine ⟨c :: inside, t, rfl, ?_, ht⟩
        rw [List.mem_cons, not_or]
        exact ⟨Ne.symm hc, hnot⟩
  | case6 n c rest hend ih =>
      obtain ⟨_, left, rfl, rfl, body, t, rfl, hbody, ht⟩ := ih h
      refine ⟨c :: (body ++ ("-->".toList ++ t)), left, rfl, ?_, c :: body, t, rfl, ?_, ht⟩
      · simp only [List.length_cons]
        omega
      · rw [List.infix_cons_iff]
        rintro (⟨u, hu⟩ | hlater)
        · obtain ⟨rfl, rfl⟩ := List.cons.inj hu
          exact hend _ rfl rfl
        · exact hbody hlater
  | case7 => cases h

namespace Scan

theorem readsAs_subset {s t : List Char} (h : HidesBrackets s) :
    ReadsAs subset (s ++ "]".toList) t (String.ofList s) := by
  refine readsAs_rest.next ?_
  have hend : subsetEndFrom? .plain 0 (s ++ "]".toList ++ t) = some s.length := by
    rw [List.append_assoc]
    exact (subsetEndFrom?_of_hidesBrackets h 0 t).trans (by rw [Nat.zero_add])
  rw [hend]
  exact readsAs_take.bind ((readsAs_take (s := [']'])).last (.pure _ t))

theorem fails_subset {s : List Char} (h : subsetEndFrom? .plain 0 s = none) : Fails subset s := by
  refine readsAs_rest.fails ?_
  rw [h]
  exact fails_fail _ _

theorem readsAs_internalSubset {s back t : List Char} (h : HidesBrackets s) (hback : IsSpaces back)
    (ht : Begins (!Text.isSpace ·) t) :
    ReadsAs internalSubset ("[".toList ++ (s ++ "]".toList ++ back)) t (some (String.ofList s)) :=
  .choose ((readsAs_subset h).bind ((readsAs_space hback ht).last (.pure _ t)))

section Doctype

variable {root gap s : List Char}

theorem readsAs_doctype_subset (hroot : IsName root) (hgap : IsGap gap) (h : HidesBrackets s) :
    ReadsAs doctype (root ++ (gap ++ ("[".toList ++ (s ++ "]".toList)))) []
      { root := String.ofList root, publicId := none, systemId := none,
        subset := some (String.ofList s) } := by
  have hsubset := @readsAs_internalSubset _ [] _ h (by simp [IsSpaces]) begins_nil
  rw [List.append_nil] at hsubset
  refine (readsAs_space (s := []) (by simp) ?_).next ((readsAs_name hroot ?_).bind ?_)
  · rw [List.append_nil]
    exact begins_name hroot not_isSpace_of_isNameStart
  · rw [List.append_nil]
    exact begins_gap hgap not_isNameChar_of_isSpace
  · refine (readsAs_gap hgap (begins_cons (by decide))).bind ?_
    refine (readsAs_externalSubset_none rfl rfl).next (hsubset.last ?_)
    exact readsAs_rest.next (.pure _ [])

/-- A bracket that closes the subset too early leaves text behind it. -/
theorem exists_behind_bracket {t left : List Char} (h : s ++ [']'] = t ++ ']' :: left)
    (hne : s ≠ t) : ∃ back behind, left = back ++ behind ∧ IsSpaces back ∧ behind ≠ [] ∧
      Begins (!Text.isSpace ·) behind := by
  have hmem : ']' ∈ left := by
    obtain ⟨u, rfl, hu⟩ | ⟨u, rfl, hu⟩ := List.append_eq_append_iff.mp h
    · cases u <;> simp at hu hne
    · cases u with
      | nil => simp at hne
      | cons c u =>
          rw [(List.cons.inj hu).2]
          simp
  refine ⟨left.takeWhile Text.isSpace, left.dropWhile Text.isSpace,
    List.takeWhile_append_dropWhile.symm, List.all_eq_true.mp List.all_takeWhile, ?_,
    begins_dropWhile Text.isSpace left⟩
  intro hnil
  exact absurd (List.dropWhile_eq_nil_iff.mp hnil ']' hmem) (by decide)

theorem fails_doctype_subset (hroot : IsName root) (hgap : IsGap gap) (h : ¬ HidesBrackets s) :
    Fails doctype (root ++ (gap ++ ("[".toList ++ (s ++ "]".toList)))) := by
  refine ReadsAs.fails (s := []) (readsAs_space (by simp) ?_) ?_
  · exact begins_name hroot not_isSpace_of_isNameStart
  refine (readsAs_name hroot (begins_gap hgap not_isNameChar_of_isSpace)).fails ?_
  refine (readsAs_gap hgap (begins_cons (by decide))).fails ?_
  refine ReadsAs.fails (s := []) (t := "[".toList ++ (s ++ "]".toList))
    (readsAs_externalSubset_none rfl rfl) ?_
  cases hend : subsetEndFrom? .plain 0 (s ++ "]".toList) with
  | none => exact (readsAs_eat.fails (fails_subset hend).bind).bind
  | some n =>
      obtain ⟨t, left, hs, -, ht⟩ := subsetEndFrom?_eq_some hend
      have hne : s ≠ t := by
        rintro rfl
        exact h ht
      obtain ⟨back, behind, rfl, hback, hbehind, hstop⟩ := exists_behind_bracket hs hne
      have hparts : "[".toList ++ (s ++ "]".toList) =
          "[".toList ++ (t ++ "]".toList ++ back) ++ behind := by
        rw [hs]
        simp
      rw [hparts]
      refine (readsAs_internalSubset ht hback hstop).fails ?_
      refine ReadsAs.fails (s := []) readsAs_rest ?_
      rw [if_neg hbehind]
      exact fails_fail _ _

end Doctype

end Scan

/-- Nothing behind a bracket that can be seen hides it. -/
theorem not_hidesBrackets {shelter : List Char} (h : HidesBrackets shelter) (rest : List Char) :
    ¬ HidesBrackets (shelter ++ ']' :: rest) := by
  intro hall
  have hearly := subsetEndFrom?_of_hidesBrackets h 0 (rest ++ [']'])
  have hlate := subsetEndFrom?_of_hidesBrackets hall 0 []
  rw [List.append_assoc, List.cons_append, hearly, Option.some.injEq] at hlate
  simp at hlate

theorem WritesSubset.exists_bracket {base : Option String} {depth' : Nat} {events : List Event}
    {s : List Char} (h : WritesSubset base 0 events depth' s)
    (hsections : ∀ isIncluded, .startConditional isIncluded ∉ events)
    (hbodies : ∀ e ∈ events, e.QuotesBody)
    (hinstructions : ∀ e ∈ events, e.QuotesInstruction (· = '<'))
    (hshown : ∃ e ∈ events, ¬ e.QuotesInstruction IsBracket) :
    ∃ shelter rest, s = shelter ++ ']' :: rest ∧ HidesBrackets shelter := by
  generalize hdepth : 0 = depth at h
  induction h with
  | nil => simp at hshown
  | @space _ _ _ c s hc _ ih =>
      obtain ⟨shelter, rest, rfl, hshelter⟩ := ih hsections hbodies hinstructions hshown hdepth
      have hspace : IsSpaces [c] := by simpa [IsSpaces] using hc
      exact ⟨c :: shelter, rest, rfl, .of_quotesAll hspace.quotesAll hshelter⟩
  | @markup _ _ _ first later piece t hmarkup _ ih =>
      simp only [List.mem_append, not_or] at hsections
      cases hmarkup with
      | included => exact absurd (by simp) (hsections true).1
      | ignored => exact absurd (by simp) (hsections false).1
      | sectionEnd => cases hdepth
      | @event _ e _ hevent =>
          by_cases he : e.QuotesInstruction IsBracket
          · have hshown' : ∃ e ∈ later, ¬ e.QuotesInstruction IsBracket := by
              simpa [he] using hshown
            obtain ⟨shelter, rest, rfl, hshelter⟩ := ih (fun isIncluded => (hsections isIncluded).2)
              (fun e he => hbodies e (List.mem_append_right _ he))
              (fun e he => hinstructions e (List.mem_append_right _ he)) hshown' hdepth
            exact ⟨piece ++ shelter, rest, by rw [List.append_assoc],
              hevent.hidesBrackets (hbodies _ (by simp)) he hshelter⟩
          · have hpaired := hinstructions e (by simp)
            cases hevent with
            | @instruction _ _ body _ hwritten =>
                have hbody : ¬ QuotesAll IsBracket body :=
                  mt (hwritten.quotesAll_iff plain_of_isBlank).mp he
                have hblank (c : Char) (hc : Text.isBlank c = true) :
                    Scan.isQuote c = false ∧ ¬ c = '<' :=
                  (plain_of_isBlank c hc).imp_right fun hplain heq => hplain (.inl heq)
                obtain ⟨shelter, rest, rfl, hshelter⟩ :=
                  ((hwritten.quotesAll_iff hblank).mpr hpaired).exists_bracket hbody
                refine ⟨"<?".toList ++ shelter, rest ++ "?>".toList ++ t, by simp, ?_⟩
                have hhidden := hidesBrackets_declaration "<?" rfl (by simp)
                  (by decide) hshelter .nil
                rwa [List.append_nil] at hhidden
            | _ => exact absurd trivial he

/-! ## Splitting a subset off -/

/-- Neither blanks nor the keyword are dropped in front of this root name. -/
theorem scanned_bracketed (text : String) :
    dropKeyword (Text.trimStart ("root [" ++ text ++ "]").toList) =
      "root".toList ++ ([' '] ++ ("[".toList ++ (text.toList ++ "]".toList))) := by
  have htext : ("root [" ++ text ++ "]").toList =
      "root".toList ++ ([' '] ++ ("[".toList ++ (text.toList ++ "]".toList))) := by
    simp
  rw [htext, Text.trimStart_eq_self_iff.mpr, dropKeyword_eq_self_iff.mpr]
  · simp
  · rintro _ ⟨⟩
    decide

theorem isName_root : IsName "root".toList := .mk (by decide) (List.all_eq_true.mp (by decide))

theorem split_of_hidesBrackets {text : String} (h : HidesBrackets text.toList) :
    Doctype.split ("root [" ++ text ++ "]") =
      .ok { root := "root", publicId := none, systemId := none, subset := some text } := by
  have hgap : IsGap [' '] := ⟨by decide, List.all_eq_true.mp (by decide)⟩
  have hread := Scan.readsAs_doctype_subset isName_root hgap h
  rw [← scanned_bracketed] at hread
  simpa using isOk_split hread

theorem isError_split_of_not_hidesBrackets {text : String} (h : ¬ HidesBrackets text.toList) :
    ∃ fault, Doctype.split ("root [" ++ text ++ "]") = .error fault := by
  have hgap : IsGap [' '] := ⟨by decide, List.all_eq_true.mp (by decide)⟩
  refine isError_split ?_
  rw [scanned_bracketed]
  exact Scan.fails_doctype_subset isName_root hgap h

variable {base : Option String} {text : String} {events : List Event}

/-- A scanned subset without conditional sections, whose elements and attributes are declared with
brackets in literals only, is split off whole if its instructions keep brackets in literals too, and
the declaration is refused if they do not but keep to literals otherwise. In general the split
depends on the brackets that are hidden from a reader who does not know of instructions. -/
theorem split_of_scan (h : scan text base = .ok events)
    (hsections : ∀ isIncluded, .startConditional isIncluded ∉ events)
    (hbodies : ∀ e ∈ events, e.QuotesBody) :
    ((∀ e ∈ events, e.QuotesInstruction IsBracket) →
        Doctype.split ("root [" ++ text ++ "]") =
          .ok { root := "root", publicId := none, systemId := none, subset := some text }) ∧
      ((∀ e ∈ events, e.QuotesInstruction (· = '<')) →
        (∃ e ∈ events, ¬ e.QuotesInstruction IsBracket) →
        ∃ fault, Doctype.split ("root [" ++ text ++ "]") = .error fault) ∧
      (HidesBrackets text.toList →
        Doctype.split ("root [" ++ text ++ "]") =
          .ok { root := "root", publicId := none, systemId := none, subset := some text }) ∧
      (¬ HidesBrackets text.toList →
        ∃ fault, Doctype.split ("root [" ++ text ++ "]") = .error fault) := by
  have hwritten := scan_eq_ok_iff.mp h
  refine ⟨fun hinstructions => ?_, fun hpaired hshown => ?_, split_of_hidesBrackets,
    isError_split_of_not_hidesBrackets⟩
  · exact split_of_hidesBrackets (hwritten.hidesBrackets hsections hbodies hinstructions)
  · obtain ⟨shelter, rest, htext, hshelter⟩ :=
      hwritten.exists_bracket hsections hbodies hpaired hshown
    refine isError_split_of_not_hidesBrackets ?_
    rw [htext]
    exact not_hidesBrackets hshelter rest

/-- Brackets and quotes may stand in literals and comments of every kind. -/
theorem split_quoted_brackets :
    scan "<!ENTITY a \"]'\"><!-- ' ] --><?p x=\"]\"?><!ELEMENT b (c)>%d;" none =
        .ok [.internalEntity "a" "]'", .comment " ' ] ", .instruction "p" "x=\"]\"",
          .element "b" "(c)", .parameterReference "%d"] ∧
      Doctype.split ("root [" ++
          "<!ENTITY a \"]'\"><!-- ' ] --><?p x=\"]\"?><!ELEMENT b (c)>%d;" ++ "]") =
        .ok
          { root := "root", publicId := none, systemId := none,
            subset := some "<!ENTITY a \"]'\"><!-- ' ] --><?p x=\"]\"?><!ELEMENT b (c)>%d;" } := by
  have h : scan "<!ENTITY a \"]'\"><!-- ' ] --><?p x=\"]\"?><!ELEMENT b (c)>%d;" none =
      .ok [.internalEntity "a" "]'", .comment " ' ] ", .instruction "p" "x=\"]\"",
        .element "b" "(c)", .parameterReference "%d"] := by
    decide +kernel
  refine ⟨h, (split_of_scan h (by simp) ?_).1 ?_⟩
  · simp [Event.QuotesBody, quotesAll_iff, QuotesAllFrom, IsBracket, Scan.isQuote]
  · simp [Event.QuotesInstruction, quotesAll_iff, QuotesAllFrom, IsBracket, Scan.isQuote]

/-- A bracket in an instruction ends the subset. -/
theorem not_forall_split_of_scan :
    ¬ ∀ (text : String) (base : Option String) (events : List Event),
      scan text base = .ok events → (∀ isIncluded, .startConditional isIncluded ∉ events) →
      (∀ e ∈ events, e.QuotesBody) →
      Doctype.split ("root [" ++ text ++ "]") =
        .ok { root := "root", publicId := none, systemId := none, subset := some text } := by
  intro hall
  have h : scan "<?p ]?>" none = .ok [.instruction "p" "]"] := by decide +kernel
  have hsplit := hall "<?p ]?>" none _ h (by simp) (by simp [Event.QuotesBody])
  have hfault : (Doctype.split ("root [" ++ "<?p ]?>" ++ "]")).isOk = false := by decide +kernel
  rw [hsplit] at hfault
  cases hfault

end XmlBounds.Dtd
