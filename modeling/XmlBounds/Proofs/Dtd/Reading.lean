import XmlBounds.Proofs.Dtd.Writing

/-!
# Written DTD text is read

Whatever is written in one of the forms of a subset is read as the events that it stands for, and no
more of the text is passed, whatever follows it.
-/

namespace XmlBounds.Dtd

namespace Scan

variable {α : Type} {base : Option String}

/-! ## Choices -/

theorem ReadsAs.choose {token : String} {x y : Scan α} {s t : List Char} {a : α}
    (hx : ReadsAs x s t a) :
    ReadsAs (do if ← eat token then x else y) (token.toList ++ s) t a := readsAs_eat.bind hx

theorem ReadsAs.choose_other {token : String} {x y : Scan α} {s t : List Char} {a : α}
    (h : token.toList.isPrefixOf (s ++ t) = false) (hy : ReadsAs y s t a) :
    ReadsAs (do if ← eat token then x else y) s t a := (readsAs_eat_other h).next hy

theorem ReadsAs.map {β : Type} {x : Scan α} {s t : List Char} {a : α} (h : ReadsAs x s t a)
    (f : α → β) : ReadsAs (f <$> x) s t (f a) := by
  intro n
  simp only [Functor.map, StateT.map, h n]
  rfl

theorem ReadsAs.single {x : Scan Event} {depth : Nat} {s t : List Char} {e : Event}
    (h : ReadsAs x s t e) : ReadsAs (single depth x) s t ([e], depth) := h.last (.pure _ t)

theorem readsAs_expect {token : String} {t : List Char} :
    ReadsAs (expect token) token.toList t () := readsAs_eat.last (.pure () t)

theorem not_isSpace_of_isNameStart (c : Char) (h : isNameStart c = true) :
    (!Text.isSpace c) = true := not_isSpace_of_isNameChar c (isNameChar_of_isNameStart h)

theorem begins_name {p : Char → Bool} {s t : List Char} (h : IsName s)
    (hp : ∀ c, isNameStart c = true → p c = true) : Begins p (s ++ t) := by
  cases h with
  | mk hc _ => exact begins_cons (hp _ hc)

theorem begins_spaces {p : Char → Bool} {s t : List Char} (h : IsSpaces s)
    (hp : ∀ c, Text.isSpace c = true → p c = true) (ht : Begins p t) : Begins p (s ++ t) := by
  cases s with
  | nil => exact ht
  | cons c s => exact begins_cons (hp c (h c List.mem_cons_self))

theorem begins_of_begins {p q : Char → Bool} {s : List Char} (h : Begins p s)
    (hpq : ∀ c, p c = true → q c = true) : Begins q s := fun c hc => hpq c (h c hc)

/-! ## Texts up to a mark -/

/-- A pattern whose last character occurs nowhere else in it is first found behind a text that does
not contain it. -/
theorem not_isPrefix_of_not_isInfix {front body t : List Char} {mark : Char} (hmark : mark ∉ front)
    (hbody : ¬ front ++ [mark] <:+: body) (hne : body ≠ []) :
    ¬ front ++ [mark] <+: body ++ (front ++ [mark] ++ t) := by
  intro hpre
  obtain hlong | hshort := Nat.lt_or_ge front.length body.length
  · have hlen : (front ++ [mark]).length ≤ body.length := by
      rw [List.length_append]
      exact hlong
    have hwithin := List.prefix_of_prefix_length_le hpre (List.prefix_append body _) hlen
    exact hbody hwithin.isInfix
  · -- The last character of the pattern would stand inside the pattern behind the text.
    have hpos := List.length_pos_iff.mpr hne
    have hlast := List.prefix_iff_getElem?.mp hpre front.length (by simp)
    rw [List.getElem?_append_right hshort, List.append_assoc,
      List.getElem?_append_left (by omega), List.getElem_concat_length rfl] at hlast
    exact hmark (List.mem_of_getElem? hlast)

theorem indexFrom?_append {front body t : List Char} {mark : Char} (hmark : mark ∉ front)
    (hbody : ¬ front ++ [mark] <:+: body) (n : Nat) :
    indexFrom? (front ++ [mark]) n (body ++ (front ++ [mark] ++ t)) = some (n + body.length) := by
  induction body generalizing n with
  | nil => cases front <;> simp [indexFrom?]
  | cons c body ih =>
      have hhere := not_isPrefix_of_not_isInfix (t := t) hmark hbody (List.cons_ne_nil c body)
      have hlater : ¬ front ++ [mark] <:+: body := fun h => hbody (List.infix_cons h)
      rw [List.cons_append] at hhere
      rw [List.cons_append, indexFrom?, if_neg (by rwa [List.isPrefixOf_iff_prefix]), ih hlater]
      simp only [List.length_cons]
      congr 1
      omega

theorem readsAs_upTo {token : String} (front : List Char) (mark : Char) {body t : List Char}
    (htoken : token.toList = front ++ [mark]) (hmark : mark ∉ front)
    (hbody : ¬ token.toList <:+: body) :
    ReadsAs (upTo token) (body ++ token.toList) t (String.ofList body) := by
  refine readsAs_rest.next ?_
  have hindex : indexFrom? token.toList 0 (body ++ token.toList ++ t) = some body.length := by
    rw [htoken] at hbody ⊢
    rw [List.append_assoc, indexFrom?_append hmark hbody, Nat.zero_add]
  rw [hindex]
  exact readsAs_take.bind (readsAs_take.last (.pure _ t))

/-! ## Bodies of declarations -/

theorem closeFrom?_quoted {quote : Char} {text t : List Char} (h : quote ∉ text) (n : Nat) :
    closeFrom? (some quote) n (text ++ quote :: t) = closeFrom? none (n + text.length + 1) t := by
  induction text generalizing n with
  | nil => simp [closeFrom?]
  | cons c text ih =>
      have hc : c ≠ quote := fun heq => h (heq ▸ List.mem_cons_self)
      rw [List.cons_append, closeFrom?, if_neg hc, ih fun hmem => h (List.mem_cons_of_mem c hmem)]
      simp only [List.length_cons]
      congr 1
      omega

theorem closeFrom?_of_quotesAll {body t : List Char} (h : QuotesAll (· = '>') body) (n : Nat) :
    closeFrom? none n (body ++ '>' :: t) = some (n + body.length) := by
  induction h generalizing n with
  | nil => simp [closeFrom?]
  | plain hquote hc _ ih =>
      rw [List.cons_append, closeFrom?, if_neg hc, hquote]
      simp only [Bool.false_eq_true, if_false, ih, List.length_cons]
      congr 1
      omega
  | literal hliteral _ ih =>
      cases hliteral with
      | @mk quote text hquote hnot =>
          have hne : quote ≠ '>' := by
            rintro rfl
            exact absurd hquote (by decide)
          simp only [List.cons_append, List.append_assoc, List.nil_append]
          rw [closeFrom?, if_neg hne, hquote, if_pos rfl, closeFrom?_quoted hnot, ih]
          simp only [List.length_cons, List.length_append]
          congr 1
          omega

theorem readsAs_upToClose {body t : List Char} (h : QuotesAll (· = '>') body) :
    ReadsAs upToClose (body ++ ">".toList) t (String.ofList (Text.trim body)) := by
  refine readsAs_rest.next ?_
  have hindex : closeFrom? none 0 (body ++ ">".toList ++ t) = some body.length := by
    rw [List.append_assoc]
    exact (closeFrom?_of_quotesAll h 0).trans (by rw [Nat.zero_add])
  rw [hindex]
  exact readsAs_take.bind ((readsAs_take (s := ['>'])).last (.pure _ t))

/-! ## Ignored sections -/

/-- A pattern that does not contain the next character ends before it. -/
theorem isPrefix_of_stop {token s t : List Char} {c : Char} (hc : c ∉ token)
    (h : token <+: s ++ c :: t) : token <+: s := by
  obtain hlt | hle := Nat.lt_or_ge s.length token.length
  · have hs : s ++ [c] <+: s ++ c :: t := ⟨t, by simp⟩
    have hlen : (s ++ [c]).length ≤ token.length := by
      rw [List.length_append]
      exact hlt
    have htoken : s ++ [c] <+: token := List.prefix_of_prefix_length_le hs h hlen
    exact absurd (htoken.subset (by simp)) hc
  · exact List.prefix_of_prefix_length_le h (List.prefix_append s _) hle

theorem not_isPrefix_sectionEnd {c : Char} {s t : List Char} (h : ¬ "]]>".toList <+: c :: s) :
    ¬ "]]>".toList <+: c :: s ++ ("]]>".toList ++ t) := by
  match s with
  | [] => simp
  | [d] => simp
  | d :: e :: s =>
      intro hpre
      exact h (List.prefix_of_prefix_length_le hpre (List.prefix_append _ _) (by simp))

theorem ignoredFrom?_other {c : Char} {s : List Char} (hopening : ¬ "<![".toList <+: c :: s)
    (hclosing : ¬ "]]>".toList <+: c :: s) (depth n : Nat) :
    ignoredFrom? depth n (c :: s) = ignoredFrom? depth (n + 1) s := by
  rw [ignoredFrom?]
  · rintro rest rfl rfl
    exact hopening (by simp)
  · rintro rest - rfl rfl
    exact hclosing (by simp)
  · rintro _ rest - rfl rfl
    exact hclosing (by simp)

theorem ignoredFrom?_of_balances {depth : Nat} {body t : List Char} (h : Balances depth body)
    (n : Nat) :
    ignoredFrom? depth n (body ++ ("]]>".toList ++ t)) = some (n + body.length + 3) := by
  induction h generalizing n with
  | nil => simp [ignoredFrom?]
  | opening _ ih =>
      rw [List.append_assoc]
      refine (ignoredFrom?.eq_1 ..).trans ((ih _).trans ?_)
      simp only [List.length_append]
      congr 1
      simp
      omega
  | closing _ ih =>
      rw [List.append_assoc]
      refine (ignoredFrom?.eq_3 ..).trans ((ih _).trans ?_)
      simp only [List.length_append]
      congr 1
      simp
      omega
  | @other depth c s hopening hclosing _ ih =>
      have hopening' : ¬ "<![".toList <+: c :: (s ++ ("]]>".toList ++ t)) :=
        mt (isPrefix_of_stop (s := c :: s) (c := ']') (by decide)) hopening
      rw [List.cons_append, ignoredFrom?_other hopening' (not_isPrefix_sectionEnd hclosing), ih]
      simp only [List.length_cons]
      congr 1
      omega

theorem readsAs_ignored {body t : List Char} (h : Balances 0 body) :
    ReadsAs ignored (body ++ "]]>".toList) t () := by
  refine readsAs_rest.next ?_
  have hlength : 0 + body.length + 3 = (body ++ "]]>".toList).length := by simp
  rw [List.append_assoc, ignoredFrom?_of_balances h, hlength]
  exact readsAs_take.last (.pure () t)

/-! ## Declarations -/

theorem readsAs_close {s t : List Char} (h : IsSpaces s) : ReadsAs close (s ++ ">".toList) t () :=
  (readsAs_space h (begins_cons (by decide))).bind readsAs_expect

theorem readsAs_atQuote_other {s : List Char} (h : Begins (!isQuote ·) s) :
    ReadsAs atQuote [] s false := by
  refine readsAs_rest.last ?_
  have hnone : s.head?.any isQuote = false := by
    cases s with
    | nil => rfl
    | cons c s => simpa using h c rfl
  rw [hnone]
  exact .pure _ s

/-- White space is passed also where the test after it fails. -/
theorem readsAs_afterSpace_other {test : Scan Bool} {s t : List Char} (hs : IsSpaces s)
    (ht : Begins (!Text.isSpace ·) t) (htest : ReadsAs test [] t false) :
    ReadsAs (afterSpace test) s t false := by
  cases s with
  | nil => exact (readsAs_space hs ht).last (.pure _ t)
  | cons c s =>
      have hgap : IsGap (c :: s) := ⟨List.cons_ne_nil c s, hs⟩
      exact (readsAs_gap hgap ht).last htest

theorem begins_ids {publicId systemId : Option String} {ids t : List Char}
    (h : WritesIds publicId systemId ids) (hne : ids ≠ []) :
    Begins (fun c => c == 'S' || c == 'P') (ids ++ t) := by
  cases h with
  | absent => exact absurd rfl hne
  | systemOnly => exact begins_cons (by decide)
  | publicAndSystem => exact begins_cons (by decide)

theorem ne_nil_of_writesIds {publicId : Option String} {systemId : String} {ids : List Char}
    (h : WritesIds publicId (some systemId) ids) : ids ≠ [] := by
  cases h <;> simp

theorem isQuote_of_keyword (c : Char) (h : (c == 'S' || c == 'P') = true) :
    (!isQuote c) = true ∧ (!Text.isSpace c) = true := by
  simp only [Bool.or_eq_true, beq_iff_eq] at h
  rcases h with rfl | rfl <;> decide

/-- A public identifier alone is followed by the end of the declaration. -/
theorem readsAs_externalId_public {publicId : String} {gap literal back t : List Char}
    (hgap : IsGap gap) (hliteral : WritesLiteral publicId literal) (hback : IsSpaces back) :
    ReadsAs (externalId true) ("PUBLIC".toList ++ (gap ++ (literal ++ back))) ('>' :: t)
      (some publicId, none) := by
  refine .choose_other (by simp [List.isPrefixOf]) (.choose ?_)
  refine (readsAs_requireSpace hgap ?_).bind ((readsAs_literal hliteral).bind ?_)
  · rw [List.append_assoc]
    exact begins_literal hliteral not_isSpace_of_isQuote
  · have hnone : ReadsAs (afterSpace atQuote) back ('>' :: t) false :=
      readsAs_afterSpace_other hback (begins_cons (by decide))
        (readsAs_atQuote_other (begins_cons (by decide)))
    exact hnone.last (.pure _ _)

theorem exists_cons_of_writesNotationIds {publicId systemId : Option String} {ids : List Char}
    (h : WritesNotationIds publicId systemId ids) :
    ∃ c rest, ids = c :: rest ∧ isNameStart c = true := by
  cases h with
  | both h =>
      cases h with
      | systemOnly => exact ⟨'S', _, rfl, by decide⟩
      | publicAndSystem => exact ⟨'P', _, rfl, by decide⟩
  | publicOnly => exact ⟨'P', _, rfl, by decide⟩

theorem readsAs_notationDecl {publicId systemId : Option String}
    {gap name gap' ids back t : List Char} (hgap : IsGap gap) (hname : IsName name)
    (hgap' : IsGap gap') (hids : WritesNotationIds publicId systemId ids) (hback : IsSpaces back) :
    ReadsAs notationDecl (gap ++ (name ++ (gap' ++ (ids ++ (back ++ ">".toList))))) t
      (.notationDecl (String.ofList name) publicId systemId) := by
  have hidsSpace : Begins (!Text.isSpace ·) (ids ++ (back ++ ">".toList) ++ t) := by
    obtain ⟨keyword, rest, rfl, hstart⟩ := exists_cons_of_writesNotationIds hids
    exact begins_cons (not_isSpace_of_isNameStart keyword hstart)
  refine (readsAs_requireSpace hgap ?_).bind ((readsAs_name hname ?_).bind ?_)
  · rw [List.append_assoc]
    exact begins_name hname not_isSpace_of_isNameStart
  · rw [List.append_assoc]
    exact begins_gap hgap' not_isNameChar_of_isSpace
  · refine (readsAs_gap hgap' hidsSpace).bind ?_
    cases hids with
    | both hids =>
        exact (readsAs_externalId hids (ne_nil_of_writesIds hids)).bind
          ((readsAs_close hback).last (.pure _ t))
    | @publicOnly publicId gap'' literal hgap'' hliteral =>
        -- The white space at the end is passed in search of a system identifier.
        have hsplit : "PUBLIC".toList ++ gap'' ++ literal ++ (back ++ ">".toList) =
            "PUBLIC".toList ++ (gap'' ++ (literal ++ back)) ++ ">".toList := by
          simp only [List.append_assoc]
        rw [hsplit]
        refine (readsAs_externalId_public hgap'' hliteral hback).bind ?_
        exact (readsAs_close (s := []) (by simp [IsSpaces])).last (.pure _ t)

theorem readsAs_entityName {name : String} {head t : List Char} (h : WritesEntityName name head)
    (ht : Begins (!isNameChar ·) t) : ReadsAs entityName head t name := by
  cases h with
  | @general gap name hgap hname =>
      refine (readsAs_requireSpace hgap ?_).bind (.choose_other ?_ (readsAs_name hname ht))
      · exact begins_name hname not_isSpace_of_isNameStart
      · cases hname with
        | @mk c rest hstart _ =>
            have hne : ('%' == c) = false := by
              rw [beq_eq_false_iff_ne]
              rintro rfl
              exact absurd hstart (by decide)
            simp [List.isPrefixOf, hne]
  | @parameter gap gap' name hgap hgap' hname =>
      simp only [List.append_assoc]
      refine (readsAs_requireSpace hgap (begins_cons (by decide))).bind (.choose ?_)
      refine (readsAs_requireSpace hgap' ?_).bind ((readsAs_name hname ht).last (.pure _ t))
      exact begins_name hname not_isSpace_of_isNameStart

theorem isParameterName_ofList {name : List Char} (h : IsName name) :
    isParameterName (String.ofList name) = false := by
  cases h with
  | @mk c rest hstart _ =>
      have hne : c ≠ '%' := by
        rintro rfl
        exact absurd hstart (by decide)
      simp [isParameterName, hne]

theorem isParameterName_parameterName (name : String) :
    isParameterName (parameterName name) = true := by
  simp [isParameterName, parameterName]

theorem readsAs_replacement {text replaced : String} {t : List Char}
    (h : expandCharRefs text = .ok replaced) : ReadsAs (replacement text) [] t replaced := by
  intro n
  simp [replacement, h, Except.map]

theorem readsAs_entity_internal {name text replaced : String} {head gap literal back t : List Char}
    (hname : WritesEntityName name head) (hgap : IsGap gap) (hliteral : WritesLiteral text literal)
    (hreplaced : expandCharRefs text = .ok replaced) (hback : IsSpaces back) :
    ReadsAs (entity base) (head ++ (gap ++ (literal ++ (back ++ ">".toList)))) t
      (.internalEntity name replaced) := by
  refine (readsAs_entityName hname ?_).bind ((readsAs_requireSpace hgap ?_).bind ?_)
  · rw [List.append_assoc]
    exact begins_gap hgap not_isNameChar_of_isSpace
  · rw [List.append_assoc]
    exact begins_literal hliteral not_isSpace_of_isQuote
  · refine ReadsAs.next (a := true) ?_ ?_
    · rw [List.append_assoc]
      exact readsAs_atQuote hliteral
    · refine (readsAs_literal hliteral).bind ((readsAs_close hback).last ?_)
      exact (readsAs_replacement hreplaced).next (.pure _ t)

/-- What is common to the declarations of entities with identifiers. -/
theorem readsAs_entity_external {name systemId : String} {publicId : Option String}
    {head gap ids tail t : List Char} {e : Event} (hname : WritesEntityName name head)
    (hgap : IsGap gap) (hids : WritesIds publicId (some systemId) ids)
    (htail : ReadsAs (externalEntity base name) (ids ++ tail) t e) :
    ReadsAs (entity base) (head ++ (gap ++ (ids ++ tail))) t e := by
  have hkeyword := begins_ids (t := tail ++ t) hids (ne_nil_of_writesIds hids)
  refine (readsAs_entityName hname ?_).bind ((readsAs_requireSpace hgap ?_).bind ?_)
  · rw [List.append_assoc]
    exact begins_gap hgap not_isNameChar_of_isSpace
  · rw [List.append_assoc]
    exact begins_of_begins hkeyword fun c hc => (isQuote_of_keyword c hc).2
  · refine ReadsAs.next (a := false) ?_ htail
    rw [List.append_assoc]
    exact readsAs_atQuote_other (begins_of_begins hkeyword fun c hc => (isQuote_of_keyword c hc).1)

theorem readsAs_externalEntity {name systemId : String} {publicId : Option String}
    {ids back t : List Char} (hids : WritesIds publicId (some systemId) ids)
    (hback : IsSpaces back) :
    ReadsAs (externalEntity base name) (ids ++ (back ++ ">".toList)) t
      (.externalEntity name publicId systemId base) := by
  have hnone : ReadsAs (afterSpace (eat "NDATA")) back ('>' :: t) false :=
    readsAs_afterSpace_other hback (begins_cons (by decide))
      (readsAs_eat_other (by simp [List.isPrefixOf]))
  refine (readsAs_externalId hids (ne_nil_of_writesIds hids)).bind ?_
  refine hnone.bind ?_
  exact readsAs_expect.last (.pure _ t)

theorem readsAs_unparsedEntity {systemId : String} {publicId : Option String}
    {name ids gap gap' notationName back t : List Char} (hname : IsName name)
    (hids : WritesIds publicId (some systemId) ids) (hgap : IsGap gap) (hgap' : IsGap gap')
    (hnotationName : IsName notationName) (hback : IsSpaces back) :
    ReadsAs (externalEntity base (String.ofList name))
      (ids ++ (gap ++ ("NDATA".toList ++ (gap' ++ (notationName ++ (back ++ ">".toList)))))) t
      (.unparsedEntity (String.ofList name) publicId systemId (String.ofList notationName)) := by
  have hdata : ReadsAs (afterSpace (eat "NDATA")) (gap ++ "NDATA".toList)
      (gap' ++ (notationName ++ (back ++ ">".toList)) ++ t) true := by
    refine (readsAs_gap hgap (begins_cons (by decide))).bind ?_
    exact readsAs_eat
  have hrest : ReadsAs (do
      requireSpace
      let notationName ← Scan.name
      close
      return Event.unparsedEntity (String.ofList name) publicId systemId notationName)
      (gap' ++ (notationName ++ (back ++ ">".toList))) t
      (.unparsedEntity (String.ofList name) publicId systemId (String.ofList notationName)) := by
    refine (readsAs_requireSpace hgap' ?_).bind ((readsAs_name hnotationName ?_).bind ?_)
    · rw [List.append_assoc]
      exact begins_name hnotationName not_isSpace_of_isNameStart
    · rw [List.append_assoc]
      exact begins_spaces hback not_isNameChar_of_isSpace (begins_cons (by decide))
    · exact (readsAs_close hback).last (.pure _ t)
  refine (readsAs_externalId hids (ne_nil_of_writesIds hids)).bind ?_
  rw [← List.append_assoc gap]
  refine hdata.bind ?_
  simp only [isParameterName_ofList hname]
  exact hrest

/-- A declaration with a name and a body that is kept as it is written. -/
theorem readsAs_declared {declare : String → String → Event} {gap name body t : List Char}
    (hgap : IsGap gap) (hname : IsName name) (hstop : Begins (!isNameChar ·) body)
    (hbody : QuotesAll (· = '>') body) :
    ReadsAs (do
      requireSpace
      let declared ← Scan.name
      return declare declared (← upToClose)) (gap ++ (name ++ (body ++ ">".toList))) t
      (declare (String.ofList name) (String.ofList (Text.trim body))) := by
  refine (readsAs_requireSpace hgap ?_).bind ((readsAs_name hname ?_).bind ?_)
  · rw [List.append_assoc]
    exact begins_name hname not_isSpace_of_isNameStart
  · cases body with
    | nil => exact begins_cons (by decide)
    | cons c body => exact begins_cons (hstop c rfl)
  · exact (readsAs_upToClose hbody).last (.pure _ t)

theorem readsAs_instruction {target data : String} {body t : List Char}
    (h : WritesInstruction target data body) (hbody : ¬ "?>".toList <:+: body) :
    ReadsAs instruction (body ++ "?>".toList) t (.instruction target data) := by
  refine (readsAs_upTo ['?'] '>' rfl (by decide) hbody).last ?_
  have hsplit : String.ofList (body.takeWhile (!Text.isBlank ·)) = target ∧
      String.ofList (Text.trim ((body.dropWhile (!Text.isBlank ·)).drop 1)) = data := by
    cases h with
    | bare htarget =>
        have hpos : ∀ c ∈ body, (!Text.isBlank c) = true := fun c hc => by simp [htarget c hc]
        rw [List.takeWhile_eq_self_iff.mpr hpos, List.dropWhile_eq_nil_iff.mpr hpos]
        exact ⟨rfl, rfl⟩
    | @withData target data blank htarget hblank =>
        have hpos : ∀ c ∈ target, (!Text.isBlank c) = true := fun c hc => by simp [htarget c hc]
        have hstop : ∀ c ∈ (blank :: data).head?, (!Text.isBlank c) = false := by
          rintro _ ⟨⟩
          simp [hblank]
        rw [Text.takeWhile_append_stop hpos hstop, Text.dropWhile_append_stop hpos hstop]
        exact ⟨rfl, rfl⟩
  rw [← hsplit.1, ← hsplit.2]
  simp only [String.toList_ofList]
  exact .pure _ t

theorem readsAs_parameterReference {name t : List Char} (h : IsName name) :
    ReadsAs parameterReference (name ++ ";".toList) t
      (.parameterReference (parameterName (String.ofList name))) := by
  refine (readsAs_name h (begins_cons (by decide))).bind ?_
  exact readsAs_expect.last (.pure _ t)

/-! ## Markup -/

theorem readsAs_event {e : Event} {s : List Char} (h : WritesEvent base e s) (depth : Nat)
    (t : List Char) : ReadsAs (markup base depth) s t ([e], depth) := by
  cases h with
  | comment hbody =>
      rw [List.append_assoc]
      refine .choose (.single (.map ?_ _))
      exact readsAs_upTo ['-', '-'] '>' rfl (by decide) hbody
  | instruction hbody hwritten =>
      rw [List.append_assoc]
      refine .choose_other (by simp [List.isPrefixOf]) (.choose (.single ?_))
      exact readsAs_instruction hwritten hbody
  | internalEntity hname hgap hliteral hreplaced hback =>
      simp only [List.append_assoc]
      iterate 4 refine .choose_other (by simp [List.isPrefixOf]) ?_
      exact .choose (.single (readsAs_entity_internal hname hgap hliteral hreplaced hback))
  | externalEntity hname hgap hids hback =>
      simp only [List.append_assoc]
      iterate 4 refine .choose_other (by simp [List.isPrefixOf]) ?_
      refine .choose (.single (readsAs_entity_external hname hgap hids ?_))
      exact readsAs_externalEntity hids hback
  | @unparsedEntity _ _ gap name _ _ _ _ _ _ hgap hname hgap' hids hgap₂ hgap₃ hnotationName
      hback =>
      simp only [List.append_assoc]
      iterate 4 refine .choose_other (by simp [List.isPrefixOf]) ?_
      refine .choose (.single ?_)
      rw [← List.append_assoc gap]
      refine readsAs_entity_external (.general hgap hname) hgap' hids ?_
      exact readsAs_unparsedEntity hname hids hgap₂ hgap₃ hnotationName hback
  | element hgap hname hstop hbody =>
      simp only [List.append_assoc]
      iterate 5 refine .choose_other (by simp [List.isPrefixOf]) ?_
      exact .choose (.single (readsAs_declared hgap hname hstop hbody))
  | attlist hgap hname hstop hbody =>
      simp only [List.append_assoc]
      iterate 6 refine .choose_other (by simp [List.isPrefixOf]) ?_
      exact .choose (.single (readsAs_declared hgap hname hstop hbody))
  | notationDecl hgap hname hgap' hids hback =>
      simp only [List.append_assoc]
      iterate 7 refine .choose_other (by simp [List.isPrefixOf]) ?_
      exact .choose (.single (readsAs_notationDecl hgap hname hgap' hids hback))
  | parameterReference hname =>
      rw [List.append_assoc]
      iterate 8 refine .choose_other (by simp [List.isPrefixOf]) ?_
      exact .choose (.single (readsAs_parameterReference hname))

theorem readsAs_markup {events : List Event} {depth depth' : Nat} {s : List Char}
    (h : WritesMarkup base depth events depth' s) (t : List Char) :
    ReadsAs (markup base depth) s t (events, depth') := by
  cases h with
  | event h => exact readsAs_event h depth t
  | included hbefore hafter =>
      simp only [sectionStart, List.append_assoc]
      iterate 2 refine .choose_other (by simp [List.isPrefixOf]) ?_
      refine .choose ((readsAs_space hbefore (begins_cons (by decide))).bind (.choose ?_))
      refine (readsAs_space hafter (begins_cons (by decide))).bind ?_
      exact readsAs_expect.last (.pure _ t)
  | ignored hbefore hafter hbody =>
      simp only [ignoredSection, sectionStart, List.append_assoc]
      iterate 2 refine .choose_other (by simp [List.isPrefixOf]) ?_
      refine .choose ((readsAs_space hbefore (begins_cons (by decide))).bind ?_)
      refine .choose_other (by simp [List.isPrefixOf]) (.choose ?_)
      refine (readsAs_space hafter (begins_cons (by decide))).bind (readsAs_expect.bind ?_)
      exact (readsAs_ignored hbody).last (.pure _ t)
  | sectionEnd =>
      iterate 3 refine .choose_other (by simp [List.isPrefixOf]) ?_
      have h : ReadsAs (sectionEnd (depth' + 1)) [] t ([.endConditional], depth') := .pure _ t
      exact .choose h

end Scan

/-! ## Subsets -/

variable {base : Option String} {depth depth' : Nat} {events : List Event} {s : List Char}

theorem WritesMarkup.begins (h : WritesMarkup base depth events depth' s) (t : List Char) :
    Begins (!Text.isSpace ·) (s ++ t) := by
  cases h with
  | event h => cases h <;> exact Scan.begins_cons (by decide)
  | included => exact Scan.begins_cons (by decide)
  | ignored => exact Scan.begins_cons (by decide)
  | sectionEnd => exact Scan.begins_cons (by decide)

theorem Cursor.afterSpace_of_begins {n : Nat} {s : List Char} (h : Begins (!Text.isSpace ·) s) :
    (Cursor.mk n s).afterSpace = ⟨n, s⟩ := by
  have hnone : s.takeWhile Text.isSpace = [] := Scan.takeWhile_eq (s := []) (by simp) h
  simp [afterSpace, advance, hnone]

theorem Cursor.afterSpace_space {n : Nat} {c : Char} {s : List Char} (h : Text.isSpace c = true) :
    (Cursor.mk n (c :: s)).afterSpace = (Cursor.mk (n + c.utf8Size) s).afterSpace := by
  simp [afterSpace, advance, h, Nat.add_assoc]

theorem scanFrom_space {n : Nat} {c : Char} {s : List Char} (h : Text.isSpace c = true) :
    scanFrom base depth ⟨n, c :: s⟩ = scanFrom base depth ⟨n + c.utf8Size, s⟩ := by
  rw [scanFrom, scanFrom, Cursor.afterSpace_space h]

/-- Where the scan comes to markup, it goes on behind it. -/
theorem scanFrom_markup (h : WritesMarkup base depth events depth' s) (n : Nat) (t : List Char) :
    scanFrom base depth ⟨n, s ++ t⟩ =
      (scanFrom base depth' ⟨n + Text.byteLength s, t⟩).map (events ++ ·) := by
  have hread := Scan.readsAs_markup h t n
  have hne : s ++ t ≠ [] := by
    cases h with
    | event h => cases h <;> simp
    | _ => simp [ignoredSection, sectionStart]
  rw [scanFrom, Cursor.afterSpace_of_begins (h.begins t), if_neg hne]
  split
  · next hfault =>
      rw [hread] at hfault
      cases hfault
  · next hfound =>
      rw [hread] at hfound
      cases hfound
      cases scanFrom base depth' ⟨n + Text.byteLength s, t⟩ <;> rfl

/-- A written subset is scanned as its events, and the scan goes on with what follows it. -/
theorem scanFrom_append (h : WritesSubset base depth events depth' s) (n : Nat) (t : List Char) :
    scanFrom base depth ⟨n, s ++ t⟩ =
      (scanFrom base depth' ⟨n + Text.byteLength s, t⟩).map (events ++ ·) := by
  induction h generalizing n with
  | nil =>
      simp only [List.nil_append, Text.byteLength_nil, Nat.add_zero]
      cases scanFrom base _ ⟨n, t⟩ <;> rfl
  | space hc _ ih =>
      rw [List.cons_append, scanFrom_space hc, ih, Text.byteLength_cons, Nat.add_assoc]
  | markup hmarkup _ ih =>
      rw [List.append_assoc, scanFrom_markup hmarkup, ih, Text.byteLength_append, Nat.add_assoc]
      cases scanFrom base _ _ <;> simp [Except.map]

theorem scanFrom_nil (n : Nat) : scanFrom base 0 ⟨n, []⟩ = .ok [] := by
  rw [scanFrom]
  rfl

end XmlBounds.Dtd
