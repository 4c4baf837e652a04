import XmlBounds.Dtd.Doctype
import XmlBounds.Proofs.Text.Spans
import XmlBounds.Proofs.Text.Trimming

/-!
# DOCTYPE declarations as they are written

A DOCTYPE declaration that is written with a root name and, at will, with identifiers of an external
subset is split into just these parts, whatever the white space between them. A root name that
begins with the letters of the keyword, or with a blank that names may contain, loses them: what is
left of it counts as the root name if it is one, and otherwise the declaration cannot be read.
-/

namespace XmlBounds.Dtd

/-! ## Written forms -/

/-- A name as the scanner has it. -/
inductive IsName : List Char → Prop where
  | mk {c : Char} {rest : List Char} : Scan.isNameStart c = true →
      (∀ d ∈ rest, Scan.isNameChar d = true) → IsName (c :: rest)

theorem IsName.ne_nil {s : List Char} (h : IsName s) : s ≠ [] := by
  cases h
  exact List.cons_ne_nil _ _

/-- White space between two parts. -/
structure IsGap (s : List Char) : Prop where
  nonempty : s ≠ []
  spaces : ∀ c ∈ s, Text.isSpace c = true

/-- A text between two quotes that do not occur in it. -/
inductive WritesLiteral : String → List Char → Prop where
  | mk {quote : Char} {text : String} : Scan.isQuote quote = true → quote ∉ text.toList →
      WritesLiteral text (quote :: text.toList ++ [quote])

/-- The identifiers of an external subset, public and system. -/
inductive WritesIds : Option String → Option String → List Char → Prop where
  | absent : WritesIds none none []
  | systemOnly {systemId : String} {gap literal : List Char} : IsGap gap →
      WritesLiteral systemId literal →
      WritesIds none (some systemId) ("SYSTEM".toList ++ gap ++ literal)
  | publicAndSystem {publicId systemId : String} {gap gap' literal literal' : List Char} :
      IsGap gap → IsGap gap' → WritesLiteral publicId literal → WritesLiteral systemId literal' →
      WritesIds (some publicId) (some systemId)
        ("PUBLIC".toList ++ gap ++ literal ++ gap' ++ literal')

/-- A DOCTYPE declaration without an internal subset, as it is written after its keyword. -/
inductive WritesDoctype (root : List Char) (publicId systemId : Option String) :
    List Char → Prop where
  | mk {front gap ids back : List Char} : (∀ c ∈ front, Text.isSpace c = true) →
      (∀ c ∈ gap, Text.isSpace c = true) → (∀ c ∈ back, Text.isSpace c = true) →
      WritesIds publicId systemId ids → (ids = [] ∨ gap ≠ []) →
      WritesDoctype root publicId systemId (front ++ root ++ gap ++ ids ++ back)

/-- What is left of a root name once the blanks and the keyword in front are dropped. -/
def remainingRoot (root : List Char) : List Char := dropKeyword (Text.trimStart root)

/-- The root name begins neither with a blank nor with the letters of the keyword, in any case. -/
structure IsPlainRoot (root : List Char) : Prop where
  no_blank : ∀ c ∈ root.head?, Text.isBlank c = false
  no_keyword : (root.take 7).map Char.toUpper ≠ "DOCTYPE".toList

/-! ## Readers on written forms -/

/-- What follows is nothing, or begins with a character of a class. -/
def Begins (p : Char → Bool) (s : List Char) : Prop := ∀ c ∈ s.head?, p c = true

namespace Scan

variable {α β : Type}

/-- Where the text goes on with `s` and then with `t`, the reader gives `a` and comes to `t`. -/
def ReadsAs (x : Scan α) (s t : List Char) (a : α) : Prop :=
  ∀ n, x ⟨n, s ++ t⟩ = .ok (a, ⟨n + Text.byteLength s, t⟩)

/-- The reader cannot go on with the text. -/
def Fails (x : Scan α) (s : List Char) : Prop := ∀ n, ∃ fault, x ⟨n, s⟩ = .error fault

theorem ReadsAs.pure (a : α) (t : List Char) : ReadsAs (pure a : Scan α) [] t a := fun _ => rfl

theorem ReadsAs.bind {x : Scan α} {f : α → Scan β} {s t u : List Char} {a : α} {b : β}
    (hx : ReadsAs x s (t ++ u) a) (hf : ReadsAs (f a) t u b) : ReadsAs (x >>= f) (s ++ t) u b := by
  intro n
  have hrun : (x >>= f) ⟨n, s ++ (t ++ u)⟩ = f a ⟨n + Text.byteLength s, t ++ u⟩ := by
    simp only [Bind.bind, StateT.bind, hx n]
    rfl
  rw [List.append_assoc, hrun, hf, Text.byteLength_append, Nat.add_assoc]

theorem ReadsAs.next {x : Scan α} {f : α → Scan β} {s t : List Char} {a : α} {b : β}
    (hx : ReadsAs x [] (s ++ t) a) (hf : ReadsAs (f a) s t b) : ReadsAs (x >>= f) s t b :=
  hx.bind hf

theorem ReadsAs.last {x : Scan α} {f : α → Scan β} {s t : List Char} {a : α} {b : β}
    (hx : ReadsAs x s t a) (hf : ReadsAs (f a) [] t b) : ReadsAs (x >>= f) s t b := by
  have h := ReadsAs.bind (t := []) hx hf
  rwa [List.append_nil] at h

theorem Fails.bind {x : Scan α} {f : α → Scan β} {s : List Char} (h : Fails x s) :
    Fails (x >>= f) s := by
  intro n
  obtain ⟨fault, hfault⟩ := h n
  refine ⟨fault, ?_⟩
  simp only [Bind.bind, StateT.bind, hfault]
  rfl

theorem ReadsAs.fails {x : Scan α} {f : α → Scan β} {s t : List Char} {a : α}
    (hx : ReadsAs x s t a) (hf : Fails (f a) t) : Fails (x >>= f) (s ++ t) := by
  intro n
  obtain ⟨fault, hfault⟩ := hf (n + Text.byteLength s)
  refine ⟨fault, ?_⟩
  simp only [Bind.bind, StateT.bind, hx n]
  exact hfault

theorem fails_fail (complaint : Complaint) (s : List Char) : Fails (fail complaint : Scan α) s :=
  fun _ => ⟨_, rfl⟩

theorem readsAs_rest {t : List Char} : ReadsAs rest [] t t := fun _ => rfl

theorem readsAs_take {s t : List Char} : ReadsAs (take s.length) s t s := by
  intro n
  simp [take, Cursor.advance]

theorem takeWhile_eq {p : Char → Bool} {s t : List Char} (hs : ∀ c ∈ s, p c = true)
    (ht : Begins (!p ·) t) : (s ++ t).takeWhile p = s :=
  Text.takeWhile_append_stop hs fun c hc => by simpa using ht c hc

theorem readsAs_takeWhile {p : Char → Bool} {s t : List Char} (hs : ∀ c ∈ s, p c = true)
    (ht : Begins (!p ·) t) : ReadsAs (takeWhile p) s t s := by
  refine readsAs_rest.next ?_
  rw [takeWhile_eq hs ht]
  exact readsAs_take

theorem readsAs_space {s t : List Char} (hs : ∀ c ∈ s, Text.isSpace c = true)
    (ht : Begins (!Text.isSpace ·) t) : ReadsAs space s t (decide (s ≠ [])) :=
  (readsAs_takeWhile hs ht).last (.pure _ t)

theorem readsAs_gap {s t : List Char} (hs : IsGap s) (ht : Begins (!Text.isSpace ·) t) :
    ReadsAs space s t true := by
  have h := readsAs_space hs.spaces ht
  rwa [decide_eq_true hs.nonempty] at h

theorem readsAs_requireSpace {s t : List Char} (hs : IsGap s) (ht : Begins (!Text.isSpace ·) t) :
    ReadsAs requireSpace s t () :=
  (readsAs_gap hs ht).last (.pure () t)

theorem readsAs_eat {token : String} {t : List Char} :
    ReadsAs (eat token) token.toList t true := by
  intro n
  have hstarts : token.toList.isPrefixOf (token.toList ++ t) = true := by simp
  simp [eat, hstarts, Cursor.advance]

theorem readsAs_eat_other {token : String} {t : List Char}
    (h : token.toList.isPrefixOf t = false) : ReadsAs (eat token) [] t false := by
  intro n
  simp [eat, h]

theorem isNameChar_of_isNameStart {c : Char} (h : isNameStart c = true) : isNameChar c = true := by
  simp [isNameChar, h]

theorem isNameChar_of_isName {s : List Char} (h : IsName s) : ∀ c ∈ s, isNameChar c = true := by
  cases h with
  | mk hstart hrest =>
      intro c hc
      rcases List.mem_cons.mp hc with rfl | hc
      · exact isNameChar_of_isNameStart hstart
      · exact hrest c hc

theorem readsAs_name {s t : List Char} (hs : IsName s) (ht : Begins (!isNameChar ·) t) :
    ReadsAs name s t (String.ofList s) := by
  cases hs with
  | @mk c rest hstart hrest =>
      have hstarts : namePrefix (c :: rest ++ t) = c :: rest := by
        simp only [List.cons_append, namePrefix, hstart, takeWhile_eq hrest ht, if_true]
      refine readsAs_rest.next ?_
      rw [hstarts, if_neg (List.cons_ne_nil c rest)]
      exact readsAs_take.last (.pure _ t)

theorem fails_name {s : List Char} (h : Begins (!isNameStart ·) s) : Fails name s := by
  have hstarts : namePrefix s = [] := by
    cases s with
    | nil => rfl
    | cons c s =>
        have hc : isNameStart c = false := by simpa using h c rfl
        simp [namePrefix, hc]
  refine readsAs_rest.fails ?_
  rw [hstarts, if_pos rfl]
  exact fails_fail _ _

theorem indexFrom?_eq {quote : Char} {s t : List Char} (h : quote ∉ s) (n : Nat) :
    indexFrom? [quote] n (s ++ quote :: t) = some (n + s.length) := by
  induction s generalizing n with
  | nil => simp [indexFrom?]
  | cons c s ih =>
      have hc : quote ≠ c := fun heq => h (heq ▸ List.mem_cons_self)
      have hs : quote ∉ s := fun hmem => h (List.mem_cons_of_mem c hmem)
      rw [List.cons_append, indexFrom?, if_neg (by simp [List.isPrefixOf, hc]), ih hs]
      simp only [List.length_cons]
      congr 1
      omega

theorem readsAs_literal {text : String} {s t : List Char} (h : WritesLiteral text s) :
    ReadsAs literal s t text := by
  cases h with
  | @mk quote _ hquote hnot =>
      have hindex : indexFrom? [quote] 0 (text.toList ++ [quote] ++ t) =
          some text.toList.length := by
        rw [List.append_assoc, List.singleton_append, indexFrom?_eq hnot, Nat.zero_add]
      have htext : ReadsAs (do
          let passed ← take text.toList.length
          let _ ← take 1
          return String.ofList passed) (text.toList ++ [quote]) t text := by
        have hlast : ReadsAs (do
            let _ ← take 1
            return String.ofList text.toList) [quote] t text := by
          rw [String.ofList_toList]
          exact (readsAs_take (s := [quote])).last (.pure _ t)
        exact readsAs_take.bind hlast
      refine readsAs_rest.next ?_
      have hsame : quote :: text.toList ++ [quote] = [quote] ++ (text.toList ++ [quote]) := rfl
      rw [hsame, List.append_assoc [quote], List.singleton_append]
      simp only [hquote, if_true, hindex]
      exact (readsAs_take (s := [quote])).bind htext

theorem begins_cons {p : Char → Bool} {c : Char} {s : List Char} (h : p c = true) :
    Begins p (c :: s) := by
  rintro d ⟨⟩
  exact h

theorem begins_nil {p : Char → Bool} : Begins p [] := by
  rintro d ⟨⟩

theorem begins_literal {p : Char → Bool} {text : String} {s t : List Char}
    (h : WritesLiteral text s) (hp : ∀ c, isQuote c = true → p c = true) : Begins p (s ++ t) := by
  cases h with
  | mk hquote _ => exact begins_cons (hp _ hquote)

theorem begins_gap {p : Char → Bool} {s t : List Char} (h : IsGap s)
    (hp : ∀ c, Text.isSpace c = true → p c = true) : Begins p (s ++ t) := by
  cases s with
  | nil => exact absurd rfl h.nonempty
  | cons c s => exact begins_cons (hp c (h.spaces c List.mem_cons_self))

theorem not_isSpace_of_isQuote (c : Char) (h : isQuote c = true) : (!Text.isSpace c) = true := by
  simp only [isQuote, Bool.or_eq_true, beq_iff_eq] at h
  rcases h with rfl | rfl <;> decide

theorem not_isNameChar_of_isSpace (c : Char) (h : Text.isSpace c = true) :
    (!isNameChar c) = true := by
  simp only [Text.isSpace, Bool.or_eq_true, beq_iff_eq] at h
  rcases h with ((rfl | rfl) | rfl) | rfl <;> decide

theorem not_isSpace_of_isNameChar (c : Char) (h : isNameChar c = true) :
    (!Text.isSpace c) = true := by
  cases hspace : Text.isSpace c with
  | false => rfl
  | true =>
      have hnot := not_isNameChar_of_isSpace c hspace
      rw [h] at hnot
      cases hnot

theorem readsAs_atQuote {text : String} {s t : List Char} (h : WritesLiteral text s) :
    ReadsAs atQuote [] (s ++ t) true := by
  cases h with
  | mk hquote _ =>
      refine readsAs_rest.last ?_
      simp only [List.cons_append, List.head?_cons, Option.any_some, hquote]
      exact .pure _ _

theorem readsAs_externalId {optional : Bool} {publicId systemId : Option String}
    {ids t : List Char} (h : WritesIds publicId systemId ids) (hne : ids ≠ []) :
    ReadsAs (externalId optional) ids t (publicId, systemId) := by
  cases h with
  | absent => exact absurd rfl hne
  | @systemOnly systemId gap literal hgap hliteral =>
      rw [List.append_assoc]
      refine readsAs_eat.bind (ReadsAs.bind (readsAs_requireSpace hgap ?_) ?_)
      · exact begins_literal hliteral not_isSpace_of_isQuote
      · exact (readsAs_literal hliteral).last (.pure _ t)
  | @publicAndSystem publicId systemId gap gap' literal literal' hgap hgap' hliteral hliteral' =>
      simp only [List.append_assoc]
      refine (readsAs_eat_other (by simp [List.isPrefixOf])).next ?_
      refine readsAs_eat.bind (ReadsAs.bind (readsAs_requireSpace hgap ?_) ?_)
      · rw [List.append_assoc]
        exact begins_literal hliteral not_isSpace_of_isQuote
      · refine (readsAs_literal hliteral).bind ?_
        have hquoted : ReadsAs (afterSpace atQuote) gap' (literal' ++ t) true :=
          (readsAs_gap hgap' (begins_literal hliteral' not_isSpace_of_isQuote)).last
            (readsAs_atQuote hliteral')
        exact hquoted.bind ((readsAs_literal hliteral').last (.pure _ t))

theorem readsAs_at? (token : String) (t : List Char) :
    ReadsAs (at? token) [] t (token.toList.isPrefixOf t) :=
  readsAs_rest.last (.pure _ t)

theorem readsAs_externalSubset {publicId systemId : Option String} {ids back : List Char}
    (h : WritesIds publicId systemId ids) (hne : ids ≠ [])
    (hback : ∀ c ∈ back, Text.isSpace c = true) :
    ReadsAs externalSubset (ids ++ back) [] (publicId, systemId) := by
  have hkeyword : ("SYSTEM".toList.isPrefixOf (ids ++ back ++ []) ||
      "PUBLIC".toList.isPrefixOf (ids ++ back ++ [])) = true := by
    cases h with
    | absent => exact absurd rfl hne
    | systemOnly => simp [List.isPrefixOf]
    | publicAndSystem => simp [List.isPrefixOf]
  refine (readsAs_at? "SYSTEM" _).next ((readsAs_at? "PUBLIC" _).next ?_)
  rw [if_pos hkeyword]
  refine ReadsAs.bind (readsAs_externalId h hne) ?_
  exact (readsAs_space hback begins_nil).last (.pure _ [])

/-- Without a keyword there are no identifiers. -/
theorem readsAs_externalSubset_none {t : List Char}
    (hsystem : "SYSTEM".toList.isPrefixOf t = false)
    (hpublic : "PUBLIC".toList.isPrefixOf t = false) :
    ReadsAs externalSubset [] t (none, none) := by
  refine (readsAs_at? "SYSTEM" _).next ((readsAs_at? "PUBLIC" _).next ?_)
  rw [List.nil_append, hsystem, hpublic]
  exact .pure _ t

theorem readsAs_internalSubset_none {t : List Char} (h : "[".toList.isPrefixOf t = false) :
    ReadsAs internalSubset [] t none :=
  (readsAs_eat_other h).last (.pure _ t)

/-- What follows the root name, if that does not run on into it. -/
theorem readsAs_doctype {root gap tail : List Char} {publicId systemId : Option String}
    (hroot : IsName root) (hgap : ∀ c ∈ gap, Text.isSpace c = true)
    (hname : Begins (!isNameChar ·) (gap ++ tail)) (htail : Begins (!Text.isSpace ·) tail)
    (hids : ReadsAs externalSubset tail [] (publicId, systemId)) :
    ReadsAs doctype (root ++ (gap ++ tail)) []
      { root := String.ofList root, publicId, systemId, subset := none } := by
  have hstart : Begins (!Text.isSpace ·) (root ++ (gap ++ tail)) := by
    cases hroot with
    | mk hc _ => exact begins_cons (not_isSpace_of_isNameChar _ (isNameChar_of_isNameStart hc))
  have hnone : ReadsAs space [] (root ++ (gap ++ tail)) (decide (([] : List Char) ≠ [])) :=
    readsAs_space (by simp) hstart
  refine ReadsAs.next (by rwa [List.append_nil]) ?_
  refine (readsAs_name hroot (by rwa [List.append_nil])).bind ?_
  refine (readsAs_space hgap (by rwa [List.append_nil])).bind ?_
  refine ReadsAs.last hids ?_
  refine (readsAs_internalSubset_none rfl).next (readsAs_rest.next ?_)
  exact .pure _ []

/-- A declaration does not begin with what cannot begin a name. -/
theorem fails_doctype {gap s : List Char} (hgap : ∀ c ∈ gap, Text.isSpace c = true)
    (hspace : Begins (!Text.isSpace ·) s) (hname : Begins (!isNameStart ·) s) :
    Fails doctype (gap ++ s) :=
  (readsAs_space hgap hspace).fails (fails_name hname).bind

/-- Nor may a literal follow the root name. -/
theorem fails_doctype_literal {front root gap s : List Char} {c : Char}
    (hfront : ∀ c ∈ front, Text.isSpace c = true) (hroot : IsName root) (hgap : IsGap gap)
    (hquote : isQuote c = true) : Fails doctype (front ++ (root ++ (gap ++ c :: s))) := by
  have hstart : Begins (!Text.isSpace ·) (root ++ (gap ++ c :: s)) := by
    cases hroot with
    | mk hd _ => exact begins_cons (not_isSpace_of_isNameChar _ (isNameChar_of_isNameStart hd))
  have hno (token : String) (d : Char) (rest : List Char) (htoken : token.toList = d :: rest)
      (hd : isQuote d = false) : token.toList.isPrefixOf (c :: s) = false := by
    have hne : (d == c) = false := by
      rw [beq_eq_false_iff_ne]
      rintro rfl
      rw [hquote] at hd
      cases hd
    rw [htoken, List.isPrefixOf, hne, Bool.false_and]
  refine (readsAs_space hfront hstart).fails ?_
  refine (readsAs_name hroot (begins_gap hgap not_isNameChar_of_isSpace)).fails ?_
  refine (readsAs_gap hgap (begins_cons (not_isSpace_of_isQuote c hquote))).fails ?_
  refine ReadsAs.fails (s := []) (readsAs_externalSubset_none (hno "SYSTEM" 'S' _ rfl (by decide))
    (hno "PUBLIC" 'P' _ rfl (by decide))) ?_
  refine ReadsAs.fails (s := []) (readsAs_internalSubset_none (hno "[" '[' _ rfl (by decide))) ?_
  refine ReadsAs.fails (s := []) readsAs_rest ?_
  rw [if_neg (List.cons_ne_nil c s)]
  exact fails_fail _ _

end Scan

/-! ## What is dropped in front -/

theorem dropKeyword_append {s t : List Char} (ht : Begins Text.isSpace t) :
    dropKeyword (s ++ t) = dropKeyword s ++ t := by
  unfold dropKeyword
  by_cases hlength : 7 ≤ s.length
  · rw [List.take_append_of_le_length hlength, List.drop_append_of_le_length hlength]
    split <;> rfl
  · have hs : (s.take 7).map Char.toUpper ≠ "DOCTYPE".toList := by
      intro hkeyword
      have hlen := congrArg List.length hkeyword
      simp at hlen
      omega
    have hst : ((s ++ t).take 7).map Char.toUpper ≠ "DOCTYPE".toList := by
      intro hkeyword
      cases t with
      | nil => exact hs (by rwa [List.append_nil] at hkeyword)
      | cons c t =>
          -- The character after `s` would be a letter of the keyword, but it is a space.
          have hspace : Text.isSpace c = true := ht c rfl
          have hmem : c.toUpper ∈ "DOCTYPE".toList := by
            rw [← hkeyword]
            refine List.mem_map_of_mem ?_
            have hget : c ∈ (s ++ c :: t).take (s.length + 1) := by simp [List.take_append]
            have hshort : s.length + 1 ≤ 7 := by omega
            exact List.take_subset_take_left _ hshort hget
          simp only [Text.isSpace, Bool.or_eq_true, beq_iff_eq] at hspace
          rcases hspace with ((rfl | rfl) | rfl) | rfl <;> exact absurd hmem (by decide)
    rw [if_neg hs, if_neg hst]

/-- Identifiers begin with a keyword of their own and a literal. -/
theorem WritesIds.keyword {publicId systemId : Option String} {ids : List Char}
    (h : WritesIds publicId systemId ids) (hne : ids ≠ []) :
    ∃ keyword gap quote rest, ids = keyword ++ (gap ++ quote :: rest) ∧ IsName keyword ∧
      IsGap gap ∧ Scan.isQuote quote = true ∧ IsPlainRoot keyword := by
  cases h with
  | absent => exact absurd rfl hne
  | @systemOnly systemId gap literal hgap hliteral =>
      cases hliteral with
      | @mk quote _ hquote _ =>
          refine ⟨"SYSTEM".toList, gap, quote, systemId.toList ++ [quote], ?_, .mk ?_ ?_, hgap,
            hquote, ⟨?_, by decide⟩⟩
          · rw [List.append_assoc]
            rfl
          · decide
          · exact List.all_eq_true.mp (by decide)
          · rintro _ ⟨⟩
            rfl
  | @publicAndSystem publicId systemId gap gap' literal literal' hgap hgap' hliteral hliteral' =>
      cases hliteral with
      | @mk quote _ hquote _ =>
          refine ⟨"PUBLIC".toList, gap, quote, publicId.toList ++ [quote] ++ (gap' ++ literal'), ?_,
            .mk ?_ ?_, hgap, hquote, ⟨?_, by decide⟩⟩
          · simp only [List.append_assoc, List.cons_append]
          · decide
          · exact List.all_eq_true.mp (by decide)
          · rintro _ ⟨⟩
            rfl

theorem length_dropKeyword_le (s : List Char) : (dropKeyword s).length ≤ s.length := by
  unfold dropKeyword
  split
  · simp
  · exact Nat.le_refl _

theorem dropKeyword_eq_self_iff {s : List Char} :
    dropKeyword s = s ↔ (s.take 7).map Char.toUpper ≠ "DOCTYPE".toList := by
  unfold dropKeyword
  split
  case isTrue h =>
    refine iff_of_false (fun hs => ?_) (fun hne => hne h)
    have hlength := congrArg List.length hs
    have htaken := congrArg List.length h
    simp at hlength htaken
    omega
  case isFalse h => exact iff_of_true rfl h

/-- A root name is left whole just if there is nothing to drop in front. -/
theorem remainingRoot_eq_self_iff {root : List Char} :
    remainingRoot root = root ↔ IsPlainRoot root := by
  constructor
  · intro h
    have htrim : Text.trimStart root = root := by
      refine (List.dropWhile_suffix _).eq_of_length_le ?_
      calc root.length = (remainingRoot root).length := by rw [h]
        _ ≤ (Text.trimStart root).length := length_dropKeyword_le _
    rw [remainingRoot, htrim] at h
    exact ⟨Text.trimStart_eq_self_iff.mp htrim, dropKeyword_eq_self_iff.mp h⟩
  · intro h
    rw [remainingRoot, Text.trimStart_eq_self_iff.mpr h.no_blank, dropKeyword_eq_self_iff]
    exact h.no_keyword

theorem WritesIds.dropped {publicId systemId : Option String} {ids : List Char}
    (h : WritesIds publicId systemId ids) (hne : ids ≠ []) (s : List Char) :
    dropKeyword (Text.trimStart (ids ++ s)) = ids ++ s := by
  obtain ⟨keyword, gap, quote, rest, rfl, hkeyword, hgap, -, hplain⟩ := h.keyword hne
  have htrim : Text.trimStart keyword = keyword := Text.trimStart_eq_self_iff.mpr hplain.no_blank
  have hnonempty : Text.trimStart keyword ≠ [] := by
    rw [htrim]
    exact hkeyword.ne_nil
  rw [List.append_assoc, Text.trimStart_append hnonempty, htrim, List.append_assoc,
    dropKeyword_append (Scan.begins_gap hgap fun _ hc => hc),
    dropKeyword_eq_self_iff.mpr hplain.no_keyword]

theorem remainingRoot_subset (root : List Char) : remainingRoot root ⊆ root := by
  have hdrop : dropKeyword (Text.trimStart root) ⊆ Text.trimStart root := by
    unfold dropKeyword
    split
    · exact List.drop_subset _ _
    · exact List.Subset.refl _
  exact List.Subset.trans hdrop (List.dropWhile_suffix _).subset

/-- What is left of a root name is a name, or nothing, or begins with a character that only goes on
with a name. -/
theorem remainingRoot_cases {root : List Char} (hroot : IsName root) :
    IsName (remainingRoot root) ∨ remainingRoot root = [] ∨
      ∃ c rest, remainingRoot root = c :: rest ∧ Scan.isNameStart c = false ∧
        Scan.isNameChar c = true := by
  have hchars : ∀ c ∈ remainingRoot root, Scan.isNameChar c = true := fun c hc =>
    Scan.isNameChar_of_isName hroot c (remainingRoot_subset root hc)
  cases hleft : remainingRoot root with
  | nil => exact .inr (.inl rfl)
  | cons c rest =>
      rw [hleft] at hchars
      cases hstart : Scan.isNameStart c with
      | true => exact .inl (.mk hstart fun d hd => hchars d (List.mem_cons_of_mem c hd))
      | false => exact .inr (.inr ⟨c, rest, rfl, hstart, hchars c List.mem_cons_self⟩)

/-! ## Splitting -/

/-- What the scanner of a written declaration is given: what is left of the root name, and then the
identifiers. -/
theorem WritesDoctype.scanned {root content : List Char} {publicId systemId : Option String}
    (h : WritesDoctype root publicId systemId content) :
    ∃ gap ids back, (∀ c ∈ gap, Text.isSpace c = true) ∧ (∀ c ∈ back, Text.isSpace c = true) ∧
      WritesIds publicId systemId ids ∧ (remainingRoot root ≠ [] → ids = [] ∨ gap ≠ []) ∧
      dropKeyword (Text.trimStart content) = remainingRoot root ++ (gap ++ (ids ++ back)) := by
  cases h with
  | @mk front gap ids back hfront hgap hback hids hparted =>
      have hblank : ∀ {s : List Char}, (∀ c ∈ s, Text.isSpace c = true) →
          ∀ c ∈ s, Text.isBlank c = true := fun hs c hc => Text.isBlank_of_isSpace (hs c hc)
      simp only [List.append_assoc]
      rw [Text.trimStart_append_of_blank (hblank hfront)]
      by_cases hroot : Text.trimStart root = []
      · have hleft : remainingRoot root = [] := by rw [remainingRoot, hroot]; rfl
        have hall : ∀ c ∈ root, Text.isBlank c = true := by
          simpa [Text.trimStart] using hroot
        rw [Text.trimStart_append_of_blank hall, Text.trimStart_append_of_blank (hblank hgap),
          hleft]
        by_cases hne : ids = []
        · refine ⟨[], ids, [], by simp, by simp, hids, fun hnot => absurd rfl hnot, ?_⟩
          rw [hne, List.nil_append, ← List.append_nil back,
            Text.trimStart_append_of_blank (hblank hback)]
          rfl
        · refine ⟨[], ids, back, by simp, hback, hids, fun hnot => absurd rfl hnot, ?_⟩
          rw [hids.dropped hne]
          rfl
      · have hspace : Begins Text.isSpace (gap ++ (ids ++ back)) := by
          cases gap with
          | nil =>
              obtain rfl := hparted.resolve_right (fun hnot => hnot rfl)
              intro c hc
              exact hback c (List.mem_of_mem_head? hc)
          | cons c gap => exact Scan.begins_cons (hgap c List.mem_cons_self)
        refine ⟨gap, ids, back, hgap, hback, hids, fun _ => hparted, ?_⟩
        rw [Text.trimStart_append hroot, dropKeyword_append hspace]
        rfl

theorem isOk_split {content : String} {d : Doctype}
    (h : Scan.ReadsAs Scan.doctype (dropKeyword (Text.trimStart content.toList)) [] d) :
    Doctype.split content = .ok d := by
  have hrun := h 0
  rw [List.append_nil] at hrun
  simp only [Doctype.split, StateT.run, Cursor.start, hrun]
  rfl

theorem isError_split {content : String}
    (h : Scan.Fails Scan.doctype (dropKeyword (Text.trimStart content.toList))) :
    ∃ fault, Doctype.split content = .error fault := by
  obtain ⟨fault, hfault⟩ := h 0
  refine ⟨fault, ?_⟩
  simp only [Doctype.split, StateT.run, Cursor.start, hfault]
  rfl

/-- Identifiers, or nothing at all, do not make up for a root name. -/
theorem fails_doctype_rootless {publicId systemId : Option String} {gap ids back : List Char}
    (hgap : ∀ c ∈ gap, Text.isSpace c = true) (hback : ∀ c ∈ back, Text.isSpace c = true)
    (hids : WritesIds publicId systemId ids) : Scan.Fails Scan.doctype (gap ++ (ids ++ back)) := by
  by_cases hne : ids = []
  · have hspaces : ∀ c ∈ gap ++ back, Text.isSpace c = true := by
      intro c hc
      exact (List.mem_append.mp hc).elim (hgap c) (hback c)
    have h := Scan.fails_doctype hspaces Scan.begins_nil Scan.begins_nil
    rwa [hne, List.nil_append, ← List.append_nil (gap ++ back)]
  · obtain ⟨keyword, gap', quote, rest, rfl, hkeyword, hgap', hquote, -⟩ := hids.keyword hne
    simp only [List.append_assoc, List.cons_append]
    exact Scan.fails_doctype_literal hgap hkeyword hgap' hquote

/-- The identifiers are read whole after what is left of a root name, if that is a name. -/
theorem readsAs_doctype_ids {root gap ids back : List Char} {publicId systemId : Option String}
    (hroot : IsName root) (hgap : ∀ c ∈ gap, Text.isSpace c = true)
    (hback : ∀ c ∈ back, Text.isSpace c = true) (hids : WritesIds publicId systemId ids)
    (hparted : ids = [] ∨ gap ≠ []) :
    Scan.ReadsAs Scan.doctype (root ++ (gap ++ (ids ++ back))) []
      { root := String.ofList root, publicId, systemId, subset := none } := by
  by_cases hne : ids = []
  · subst hne
    cases hids
    have hspaces : ∀ c ∈ gap ++ back, Text.isSpace c = true := by
      intro c hc
      exact (List.mem_append.mp hc).elim (hgap c) (hback c)
    have hname : Begins (!Scan.isNameChar ·) (gap ++ back ++ []) := by
      intro c hc
      rw [List.append_nil] at hc
      exact Scan.not_isNameChar_of_isSpace c (hspaces c (List.mem_of_mem_head? hc))
    have h := Scan.readsAs_doctype hroot hspaces hname Scan.begins_nil
      (Scan.readsAs_externalSubset_none rfl rfl)
    rwa [List.append_nil] at h
  · have hspace : IsGap gap := ⟨hparted.resolve_left hne, hgap⟩
    refine Scan.readsAs_doctype hroot hgap
      (Scan.begins_gap hspace Scan.not_isNameChar_of_isSpace) ?_
      (Scan.readsAs_externalSubset hids hne hback)
    obtain ⟨keyword, gap', quote, rest, rfl, hkeyword, -, -, -⟩ := hids.keyword hne
    cases hkeyword with
    | mk hstart _ =>
        exact Scan.begins_cons
          (Scan.not_isSpace_of_isNameChar _ (Scan.isNameChar_of_isNameStart hstart))

/-- A written declaration is split into its identifiers and what is left of its root name. -/
theorem split_remaining {root : List Char} {publicId systemId : Option String} {content : String}
    (h : WritesDoctype root publicId systemId content.toList)
    (hleft : IsName (remainingRoot root)) :
    Doctype.split content =
      .ok { root := String.ofList (remainingRoot root), publicId, systemId, subset := none } := by
  obtain ⟨gap, ids, back, hgap, hback, hids, hparted, hscanned⟩ := h.scanned
  refine isOk_split ?_
  rw [hscanned]
  exact readsAs_doctype_ids hleft hgap hback hids (hparted hleft.ne_nil)

theorem split_unnamed {root : List Char} {publicId systemId : Option String} {content : String}
    (h : WritesDoctype root publicId systemId content.toList) (hroot : IsName root)
    (hleft : ¬ IsName (remainingRoot root)) : ∃ fault, Doctype.split content = .error fault := by
  obtain ⟨gap, ids, back, hgap, hback, hids, -, hscanned⟩ := h.scanned
  refine isError_split ?_
  rw [hscanned]
  obtain hname | hnone | ⟨c, rest, hcons, hstart, hchar⟩ := remainingRoot_cases hroot
  · exact absurd hname hleft
  · rw [hnone, List.nil_append]
    exact fails_doctype_rootless hgap hback hids
  · rw [hcons]
    refine @Scan.fails_doctype [] _ (by simp) (Scan.begins_cons ?_) (Scan.begins_cons ?_)
    · exact Scan.not_isSpace_of_isNameChar c hchar
    · rw [hstart]
      rfl

/-- A written declaration is split into its parts just if its root name begins neither with a blank
nor with the keyword. In any case the identifiers are those written, and the root name is what is
left of it; where that is no name, the declaration is refused. -/
theorem split_of_writes {root : List Char} {publicId systemId : Option String} {content : String}
    (hroot : IsName root) (h : WritesDoctype root publicId systemId content.toList) :
    (Doctype.split content =
        .ok { root := String.ofList root, publicId, systemId, subset := none } ↔
      IsPlainRoot root) ∧
      (IsName (remainingRoot root) → Doctype.split content =
        .ok { root := String.ofList (remainingRoot root), publicId, systemId, subset := none }) ∧
      (¬ IsName (remainingRoot root) → ∃ fault, Doctype.split content = .error fault) := by
  refine ⟨?_, split_remaining h, split_unnamed h hroot⟩
  rw [← remainingRoot_eq_self_iff]
  constructor
  · intro hsplit
    by_cases hleft : IsName (remainingRoot root)
    · rw [split_remaining h hleft, Except.ok.injEq, Doctype.mk.injEq, String.ofList_inj] at hsplit
      exact hsplit.1
    · obtain ⟨fault, hfault⟩ := split_unnamed h hroot hleft
      rw [hfault] at hsplit
      cases hsplit
  · intro hwhole
    rw [split_remaining h (by rwa [hwhole]), hwhole]

/-- Any white space may stand between the parts and around them. -/
theorem split_public_and_system :
    WritesDoctype "html".toList (some "-//p") (some "a'.dtd")
        "\n html\tPUBLIC '-//p' \"a'.dtd\" ".toList ∧
      Doctype.split "\n html\tPUBLIC '-//p' \"a'.dtd\" " =
        .ok { root := "html", publicId := some "-//p", systemId := some "a'.dtd",
              subset := none } := by
  have hroot : IsName "html".toList := .mk (by decide) (List.all_eq_true.mp (by decide))
  have hpublic : WritesLiteral "-//p" "'-//p'".toList :=
    @WritesLiteral.mk '\'' "-//p" (by decide) (by decide)
  have hsystem : WritesLiteral "a'.dtd" "\"a'.dtd\"".toList :=
    @WritesLiteral.mk '"' "a'.dtd" (by decide) (by decide)
  have hgap : IsGap [' '] := ⟨by decide, List.all_eq_true.mp (by decide)⟩
  have hids := WritesIds.publicAndSystem hgap hgap hpublic hsystem
  have h : WritesDoctype "html".toList (some "-//p") (some "a'.dtd")
      "\n html\tPUBLIC '-//p' \"a'.dtd\" ".toList :=
    @WritesDoctype.mk _ _ _ ['\n', ' '] ['\t'] _ [' '] (List.all_eq_true.mp (by decide))
      (List.all_eq_true.mp (by decide)) (List.all_eq_true.mp (by decide)) hids
      (.inr (by decide))
  have hplain : IsPlainRoot "html".toList := by
    refine ⟨?_, by decide⟩
    rintro _ ⟨⟩
    rfl
  exact ⟨h, (split_of_writes hroot h).1.mpr hplain⟩

/-- A root name that begins with the letters of the keyword is not recovered. -/
theorem not_forall_split_root :
    ¬ ∀ (root : List Char) (publicId systemId : Option String) (content : String), IsName root →
      WritesDoctype root publicId systemId content.toList →
      Doctype.split content =
        .ok { root := String.ofList root, publicId, systemId, subset := none } := by
  intro hall
  have hliteral : WritesLiteral "a.dtd" "\"a.dtd\"".toList :=
    @WritesLiteral.mk '"' "a.dtd" (by decide) (by decide)
  have hgap : IsGap [' '] := ⟨by decide, List.all_eq_true.mp (by decide)⟩
  have h : WritesDoctype "doctypes".toList none (some "a.dtd")
      " doctypes SYSTEM \"a.dtd\"".toList :=
    @WritesDoctype.mk _ _ _ [' '] [' '] _ [] hgap.spaces hgap.spaces (by simp)
      (.systemOnly hgap hliteral) (.inr (by decide))
  have hsplit := hall "doctypes".toList none (some "a.dtd") " doctypes SYSTEM \"a.dtd\""
    (.mk (by decide) (List.all_eq_true.mp (by decide))) h
  have hread : Doctype.split " doctypes SYSTEM \"a.dtd\"" =
      .ok { root := "s", publicId := none, systemId := some "a.dtd", subset := none } := by
    rfl
  rw [hread, Except.ok.injEq, Doctype.mk.injEq, String.ofList_toList] at hsplit
  exact absurd hsplit.1 (by decide)

end XmlBounds.Dtd
