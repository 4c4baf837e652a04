import XmlBounds.Markup.Attribute
import XmlBounds.Proofs.Text.Spans

/-!
# Places in a document

Reading a document comes to one place after another. How it comes to a place where markup begins
depends on the characters before that place only: with anything else after it, the same tokens are
read up to there.
-/

namespace XmlBounds.Markup

/-- With the first elements open, reading a text gives the tokens and comes to what is left of the
text, with the second elements open. -/
inductive ReadsOn : List String → List Char → List Token → List String → List Char → Prop where
  | here {names : List String} {s : List Char} : ReadsOn names s [] names s
  | text {names names' : List String} {c : Char} {rest s : List Char} {tokens : List Token} :
      c ≠ '<' → ReadsOn names (rest.dropWhile (· != '<')) tokens names' s →
      ReadsOn names (c :: rest)
        (.text (String.ofList (c :: rest.takeWhile (· != '<'))) :: tokens) names' s
  | markup {names names' : List String} {position : Nat} {c : Char} {rest s : List Char}
      {piece : Piece} {tokens : List Token} : readMarkup names position (c :: rest) = .ok piece →
      ReadsOn piece.opened ((c :: rest).drop piece.length) tokens names' s →
      ReadsOn names ('<' :: c :: rest) (piece.token :: tokens) names' s

/-! ## Positions -/

theorem readBang_eq_ok {names : List String} {p : Nat} {s : List Char} {piece : Piece} :
    readBang names p s = .ok piece ↔ ∃ kind n t, BangKind.ofText s = .ok kind ∧
      kind.closeIndex? s = some n ∧ kind.token (s.take n) = .ok t ∧
      piece = ⟨t, n + 2, names⟩ := by
  unfold readBang
  cases hkind : BangKind.ofText s with
  | error fault => simp [Except.mapError, bind, Except.bind]
  | ok kind =>
      simp only [Except.mapError, bind, Except.bind]
      cases hindex : kind.closeIndex? s with
      | none => simp [hindex, throw, throwThe, MonadExceptOf.throw]
      | some n =>
          cases htoken : kind.token (s.take n) with
          | error fault => simp [hindex, htoken]
          | ok t => simp [hindex, htoken, pure, Except.pure, eq_comm]

/-- Positions are told in faults only. -/
theorem readMarkup_position {names : List String} {p : Nat} {s : List Char} {piece : Piece}
    (h : readMarkup names p s = .ok piece) (p' : Nat) : readMarkup names p' s = .ok piece := by
  unfold readMarkup at h ⊢
  split at h
  · exact readBang_eq_ok.mpr (readBang_eq_ok.mp h)
  · unfold readEnd at h ⊢
    cases names with
    | nil => cases h
    | cons expected outer =>
        simp only at h ⊢
        split at h
        · next hname => rw [if_pos hname, h]
        · cases h
  · unfold readInstruction at h ⊢
    simp only at h ⊢
    split at h
    · next hends => rw [if_pos hends, h]
    · cases h
  · exact h

theorem tokens_readFrom (names : List String) (p p' : Nat) (s : List Char) :
    (readFrom names p s).tokens = (readFrom names p' s).tokens := by
  fun_induction readFrom names p s generalizing p' with
  | case1 => rw [readFrom]
  | case2 => rw [readFrom]
  | case3 names p c rest fault hfault =>
      rw [readFrom]
      cases hpiece : readMarkup names (p' + 1) (c :: rest) with
      | error fault' => rfl
      | ok piece =>
          rw [readMarkup_position hpiece] at hfault
          cases hfault
  | case4 names p c rest piece hpiece ih =>
      rw [readFrom, readMarkup_position hpiece]
      exact congrArg (piece.token :: ·) (ih _)
  | case5 names p c rest hend hopen text ih =>
      rw [readFrom]
      · exact congrArg (Token.text (String.ofList text) :: ·) (ih _)
      · exact hend
      · exact hopen

/-- What is read up to a place comes before what is read from there on. -/
theorem ReadsOn.tokens_eq {names names' : List String} {s s' : List Char} {tokens : List Token}
    (h : ReadsOn names s tokens names' s') (p : Nat) :
    (readFrom names p s).tokens = tokens ++ (readFrom names' 0 s').tokens := by
  induction h generalizing p with
  | here => exact tokens_readFrom _ _ _ _
  | @text names _ c rest _ _ hc _ ih =>
      rw [readFrom]
      · exact congrArg (Token.text _ :: ·) (ih _)
      · rintro rfl
        exact absurd rfl hc
      · rintro d rest' rfl
        exact absurd rfl hc
  | @markup names _ _ c rest _ piece _ hpiece _ ih =>
      rw [readFrom, readMarkup_position hpiece]
      exact congrArg (piece.token :: ·) (ih _)

/-- Every token is read at some place. -/
theorem exists_readsOn {names : List String} {p : Nat} {s : List Char} {before after : List Token}
    (h : (readFrom names p s).tokens = before ++ after) :
    ∃ names' s', ReadsOn names s before names' s' ∧ (readFrom names' 0 s').tokens = after := by
  induction before generalizing names p s with
  | nil => exact ⟨names, s, .here, by rw [← tokens_readFrom names p 0 s, h, List.nil_append]⟩
  | cons t before ih =>
      unfold readFrom at h
      split at h
      · cases h
      · cases h
      · next c rest =>
          split at h
          · cases h
          · next piece hpiece =>
              rw [Document.cons, List.cons_append, List.cons.injEq] at h
              obtain ⟨names', s', hreads, hafter⟩ := ih h.2
              exact ⟨names', s', h.1 ▸ .markup hpiece hreads, hafter⟩
      · next c rest hend hopen =>
          rw [Document.cons, List.cons_append, List.cons.injEq] at h
          obtain ⟨names', s', hreads, hafter⟩ := ih h.2
          refine ⟨names', s', h.1 ▸ .text ?_ hreads, hafter⟩
          rintro rfl
          cases rest with
          | nil => exact hend rfl rfl
          | cons d rest => exact hopen d rest rfl rfl

/-! ## What comes after -/

section After

variable {σ : Type} {isEnd : σ → Bool} {pass : σ → Char → σ}

theorem closeIndex?_append_of_none {s t : List Char} {st : σ} {n : Nat}
    (h : closeIndex? isEnd pass st n s = none) :
    closeIndex? isEnd pass st n (s ++ t) =
      closeIndex? isEnd pass (s.foldl pass st) (n + s.length) t := by
  induction s generalizing st n with
  | nil => rfl
  | cons c s ih =>
      rw [closeIndex?] at h
      split at h
      · cases h
      · next hend =>
          rw [List.cons_append, closeIndex?, if_neg hend, ih h, List.foldl_cons, List.length_cons]
          congr 1
          omega

theorem closeIndex?_add (st : σ) (n k : Nat) (s : List Char) :
    closeIndex? isEnd pass st (n + k) s = (closeIndex? isEnd pass st n s).map (· + k) := by
  induction s generalizing st n with
  | nil => rfl
  | cons c s ih =>
      rw [closeIndex?, closeIndex?]
      split
      · rfl
      · rw [Nat.add_right_comm, ih]

theorem closeIndex?_local {s t : List Char} {st : σ} {n k : Nat}
    (h : closeIndex? isEnd pass st n (s ++ t) = some k) (hk : k < n + s.length) (t' : List Char) :
    closeIndex? isEnd pass st n (s ++ t') = some k := by
  induction s generalizing st n with
  | nil =>
      have hshift : closeIndex? isEnd pass st (0 + n) t =
          (closeIndex? isEnd pass st 0 t).map (· + n) := closeIndex?_add st 0 n t
      rw [Nat.zero_add, show closeIndex? isEnd pass st n t = some k from h] at hshift
      obtain ⟨j, -, hj⟩ := Option.map_eq_some_iff.mp hshift.symm
      rw [List.length_nil] at hk
      omega
  | cons c s ih =>
      rw [List.cons_append, closeIndex?] at h ⊢
      split at h
      · next hend => rw [if_pos hend, h]
      · next hend =>
          rw [if_neg hend]
          apply ih h
          rw [List.length_cons] at hk
          omega

end After

theorem ofText_cons (c : Char) (s t : List Char) :
    BangKind.ofText (c :: s) = BangKind.ofText (c :: t) := by
  unfold BangKind.ofText
  split <;> simp_all

theorem closeIndex?_bang_local {k : BangKind} {s t : List Char} {n : Nat}
    (h : k.closeIndex? (s ++ t) = some n) (hn : n < s.length) (t' : List Char) :
    k.closeIndex? (s ++ t') = some n := by
  cases k with
  | _ => exact closeIndex?_local h (by omega) t'

theorem upToBracket_local {s t : List Char} (h : (upToBracket (s ++ t)).length < s.length)
    (t' : List Char) : upToBracket (s ++ t') = upToBracket (s ++ t) := by
  have hstop : (s.takeWhile (· != '>')).length ≠ s.length := by
    intro hall
    rw [upToBracket, List.takeWhile_append, if_pos hall, List.length_append] at h
    omega
  rw [upToBracket, upToBracket, List.takeWhile_append, List.takeWhile_append, if_neg hstop,
    if_neg hstop]

/-- The content of the tag that follows an opening bracket. -/
def tagContent (s : List Char) : List Char :=
  s.take ((closeIndex? Option.isNone passQuote none 0 s).getD s.length)

/-- The tag of a content. -/
def tagPiece (names : List String) (content : List Char) : Piece :=
  if content.getLast? = some '/' then
    ⟨.emptyTag (tagOf content.dropLast), content.length + 1, names⟩
  else ⟨.startTag (tagOf content), content.length + 1, (tagOf content).name :: names⟩

theorem length_tagPiece (names : List String) (content : List Char) :
    (tagPiece names content).length = content.length + 1 := by
  unfold tagPiece
  split
  · rfl
  · rfl

theorem closeIndex?_lt {σ : Type} {isEnd : σ → Bool} {pass : σ → Char → σ} {st : σ}
    {s : List Char} {n k : Nat} (h : closeIndex? isEnd pass st n s = some k) :
    k < n + s.length := by
  induction s generalizing st n with
  | nil => cases h
  | cons c s ih =>
      rw [closeIndex?] at h
      rw [List.length_cons]
      split at h
      · cases h
        omega
      · have hlt := ih h
        omega

theorem readTag_eq (names : List String) (s : List Char) :
    readTag names s = tagPiece names (tagContent s) := by
  have hlength : (tagContent s).length =
      (closeIndex? Option.isNone passQuote none 0 s).getD s.length := by
    cases hindex : closeIndex? Option.isNone passQuote none 0 s with
    | none => simp [tagContent, hindex]
    | some n =>
        have hlt := closeIndex?_lt hindex
        simp only [tagContent, hindex, Option.getD_some, List.length_take]
        omega
  unfold readTag tagPiece
  rw [hlength]
  rfl

theorem tagContent_local {s t : List Char} (h : (tagContent (s ++ t)).length < s.length)
    (t' : List Char) : tagContent (s ++ t') = tagContent (s ++ t) := by
  unfold tagContent at h ⊢
  cases hindex : closeIndex? Option.isNone passQuote none 0 (s ++ t) with
  | none =>
      rw [hindex, Option.getD_none, List.take_length, List.length_append] at h
      omega
  | some n =>
      have hlt := closeIndex?_lt hindex
      simp only [hindex, Option.getD_some, List.length_take, List.length_append] at h hlt
      rw [closeIndex?_local hindex (by omega) t', Option.getD_some, Option.getD_some,
        List.take_append_of_le_length (by omega), List.take_append_of_le_length (by omega)]

theorem readMarkup_tag (names : List String) (p : Nat) {c : Char} (s : List Char)
    (hc : c ∉ ['!', '/', '?']) :
    readMarkup names p (c :: s) = .ok (tagPiece names (tagContent (c :: s))) := by
  rw [← readTag_eq]
  unfold readMarkup
  split
  · simp_all
  · simp_all
  · simp_all
  · rfl

/-- Markup is read from its own characters. -/
theorem readMarkup_local {names : List String} {p : Nat} {c : Char} {s t : List Char}
    {piece : Piece} (h : readMarkup names p (c :: (s ++ t)) = .ok piece)
    (hlength : piece.length ≤ s.length + 1) (t' : List Char) :
    readMarkup names p (c :: (s ++ t')) = .ok piece := by
  by_cases hbang : c = '!'
  · subst hbang
    obtain ⟨kind, n, token, hkind, hindex, htoken, rfl⟩ := readBang_eq_ok.mp h
    have hn : n < s.length := by
      simp only at hlength
      omega
    refine readBang_eq_ok.mpr ⟨kind, n, token, ?_, closeIndex?_bang_local hindex hn t', ?_, rfl⟩
    · cases s with
      | nil => cases hn
      | cons d s => exact (ofText_cons d _ _).trans hkind
    · rwa [List.take_append_of_le_length hn.le, ← List.take_append_of_le_length hn.le]
  by_cases hslash : c = '/'
  · subst hslash
    have h : readEnd names p (('/' :: s) ++ t) = .ok piece := h
    have hgoal : readEnd names p (('/' :: s) ++ t') = .ok piece := by
      unfold readEnd at h ⊢
      cases names with
      | nil => cases h
      | cons expected outer =>
          simp only at h ⊢
          split at h
          · next hname =>
              cases h
              have hcontent := upToBracket_local (s := '/' :: s) (t := t) hlength t'
              rw [hcontent, if_pos hname]
          · cases h
    exact hgoal
  by_cases hquestion : c = '?'
  · subst hquestion
    have h : readInstruction names p (('?' :: s) ++ t) = .ok piece := h
    have hgoal : readInstruction names p (('?' :: s) ++ t') = .ok piece := by
      unfold readInstruction at h ⊢
      simp only at h ⊢
      split at h
      · next hends =>
          cases h
          have hcontent := upToBracket_local (s := '?' :: s) (t := t) hlength t'
          rw [hcontent, if_pos hends]
      · cases h
    exact hgoal
  · have hother (u : List Char) := readMarkup_tag names p (c := c) u
      (by simp [hbang, hslash, hquestion])
    rw [hother, Except.ok.injEq] at h
    rw [← h, length_tagPiece, Nat.add_le_add_iff_right] at hlength
    have hcontent := tagContent_local (s := c :: s) (t := t) (Nat.lt_succ_of_le hlength) t'
    rw [hother, ← h]
    exact congrArg (fun content => Except.ok (tagPiece names content)) hcontent

/-! ## What is read -/

/-- What can be read of markup, after an opening bracket and with elements open. -/
inductive Piece.IsRead (names : List String) (s : List Char) : Piece → Prop where
  | ignored {n : Nat} : IsRead names s ⟨.ignored, n + 1, names⟩
  | doctype {content : String} {n : Nat} : IsRead names s ⟨.doctype content, n + 1, names⟩
  | endTag {name : String} {outer : List String} {n : Nat} : names = name :: outer →
      IsRead names s ⟨.endTag, n + 1, outer⟩
  | tag : (∀ c ∈ s.head?, c ∉ ['!', '/', '?']) → IsRead names s (tagPiece names (tagContent s))

theorem token_eq {k : BangKind} {s : List Char} {t : Token} (h : k.token s = .ok t) :
    t = .ignored ∨ ∃ content, t = .doctype content := by
  unfold BangKind.token at h
  split at h
  · split at h
    · cases h
      exact .inl rfl
    · cases h
  · split at h
    · cases h
      exact .inl rfl
    · cases h
  · split at h
    · split at h
      · cases h
      · cases h
        exact .inr ⟨_, rfl⟩
    · cases h

theorem isRead_of_readMarkup {names : List String} {p : Nat} {s : List Char} {piece : Piece}
    (h : readMarkup names p s = .ok piece) : piece.IsRead names s := by
  unfold readMarkup at h
  split at h
  · obtain ⟨_, _, _, _, _, htoken, rfl⟩ := readBang_eq_ok.mp h
    rcases token_eq htoken with rfl | ⟨content, rfl⟩
    · exact .ignored
    · exact .doctype
  · unfold readEnd at h
    cases names with
    | nil => cases h
    | cons expected outer =>
        simp only at h
        split at h
        · cases h
          exact .endTag rfl
        · cases h
  · unfold readInstruction at h
    simp only at h
    split at h
    · cases h
      exact .ignored
    · cases h
  · next hbang hslash hquestion =>
      cases h
      rw [readTag_eq]
      refine .tag fun c hc hmem => ?_
      cases s with
      | nil => cases hc
      | cons d s =>
          cases hc
          simp only [List.mem_cons, List.not_mem_nil, or_false] at hmem
          rcases hmem with rfl | rfl | rfl
          · exact hbang s rfl
          · exact hslash s rfl
          · exact hquestion s rfl

theorem length_pos_of_readMarkup {names : List String} {p : Nat} {s : List Char} {piece : Piece}
    (h : readMarkup names p s = .ok piece) : 0 < piece.length := by
  cases isRead_of_readMarkup h with
  | tag =>
      rw [length_tagPiece]
      apply Nat.succ_pos
  | _ => apply Nat.succ_pos

/-- How a document is read up to an opening bracket does not depend on what comes after it. -/
theorem ReadsOn.exists_passed {names names' : List String} {s t : List Char} {tokens : List Token}
    (h : ReadsOn names s tokens names' ('<' :: t)) :
    ∃ passed, s = passed ++ '<' :: t ∧
      ∀ t', ReadsOn names (passed ++ '<' :: t') tokens names' ('<' :: t') := by
  generalize hplace : '<' :: t = place at h
  induction h with
  | here =>
      subst hplace
      exact ⟨[], rfl, fun t' => .here⟩
  | @text names _ c rest _ tokens hc _ ih =>
      obtain ⟨passed, hrest, hreads⟩ := ih hplace
      subst hplace
      refine ⟨c :: rest.takeWhile (· != '<') ++ passed, ?_, fun t' => ?_⟩
      · rw [List.append_assoc, ← hrest, List.cons_append, List.takeWhile_append_dropWhile]
      · -- Whatever comes after, the text ends where it did, at an opening bracket.
        obtain ⟨u, hu⟩ : ∃ u, passed ++ '<' :: t' = '<' :: u := by
          cases passed with
          | nil => exact ⟨t', rfl⟩
          | cons d passed =>
              have hd : d = '<' := by simpa using Text.not_of_dropWhile_eq_cons hrest
              exact ⟨_, by rw [hd, List.cons_append]⟩
        have htext : ∀ d ∈ rest.takeWhile (· != '<'), (d != '<') = true :=
          fun d hd => List.mem_takeWhile_imp (p := (· != '<')) hd
        have hstop : ∀ d ∈ ('<' :: u).head?, (d != '<') = false := by simp
        have htake := Text.takeWhile_append_stop htext hstop
        have hdrop := Text.dropWhile_append_stop htext hstop
        have hreads := hreads t'
        rw [hu, ← hdrop] at hreads
        have hgoal := ReadsOn.text hc hreads
        rwa [htake, ← hu, ← List.cons_append, ← List.append_assoc] at hgoal
  | @markup names _ p c rest _ piece tokens hpiece _ ih =>
      obtain ⟨passed, hrest, hreads⟩ := ih hplace
      subst hplace
      obtain ⟨n, hn⟩ : ∃ n, piece.length = n + 1 :=
        Nat.exists_eq_succ_of_ne_zero (length_pos_of_readMarkup hpiece).ne'
      rw [hn, List.drop_succ_cons] at hrest
      have hwhole : rest = rest.take n ++ (passed ++ '<' :: t) := by
        rw [← hrest, List.take_append_drop]
      have hlength : (rest.take n).length = n := by
        have hmore := congrArg List.length hrest
        rw [List.length_drop, List.length_append, List.length_cons] at hmore
        rw [List.length_take]
        omega
      refine ⟨'<' :: c :: (rest.take n ++ passed), ?_, fun t' => ?_⟩
      · rw [List.cons_append, List.cons_append, List.append_assoc, ← hwhole]
      · rw [hwhole] at hpiece
        have hpiece' := readMarkup_local hpiece (by rw [hlength, hn]) (passed ++ '<' :: t')
        rw [List.cons_append, List.cons_append, List.append_assoc]
        refine .markup hpiece' ?_
        rw [hn, List.drop_succ_cons, List.drop_left' hlength]
        exact hreads t'

end XmlBounds.Markup
