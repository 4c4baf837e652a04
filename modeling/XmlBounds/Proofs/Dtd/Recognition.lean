import Mathlib.Data.List.Infix
import XmlBounds.Proofs.Dtd.Reading

/-!
# Scanned DTD text was written

Whatever the scanner accepts is written in the forms of a subset, and stands for just the events
that are found. With the other direction, the written subsets are exactly the texts that are
accepted; so subsets that are accepted one by one are accepted together.
-/

namespace XmlBounds.Dtd

namespace Scan

variable {α β : Type} {base : Option String}

/-- Where the reader gives a value, what it passes is written as `P` says of the value and of the
text that is left. -/
def Recognizes (x : Scan α) (P : α → List Char → List Char → Prop) : Prop :=
  ∀ c a c', x c = .ok (a, c') → ∃ taken, c.Passes taken c' ∧ P a taken c'.rest

section Rules

variable {P : α → List Char → List Char → Prop} {Q : β → List Char → List Char → Prop}

theorem Recognizes.pure {a : α} (h : ∀ left, P a [] left) : Recognizes (pure a : Scan α) P := by
  intro c b c' hb
  cases hb
  exact ⟨[], c.passes_refl, h c.rest⟩

theorem Recognizes.fail (complaint : Complaint) : Recognizes (fail complaint : Scan α) P := by
  intro c a c' h
  cases h

theorem Recognizes.mono {P' : α → List Char → List Char → Prop} {x : Scan α}
    (hx : Recognizes x P) (h : ∀ a s left, P a s left → P' a s left) : Recognizes x P' := by
  intro c a c' hc
  obtain ⟨s, hs, hP⟩ := hx c a c' hc
  exact ⟨s, hs, h a s c'.rest hP⟩

/-- What is known of the first piece may be used for the others. -/
theorem Recognizes.bind {x : Scan α} {f : α → Scan β} (hx : Recognizes x P)
    (hf : ∀ a s, Recognizes (f a) fun b t left => P a s (t ++ left) → Q b (s ++ t) left) :
    Recognizes (x >>= f) Q := by
  intro c b c'' h
  obtain ⟨a, c', ha, hb⟩ := bind_eq_ok h
  obtain ⟨s, hs, hP⟩ := hx c a c' ha
  obtain ⟨t, ht, hQ⟩ := hf a s c' b c'' hb
  exact ⟨s ++ t, hs.trans ht, hQ (ht.1 ▸ hP)⟩

theorem Recognizes.choose {token : String} {x y : Scan α}
    (hx : Recognizes x fun a s left => P a (token.toList ++ s) left) (hy : Recognizes y P) :
    Recognizes (do if ← eat token then x else y) P := by
  intro c a c'' h
  obtain ⟨found, c', hfound, h⟩ := bind_eq_ok h
  cases found with
  | true =>
      obtain ⟨s, hs, hP⟩ := hx c' a c'' h
      exact ⟨token.toList ++ s, (passes_of_eat hfound).trans hs, hP⟩
  | false =>
      unfold eat at hfound
      split at hfound
      · cases hfound
      · cases hfound
        exact hy c a c'' h

theorem Recognizes.ite {p : Prop} [Decidable p] {x y : Scan α} (hx : p → Recognizes x P)
    (hy : ¬ p → Recognizes y P) : Recognizes (if p then x else y) P := by
  split
  · next hp => exact hx hp
  · next hp => exact hy hp

end Rules

theorem recognizes_rest : Recognizes rest fun a s left => s = [] ∧ a = left := by
  intro c a c' h
  cases h
  exact ⟨[], c.passes_refl, rfl, rfl⟩

theorem recognizes_take (n : Nat) :
    Recognizes (take n) fun a s left => a = s ∧ s = (s ++ left).take n := by
  intro c a c' h
  cases h
  refine ⟨_, c.passes_advance n, rfl, ?_⟩
  simp [Cursor.advance]

theorem recognizes_expect (token : String) :
    Recognizes (expect token) fun _ s _ => s = token.toList :=
  .choose (.pure fun _ => List.append_nil _) (.fail _)

/-! ## Spaces, names and literals -/

theorem eq_of_eq_take {s left u v : List Char} {n : Nat} (hs : s = (s ++ left).take n)
    (h : s ++ left = u ++ v) (hn : u.length = n) : s = u ∧ left = v := by
  have hu : s = u := by rw [hs, h, ← hn, List.take_left]
  subst hu
  exact ⟨rfl, List.append_cancel_left h⟩

theorem recognizes_takeWhile (p : Char → Bool) :
    Recognizes (takeWhile p) fun a s left =>
      a = s ∧ (∀ c ∈ s, p c = true) ∧ Begins (!p ·) left := by
  refine recognizes_rest.bind fun text _ => (recognizes_take _).mono ?_
  rintro _ s left ⟨rfl, hs⟩ ⟨rfl, rfl⟩
  obtain ⟨hspan, hleft⟩ := eq_of_eq_take hs (List.takeWhile_append_dropWhile (p := p)).symm rfl
  refine ⟨rfl, ?_, fun c hc => ?_⟩
  · intro c hc
    rw [hspan] at hc
    exact List.all_eq_true.mp List.all_takeWhile c hc
  · cases left with
    | nil => cases hc
    | cons d left =>
        cases hc
        simp [Text.not_of_dropWhile_eq_cons hleft.symm]

theorem recognizes_space :
    Recognizes space fun a s left =>
      a = decide (s ≠ []) ∧ IsSpaces s ∧ Begins (!Text.isSpace ·) left := by
  refine (recognizes_takeWhile Text.isSpace).bind fun passed s => .pure ?_
  rintro left ⟨rfl, hs, hleft⟩
  rw [List.append_nil]
  exact ⟨rfl, hs, hleft⟩

theorem recognizes_requireSpace : Recognizes requireSpace fun _ s _ => IsGap s := by
  refine recognizes_space.bind fun found s => .ite ?_ fun _ => .fail _
  rintro rfl
  refine .pure ?_
  rintro left ⟨hne, hs, -⟩
  rw [List.append_nil]
  exact ⟨of_decide_eq_true hne.symm, hs⟩

/-- A test after white space that passes what it finds. -/
theorem recognizes_afterSpace {test : Scan Bool} {found : List Char}
    (htest : Recognizes test fun a s _ => s = if a = true then found else []) :
    Recognizes (afterSpace test) fun a s _ =>
      (a = true → ∃ gap, IsGap gap ∧ s = gap ++ found) ∧ (a = false → IsSpaces s) := by
  refine recognizes_space.bind fun passed s => .ite ?_ ?_
  · rintro rfl
    refine htest.mono ?_
    rintro a t left rfl ⟨hne, hs, -⟩
    refine ⟨?_, ?_⟩
    · rintro rfl
      exact ⟨s, ⟨of_decide_eq_true hne.symm, hs⟩, rfl⟩
    · rintro rfl
      simpa using hs
  · intro hnone
    refine .pure ?_
    rintro left ⟨-, hs, -⟩
    refine ⟨(nomatch ·), fun _ => ?_⟩
    simpa using hs

theorem recognizes_eat (token : String) :
    Recognizes (eat token) fun a s _ => s = if a = true then token.toList else [] := by
  intro c a c' h
  cases a with
  | true => exact ⟨_, passes_of_eat h, rfl⟩
  | false =>
      unfold eat at h
      split at h
      · cases h
      · cases h
        exact ⟨[], c.passes_refl, rfl⟩

theorem recognizes_atQuote :
    Recognizes atQuote fun a s _ => s = if a = true then [] else [] := by
  refine recognizes_rest.bind fun text s => .pure ?_
  rintro left ⟨rfl, -⟩
  simp

theorem begins_dropWhile (p : Char → Bool) (s : List Char) : Begins (!p ·) (s.dropWhile p) := by
  intro c hc
  obtain ⟨t, ht⟩ := List.head?_eq_some_iff.mp hc
  simp [Text.not_of_dropWhile_eq_cons ht]

theorem exists_namePrefix {text : List Char} (h : namePrefix text ≠ []) :
    ∃ left, text = namePrefix text ++ left ∧ IsName (namePrefix text) ∧
      Begins (!isNameChar ·) left := by
  cases text with
  | nil => exact absurd rfl h
  | cons c text =>
      cases hstart : isNameStart c with
      | false => simp [namePrefix, hstart] at h
      | true =>
          have hspan : namePrefix (c :: text) = c :: text.takeWhile isNameChar := by
            simp [namePrefix, hstart]
          rw [hspan]
          refine ⟨text.dropWhile isNameChar, ?_, .mk hstart ?_, begins_dropWhile isNameChar text⟩
          · rw [List.cons_append, List.takeWhile_append_dropWhile]
          · exact List.all_eq_true.mp List.all_takeWhile

theorem recognizes_name :
    Recognizes name fun a s left =>
      a = String.ofList s ∧ IsName s ∧ Begins (!isNameChar ·) left := by
  refine recognizes_rest.bind fun text _ => .ite (fun _ => .fail _) fun hne => ?_
  refine (recognizes_take _).bind fun a s => .pure ?_
  rintro left ⟨rfl, hs⟩ ⟨rfl, rfl⟩
  obtain ⟨left', htext, hname, hleft⟩ := exists_namePrefix hne
  simp only [List.append_nil, List.nil_append] at hs htext hname ⊢
  obtain ⟨hspan, rfl⟩ := eq_of_eq_take hs htext rfl
  rw [← hspan] at hname
  exact ⟨trivial, hname, hleft⟩

theorem indexFrom?_eq_some {pattern text : List Char} {n m : Nat} (hne : pattern ≠ [])
    (h : indexFrom? pattern n text = some m) :
    ∃ body left, text = body ++ (pattern ++ left) ∧ m = n + body.length ∧
      ¬ pattern <:+: body := by
  induction text generalizing n with
  | nil => simp [indexFrom?, hne] at h
  | cons c text ih =>
      rw [indexFrom?] at h
      split at h
      · next hpre =>
          cases h
          obtain ⟨left, hleft⟩ := List.isPrefixOf_iff_prefix.mp hpre
          exact ⟨[], left, hleft.symm, rfl, by simpa using hne⟩
      · next hpre =>
          obtain ⟨body, left, rfl, rfl, hbody⟩ := ih h
          refine ⟨c :: body, left, rfl, ?_, ?_⟩
          · simp only [List.length_cons]
            omega
          · rw [List.infix_cons_iff]
            rintro (hhere | hlater)
            · refine hpre (List.isPrefixOf_iff_prefix.mpr ?_)
              exact hhere.trans (List.prefix_append (c :: body) _)
            · exact hbody hlater

theorem recognizes_upTo {token : String} (hne : token.toList ≠ []) :
    Recognizes (upTo token) fun a s _ =>
      ∃ body, s = body ++ token.toList ∧ a = String.ofList body ∧ ¬ token.toList <:+: body := by
  refine recognizes_rest.bind fun text _ => ?_
  split
  · exact .fail _
  · next n hindex =>
      refine (recognizes_take n).bind fun passed s => (recognizes_take _).bind fun _ t => .pure ?_
      rintro left ⟨-, ht⟩ ⟨rfl, hs⟩ ⟨rfl, rfl⟩
      simp only [List.append_nil, List.nil_append, List.append_assoc] at hs ht hindex ⊢
      obtain ⟨body, left', htext, rfl, hbody⟩ := indexFrom?_eq_some hne hindex
      obtain ⟨rfl, hafter⟩ := eq_of_eq_take hs htext (by simp)
      obtain ⟨rfl, rfl⟩ := eq_of_eq_take ht hafter rfl
      exact ⟨passed, rfl, rfl, hbody⟩

theorem writesLiteral_ofList {quote : Char} {text : List Char} (hquote : isQuote quote = true)
    (hnot : quote ∉ text) : WritesLiteral (String.ofList text) (quote :: text ++ [quote]) := by
  have h : WritesLiteral (String.ofList text)
      (quote :: (String.ofList text).toList ++ [quote]) := .mk hquote (by simpa using hnot)
  rwa [String.toList_ofList] at h

theorem recognizes_literal : Recognizes literal fun a s _ => WritesLiteral a s := by
  refine recognizes_rest.bind fun text _ => ?_
  split
  · next quote text =>
      refine .ite (fun hquote => ?_) fun _ => .fail _
      refine (recognizes_take 1).bind fun _ s => ?_
      split
      · exact .fail _
      · next n hindex =>
          refine (recognizes_take n).bind fun passed t => ?_
          refine (recognizes_take 1).bind fun _ u => .pure ?_
          rintro left ⟨-, hu⟩ ⟨rfl, ht⟩ ⟨-, hs⟩ ⟨rfl, htext⟩
          simp only [List.append_nil, List.nil_append, List.append_assoc] at hs ht htext ⊢
          obtain ⟨body, left', hbody, rfl, hnot⟩ := indexFrom?_eq_some (by simp) hindex
          have hopened : s ++ (passed ++ (u ++ left)) = [quote] ++ text := htext.symm
          obtain ⟨rfl, hafter⟩ := eq_of_eq_take hs hopened rfl
          obtain ⟨rfl, hclosing⟩ := eq_of_eq_take ht (hafter.trans hbody) (by simp)
          obtain ⟨rfl, -⟩ := eq_of_eq_take hu hclosing rfl
          exact writesLiteral_ofList hquote fun hmem =>
            hnot ((List.singleton_infix_iff quote passed).mpr hmem)
  · exact .fail _

/-! ## Bodies of declarations -/

/-- The text before the closing sign, and where the search begins inside a literal, that literal's
end first. -/
theorem closeFrom?_eq_some {text : List Char} {quote : Option Char} {n m : Nat}
    (h : closeFrom? quote n text = some m) :
    ∃ body left, text = body ++ '>' :: left ∧ m = n + body.length ∧
      (quote = none → QuotesAll (· = '>') body) ∧
      ∀ q, quote = some q → ∃ inside outside, body = inside ++ q :: outside ∧ q ∉ inside ∧
        QuotesAll (· = '>') outside := by
  fun_induction closeFrom? quote n text with
  | case1 => cases h
  | case2 q n c text ih =>
      obtain ⟨body, left, rfl, rfl, hplain, hquoted⟩ := ih h
      refine ⟨c :: body, left, rfl, by simp only [List.length_cons]; omega, (nomatch ·), ?_⟩
      rintro _ ⟨⟩
      by_cases hc : c = q
      · subst hc
        rw [if_pos rfl] at hplain
        exact ⟨[], body, rfl, by simp, hplain rfl⟩
      · rw [if_neg hc] at hquoted
        obtain ⟨inside, outside, rfl, hnot, houtside⟩ := hquoted q rfl
        refine ⟨c :: inside, outside, rfl, ?_, houtside⟩
        rw [List.mem_cons, not_or]
        exact ⟨Ne.symm hc, hnot⟩
  | case3 n text =>
      exact ⟨[], text, rfl, by simpa using h.symm, fun _ => .nil, fun _ => (nomatch ·)⟩
  | case4 n c text hc ih =>
      obtain ⟨body, left, rfl, rfl, hplain, hquoted⟩ := ih h
      refine ⟨c :: body, left, rfl, by simp only [List.length_cons]; omega, fun _ => ?_,
        fun _ => (nomatch ·)⟩
      cases hquote : isQuote c with
      | false =>
          simp only [hquote] at hplain
          exact .plain hquote hc (hplain rfl)
      | true =>
          simp only [hquote] at hquoted
          obtain ⟨inside, outside, rfl, hnot, houtside⟩ := hquoted c rfl
          have hliteral := QuotesAll.literal (writesLiteral_ofList hquote hnot) houtside
          simpa using hliteral

theorem recognizes_upToClose :
    Recognizes upToClose fun a s _ =>
      ∃ body, s = body ++ ">".toList ∧ a = String.ofList (Text.trim body) ∧
        QuotesAll (· = '>') body := by
  refine recognizes_rest.bind fun text _ => ?_
  split
  · exact .fail _
  · next n hindex =>
      refine (recognizes_take n).bind fun passed s => (recognizes_take _).bind fun _ t => .pure ?_
      rintro left ⟨-, ht⟩ ⟨rfl, hs⟩ ⟨rfl, rfl⟩
      simp only [List.append_nil, List.nil_append, List.append_assoc] at hs ht hindex ⊢
      obtain ⟨body, left', htext, rfl, hbody, -⟩ := closeFrom?_eq_some hindex
      obtain ⟨rfl, hafter⟩ := eq_of_eq_take hs htext (by simp)
      obtain ⟨rfl, -⟩ := eq_of_eq_take (u := ['>']) ht hafter rfl
      exact ⟨passed, rfl, rfl, hbody rfl⟩

/-! ## Ignored sections -/

theorem ignoredFrom?_eq_some {text : List Char} {depth n m : Nat}
    (h : ignoredFrom? depth n text = some m) :
    ∃ body left, text = body ++ ("]]>".toList ++ left) ∧ m = n + body.length + 3 ∧
      Balances depth body := by
  fun_induction ignoredFrom? depth n text with
  | case1 depth n rest ih =>
      obtain ⟨body, left, rfl, rfl, hbody⟩ := ih h
      refine ⟨"<![".toList ++ body, left, rfl, ?_, .opening hbody⟩
      simp only [List.length_append]
      simp
      omega
  | case2 n rest =>
      cases h
      exact ⟨[], rest, rfl, rfl, .nil⟩
  | case3 n rest depth ih =>
      obtain ⟨body, left, rfl, rfl, hbody⟩ := ih h
      refine ⟨"]]>".toList ++ body, left, rfl, ?_, .closing hbody⟩
      simp only [List.length_append]
      simp
      omega
  | case4 depth n c rest hopening hclosing hclosing' ih =>
      obtain ⟨body, left, rfl, rfl, hbody⟩ := ih h
      refine ⟨c :: body, left, rfl, by simp only [List.length_cons]; omega, .other ?_ ?_ hbody⟩
      · rintro ⟨t, ht⟩
        obtain ⟨rfl, rfl⟩ : '<' = c ∧ '!' :: '[' :: t = body := by simpa using ht
        exact hopening _ rfl rfl
      · rintro ⟨t, ht⟩
        obtain ⟨rfl, rfl⟩ : ']' = c ∧ ']' :: '>' :: t = body := by simpa using ht
        cases depth with
        | zero => exact hclosing _ rfl rfl rfl
        | succ depth => exact hclosing' depth _ rfl rfl rfl
  | case5 => cases h

theorem recognizes_ignored :
    Recognizes ignored fun _ s _ => ∃ body, s = body ++ "]]>".toList ∧ Balances 0 body := by
  refine recognizes_rest.bind fun text _ => ?_
  split
  · next n hindex =>
      refine (recognizes_take n).bind fun passed s => .pure ?_
      rintro left ⟨-, hs⟩ ⟨rfl, rfl⟩
      simp only [List.append_nil, List.nil_append] at hs hindex ⊢
      obtain ⟨body, left', htext, rfl, hbody⟩ := ignoredFrom?_eq_some hindex
      rw [← List.append_assoc] at htext
      obtain ⟨rfl, -⟩ := eq_of_eq_take hs htext (by simp)
      exact ⟨body, rfl, hbody⟩
  · exact (recognizes_take _).bind fun _ _ => .fail _

/-! ## Declarations -/

theorem recognizes_close : Recognizes close fun _ s _ => ∃ back, IsSpaces back ∧
    s = back ++ ">".toList := by
  refine recognizes_space.bind fun _ back => (recognizes_expect ">").mono ?_
  rintro _ _ left rfl ⟨-, hback, -⟩
  exact ⟨back, hback, rfl⟩

theorem recognizes_externalId (optional : Bool) :
    Recognizes (externalId optional) fun a s _ =>
      (∃ systemId, a.2 = some systemId ∧ WritesIds a.1 (some systemId) s) ∨
        (optional = true ∧ ∃ ids back, WritesNotationIds a.1 a.2 ids ∧ IsSpaces back ∧
          s = ids ++ back) := by
  refine .choose ?_ (.choose ?_ (.fail _))
  · refine recognizes_requireSpace.bind fun _ gap => ?_
    refine recognizes_literal.bind fun systemId s => .pure ?_
    rintro left hliteral hgap
    refine .inl ⟨systemId, rfl, ?_⟩
    simpa using WritesIds.systemOnly hgap hliteral
  · refine recognizes_requireSpace.bind fun _ gap => recognizes_literal.bind fun publicId s => ?_
    refine (recognizes_afterSpace recognizes_atQuote).bind fun quoted t => ?_
    refine .ite ?_ fun hnone => .ite ?_ ?_
    · rintro rfl
      refine recognizes_literal.bind fun systemId u => .pure ?_
      rintro left hsystem ⟨hspace, -⟩ hpublic hgap
      obtain ⟨gap', hgap', rfl⟩ := hspace rfl
      refine .inl ⟨systemId, rfl, ?_⟩
      simpa using WritesIds.publicAndSystem hgap hgap' hpublic hsystem
    · intro hoptional
      refine .pure ?_
      rintro left ⟨-, hspaces⟩ hpublic hgap
      refine .inr ⟨hoptional, _, t, .publicOnly hgap hpublic, hspaces (by simpa using hnone), ?_⟩
      simp
    · exact fun _ => .fail _

theorem recognizes_entityName :
    Recognizes entityName fun a s left =>
      WritesEntityName a s ∧ Begins (!isNameChar ·) left := by
  refine recognizes_requireSpace.bind fun _ gap => .choose ?_ ?_
  · refine recognizes_requireSpace.bind fun _ gap' => recognizes_name.bind fun _ name => .pure ?_
    rintro left ⟨rfl, hname, hleft⟩ hgap' hgap
    refine ⟨?_, hleft⟩
    simpa using WritesEntityName.parameter hgap hgap' hname
  · refine recognizes_name.mono ?_
    rintro _ name left ⟨rfl, hname, hleft⟩ hgap
    exact ⟨.general hgap hname, hleft⟩

theorem recognizes_replacement (text : String) :
    Recognizes (replacement text) fun a s _ => s = [] ∧ expandCharRefs text = .ok a := by
  intro c a c' h
  unfold replacement at h
  cases hx : expandCharRefs text with
  | error fault => simp [hx, Except.map] at h
  | ok replaced =>
      simp only [hx, Except.map, Except.ok.injEq, Prod.mk.injEq] at h
      obtain ⟨rfl, rfl⟩ := h
      exact ⟨[], c.passes_refl, rfl, rfl⟩

theorem recognizes_externalEntity (entity : String) :
    Recognizes (externalEntity base entity) fun e s _ =>
      ∃ publicId systemId ids tail, WritesIds publicId (some systemId) ids ∧ s = ids ++ tail ∧
        ((e = .externalEntity entity publicId systemId base ∧
            ∃ back, IsSpaces back ∧ tail = back ++ ">".toList) ∨
          (isParameterName entity = false ∧ ∃ gap gap' notationName back,
            e = .unparsedEntity entity publicId systemId (String.ofList notationName) ∧
            IsGap gap ∧ IsGap gap' ∧ IsName notationName ∧ IsSpaces back ∧
            tail = gap ++ "NDATA".toList ++ gap' ++ notationName ++ back ++ ">".toList)) := by
  refine (recognizes_externalId false).bind ?_
  rintro ⟨publicId, systemId⟩ ids
  refine (recognizes_afterSpace (recognizes_eat "NDATA")).bind fun found s => ?_
  refine .ite ?_ fun hnone => ?_
  · rintro rfl
    refine .ite (fun _ => .fail _) fun hgeneral => ?_
    refine recognizes_requireSpace.bind fun _ gap' => recognizes_name.bind fun _ notationName => ?_
    refine recognizes_close.bind fun _ t => .pure ?_
    rintro left ⟨back, hback, rfl⟩ ⟨rfl, hnotationName, -⟩ hgap' ⟨hfound, -⟩ hids
    obtain ⟨gap, hgap, rfl⟩ := hfound rfl
    obtain ⟨systemId, rfl, hids⟩ := hids.resolve_right (by simp)
    refine ⟨publicId, systemId, ids, _, hids, rfl, .inr ⟨by simpa using hgeneral, gap, gap',
      notationName, back, rfl, hgap, hgap', hnotationName, hback, ?_⟩⟩
    simp
  · refine (recognizes_expect ">").bind fun _ t => .pure ?_
    rintro left rfl ⟨-, hspaces⟩ hids
    obtain ⟨systemId, rfl, hids⟩ := hids.resolve_right (by simp)
    refine ⟨publicId, systemId, ids, _, hids, rfl,
      .inl ⟨rfl, s, hspaces (by simpa using hnone), ?_⟩⟩
    simp

theorem recognizes_entity :
    Recognizes (entity base) fun e s _ => WritesEvent base e ("<!ENTITY".toList ++ s) := by
  refine recognizes_entityName.bind fun name head => recognizes_requireSpace.bind fun _ gap => ?_
  refine recognizes_atQuote.bind fun quoted s => .ite (fun _ => ?_) fun _ => ?_
  · refine recognizes_literal.bind fun text literal => recognizes_close.bind fun _ t => ?_
    refine (recognizes_replacement text).bind fun replaced u => .pure ?_
    rintro left ⟨rfl, hreplaced⟩ ⟨back, hback, rfl⟩ hliteral hs hgap ⟨hname, -⟩
    have hwritten : WritesEvent base _ _ := .internalEntity hname hgap hliteral hreplaced hback
    obtain rfl : s = [] := by simpa using hs
    simpa using hwritten
  · refine (recognizes_externalEntity name).mono ?_
    rintro e t left ⟨publicId, systemId, ids, tail, hids, rfl, hkind⟩ hs hgap ⟨hname, -⟩
    obtain rfl : s = [] := by simpa using hs
    obtain ⟨rfl, back, hback, rfl⟩ | ⟨hgeneral, gap₂, gap₃, notationName, back, rfl, hgap₂, hgap₃,
      hnotationName, hback, rfl⟩ := hkind
    · have hwritten : WritesEvent base _ _ := .externalEntity hname hgap hids hback
      simpa using hwritten
    · cases hname with
      | @general gap₁ name hgap₁ hname =>
          have hwritten : WritesEvent base _ _ := .unparsedEntity hgap₁ hname hgap hids hgap₂
            hgap₃ hnotationName hback
          simpa using hwritten
      | parameter =>
          rw [isParameterName_parameterName] at hgeneral
          cases hgeneral

theorem recognizes_declared {declare : String → String → Event} :
    Recognizes (do
      requireSpace
      let declared ← Scan.name
      return declare declared (← upToClose)) fun e s _ =>
        ∃ gap name body, IsGap gap ∧ IsName name ∧ Begins (!isNameChar ·) body ∧
          QuotesAll (· = '>') body ∧ s = gap ++ name ++ body ++ ">".toList ∧
          e = declare (String.ofList name) (String.ofList (Text.trim body)) := by
  refine recognizes_requireSpace.bind fun _ gap => recognizes_name.bind fun _ name => ?_
  refine recognizes_upToClose.bind fun _ s => .pure ?_
  rintro left ⟨body, rfl, rfl, hbody⟩ ⟨rfl, hname, hstop⟩ hgap
  refine ⟨gap, name, body, hgap, hname, ?_, hbody, by simp, rfl⟩
  intro c hc
  cases body with
  | nil => cases hc
  | cons d body => exact hstop c hc

/-- The name of a notation would run on into the keyword, were there no white space. -/
theorem isGap_of_begins {publicId systemId : Option String} {gap ids t : List Char}
    (hgap : IsSpaces gap) (hids : WritesNotationIds publicId systemId ids)
    (hstop : Begins (!isNameChar ·) (gap ++ (ids ++ t))) : IsGap gap := by
  refine ⟨?_, hgap⟩
  rintro rfl
  obtain ⟨c, rest, rfl, hstart⟩ := exists_cons_of_writesNotationIds hids
  have hnot := hstop c rfl
  simp [isNameChar_of_isNameStart hstart] at hnot

theorem recognizes_notationDecl :
    Recognizes notationDecl fun e s _ => WritesEvent base e ("<!NOTATION".toList ++ s) := by
  refine recognizes_requireSpace.bind fun _ gap => recognizes_name.bind fun _ name => ?_
  refine recognizes_space.bind fun _ gap' => (recognizes_externalId true).bind ?_
  rintro ⟨publicId, systemId⟩ s
  refine recognizes_close.bind fun _ t => .pure ?_
  rintro left ⟨back, hback, rfl⟩ hfound ⟨-, hgap', -⟩ ⟨rfl, hname, hstop⟩ hgap
  -- After a public identifier alone, the white space is passed before the end is looked for.
  obtain ⟨ids, back', hids, hback', rfl⟩ : ∃ ids back', WritesNotationIds publicId systemId ids ∧
      IsSpaces back' ∧ s = ids ++ back' := by
    rcases hfound with ⟨systemId, rfl, hids⟩ | ⟨-, ids, back', hids, hback', rfl⟩
    · exact ⟨s, [], .both hids, by simp [IsSpaces], by simp⟩
    · exact ⟨ids, back', hids, hback', rfl⟩
  have hspaces : IsSpaces (back' ++ back) := fun c hc =>
    (List.mem_append.mp hc).elim (hback' c) (hback c)
  simp only [List.append_assoc] at hstop
  have hwritten : WritesEvent base _ _ := .notationDecl hgap hname
    (isGap_of_begins hgap' hids hstop) hids hspaces
  simpa using hwritten

theorem writesInstruction_takeWhile (body : List Char) :
    WritesInstruction (String.ofList (body.takeWhile (!Text.isBlank ·)))
      (String.ofList (Text.trim ((body.dropWhile (!Text.isBlank ·)).drop 1))) body := by
  have htarget : ∀ c ∈ body.takeWhile (!Text.isBlank ·), Text.isBlank c = false := fun c hc => by
    simpa using List.all_eq_true.mp List.all_takeWhile c hc
  have hsplit := List.takeWhile_append_dropWhile (p := (!Text.isBlank ·)) (l := body)
  cases hdrop : body.dropWhile (!Text.isBlank ·) with
  | nil =>
      rw [hdrop, List.append_nil] at hsplit
      have hbare := WritesInstruction.bare htarget
      rwa [hsplit] at hbare ⊢
  | cons blank data =>
      have hblank : Text.isBlank blank = true := by
        simpa using Text.not_of_dropWhile_eq_cons hdrop
      have hdata : WritesInstruction _ _ (_ ++ blank :: data) := .withData htarget hblank
      rw [← hdrop, hsplit] at hdata
      exact hdata

theorem recognizes_instruction :
    Recognizes instruction fun e s _ => WritesEvent base e ("<?".toList ++ s) := by
  refine (recognizes_upTo (by decide)).bind fun _ s => .pure ?_
  rintro left ⟨body, rfl, rfl, hbody⟩
  have hwritten : WritesEvent base _ _ := .instruction hbody (writesInstruction_takeWhile body)
  simpa using hwritten

theorem recognizes_parameterReference :
    Recognizes parameterReference fun e s _ => WritesEvent base e ("%".toList ++ s) := by
  refine recognizes_name.bind fun _ name => (recognizes_expect ";").bind fun _ s => .pure ?_
  rintro left rfl ⟨rfl, hname, -⟩
  have hwritten : WritesEvent base _ _ := .parameterReference hname
  simpa using hwritten

/-! ## Markup -/

theorem recognizes_single {x : Scan Event} {depth : Nat} {token : String}
    (h : Recognizes x fun e s _ => WritesEvent base e (token.toList ++ s)) :
    Recognizes (single depth x) fun a s _ =>
      WritesMarkup base depth a.1 a.2 (token.toList ++ s) := by
  refine h.bind fun e s => .pure ?_
  rintro left hwritten
  rw [List.append_nil]
  exact .event hwritten

theorem recognizes_comment :
    Recognizes (Event.comment <$> upTo "-->") fun e s _ =>
      WritesEvent base e ("<!--".toList ++ s) := by
  have h : Recognizes (upTo "-->" >>= fun text => pure (Event.comment text)) fun e s _ =>
      WritesEvent base e ("<!--".toList ++ s) := by
    refine (recognizes_upTo (by decide)).bind fun _ s => .pure ?_
    rintro left ⟨body, rfl, rfl, hbody⟩
    have hwritten : WritesEvent base _ _ := .comment hbody
    simpa using hwritten
  exact h

theorem recognizes_conditional (depth : Nat) :
    Recognizes (conditional depth) fun a s _ =>
      WritesMarkup base depth a.1 a.2 ("<![".toList ++ s) := by
  refine recognizes_space.bind fun _ before => .choose ?_ (.choose ?_ (.fail _))
  · refine recognizes_space.bind fun _ after => (recognizes_expect "[").bind fun _ s => .pure ?_
    rintro left rfl ⟨-, hafter, -⟩ ⟨-, hbefore, -⟩
    have hwritten : WritesMarkup base depth _ _ _ := .included hbefore hafter
    simpa [sectionStart] using hwritten
  · refine recognizes_space.bind fun _ after => (recognizes_expect "[").bind fun _ s => ?_
    refine recognizes_ignored.bind fun _ t => .pure ?_
    rintro left ⟨body, rfl, hbody⟩ rfl ⟨-, hafter, -⟩ ⟨-, hbefore, -⟩
    have hwritten : WritesMarkup base depth _ _ _ := .ignored hbefore hafter hbody
    simpa [sectionStart, ignoredSection] using hwritten

theorem recognizes_sectionEnd (depth : Nat) :
    Recognizes (sectionEnd depth) fun a s _ =>
      WritesMarkup base depth a.1 a.2 ("]]>".toList ++ s) := by
  refine .ite (fun _ => .fail _) fun hopen => .pure fun _ => ?_
  obtain ⟨depth, rfl⟩ := Nat.exists_eq_succ_of_ne_zero hopen
  exact .sectionEnd

theorem recognizes_markup (depth : Nat) :
    Recognizes (markup base depth) fun a s _ => WritesMarkup base depth a.1 a.2 s := by
  refine .choose (recognizes_single recognizes_comment) ?_
  refine .choose (recognizes_single recognizes_instruction) ?_
  refine .choose (recognizes_conditional depth) ?_
  refine .choose (recognizes_sectionEnd depth) ?_
  refine .choose (recognizes_single recognizes_entity) ?_
  refine .choose (recognizes_single (recognizes_declared.mono ?_)) ?_
  · rintro _ _ _ ⟨gap, name, body, hgap, hname, hstop, hbody, rfl, rfl⟩
    have hwritten : WritesEvent base _ _ := .element hgap hname hstop hbody
    simpa using hwritten
  refine .choose (recognizes_single (recognizes_declared.mono ?_)) ?_
  · rintro _ _ _ ⟨gap, name, body, hgap, hname, hstop, hbody, rfl, rfl⟩
    have hwritten : WritesEvent base _ _ := .attlist hgap hname hstop hbody
    simpa using hwritten
  refine .choose (recognizes_single recognizes_notationDecl) ?_
  exact .choose (recognizes_single recognizes_parameterReference) (.fail _)

end Scan

/-! ## Subsets -/

variable {base : Option String} {depth : Nat} {events : List Event}

theorem Cursor.exists_afterSpace (c : Cursor) :
    ∃ s, IsSpaces s ∧ c.rest = s ++ c.afterSpace.rest := by
  refine ⟨c.rest.takeWhile Text.isSpace, List.all_eq_true.mp List.all_takeWhile, ?_⟩
  exact List.prefix_append_drop (List.takeWhile_prefix Text.isSpace)

/-- What is scanned to the end was written. -/
theorem writes_of_scanFrom {c : Cursor} (h : scanFrom base depth c = .ok events) :
    WritesSubset base depth events 0 c.rest := by
  induction depth, c using scanFrom.induct base generalizing events with
  | case1 c hrest =>
      rw [scanFrom, if_pos hrest] at h
      cases h
      obtain ⟨s, hs, hc⟩ := c.exists_afterSpace
      rw [hc, hrest]
      exact .of_spaces hs .nil
  | case2 depth c hrest hopen =>
      rw [scanFrom, if_pos hrest, if_neg hopen] at h
      cases h
  | case3 depth c hrest fault hmarkup =>
      rw [scanFrom, if_neg hrest, hmarkup] at h
      cases h
  | case4 depth c hrest found depth' c' hmarkup ih =>
      rw [scanFrom, if_neg hrest, hmarkup] at h
      cases hlater : scanFrom base depth' c' with
      | error fault =>
          simp only [hlater] at h
          cases h
      | ok later =>
          simp only [hlater] at h
          cases h
          obtain ⟨s, hs, hc⟩ := c.exists_afterSpace
          obtain ⟨t, ht, hwritten⟩ := Scan.recognizes_markup depth _ _ _ hmarkup
          rw [hc, ht.1]
          exact .of_spaces hs (.markup hwritten (ih hlater))

/-- The scanner accepts the written subsets, and finds the events that they stand for. -/
theorem scan_eq_ok_iff {text : String} :
    scan text base = .ok events ↔ WritesSubset base 0 events 0 text.toList := by
  refine ⟨writes_of_scanFrom, fun h => ?_⟩
  have hscan := scanFrom_append h 0 []
  rw [List.append_nil, scanFrom_nil] at hscan
  simpa [scan, Cursor.start, Except.map] using hscan

/-- Texts that are accepted one by one are accepted together, with the events of both. -/
theorem scan_append {a b : String} {ea eb : List Event} (ha : scan a base = .ok ea)
    (hb : scan b base = .ok eb) : scan (a ++ b) base = .ok (ea ++ eb) := by
  rw [scan_eq_ok_iff] at ha hb ⊢
  rw [String.toList_append]
  exact ha.append hb

/-- The second text refers to what the first declares, and has a section of its own. -/
theorem scan_append_section :
    scan "<!ENTITY % a SYSTEM 'b'>\n" (some "c") =
        .ok [.externalEntity "%a" none "b" (some "c")] ∧
      scan "%a;<![INCLUDE[<!--]-->]]>" (some "c") =
        .ok [.parameterReference "%a", .startConditional true, .comment "]", .endConditional] ∧
      scan ("<!ENTITY % a SYSTEM 'b'>\n" ++ "%a;<![INCLUDE[<!--]-->]]>") (some "c") =
        .ok ([.externalEntity "%a" none "b" (some "c")] ++
          [.parameterReference "%a", .startConditional true, .comment "]", .endConditional]) := by
  have hfirst : scan "<!ENTITY % a SYSTEM 'b'>\n" (some "c") =
      .ok [.externalEntity "%a" none "b" (some "c")] := by
    decide +kernel
  have hsecond : scan "%a;<![INCLUDE[<!--]-->]]>" (some "c") =
      .ok [.parameterReference "%a", .startConditional true, .comment "]", .endConditional] := by
    decide +kernel
  exact ⟨hfirst, hsecond, scan_append hfirst hsecond⟩

end XmlBounds.Dtd
