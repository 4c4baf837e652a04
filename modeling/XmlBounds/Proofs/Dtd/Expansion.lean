import Mathlib.Data.List.Induction
import XmlBounds.Proofs.Dtd.References
import XmlBounds.Proofs.Text.Numerals

/-!
# What becomes of a literal

No reference begins inside another, so the complete references of a literal cut it into pieces. If
each of them stands for a character, they are replaced and the text between them is kept; if not,
the literal is refused.
-/

namespace XmlBounds.Dtd

variable {n : Nat} {c : Char} {spelling front s t : List Char}

/-! ## Where a reference begins -/

theorem isDigit_of_digit? {radix d : Nat} (h : Text.digit? radix c = some d) :
    d < radix ∧ IsDigit d c := by
  have hdecimal : ∀ d < 10, Nat.digitChar d = Char.ofNat (48 + d) := by decide
  have hlower : ∀ e < 6, Nat.digitChar (e + 10) = Char.ofNat (97 + e) := by decide
  have hupper : ∀ e < 6, (Nat.digitChar (e + 10)).toUpper = Char.ofNat (65 + e) := by decide
  obtain ⟨hvalue, hlt⟩ := Option.filter_eq_some_iff.mp h
  refine ⟨of_decide_eq_true hlt, ?_⟩
  split at hvalue
  · next hrange =>
      have hrange : 48 ≤ c.toNat ∧ c.toNat ≤ 57 := hrange
      have hd : c.toNat - 48 = d := Option.some.inj hvalue
      left
      rw [hdecimal d (by omega), ← hd, Nat.add_sub_cancel' hrange.1, Char.ofNat_toNat]
  · split at hvalue
    · next hrange =>
        have hrange : 97 ≤ c.toNat ∧ c.toNat ≤ 102 := hrange
        have hd : c.toNat - 97 + 10 = d := Option.some.inj hvalue
        left
        rw [← hd, hlower _ (by omega), Nat.add_sub_cancel' hrange.1, Char.ofNat_toNat]
    · split at hvalue
      · next hrange =>
          have hrange : 65 ≤ c.toNat ∧ c.toNat ≤ 70 := hrange
          have hd : c.toNat - 65 + 10 = d := Option.some.inj hvalue
          right
          rw [← hd, hupper _ (by omega), Nat.add_sub_cancel' hrange.1, Char.ofNat_toNat]
      · cases hvalue

theorem exists_isNumeral_of_digits {radix : Nat} {digits : List Char} (hne : digits ≠ [])
    (h : ∀ c ∈ digits, (Text.digit? radix c).isSome = true) :
    ∃ n, IsNumeral radix n digits := by
  induction digits using List.reverseRecOn with
  | nil => exact absurd rfl hne
  | append_singleton digits c ih =>
      obtain ⟨d, hd⟩ := Option.isSome_iff_exists.mp (h c (by simp))
      obtain ⟨hlt, hdigit⟩ := isDigit_of_digit? hd
      rcases List.eq_nil_or_concat digits with rfl | ⟨init, last, rfl⟩
      · exact ⟨d, .digit hlt hdigit⟩
      · obtain ⟨n, hn⟩ := ih (by simp) fun e he => h e (List.mem_append_left _ he)
        exact ⟨_, hn.more hlt hdigit⟩

theorem exists_of_digitsUpToSemicolon? {isDigit : Char → Bool} {digits rest : List Char}
    (h : digitsUpToSemicolon? isDigit s = some (digits, rest)) :
    digits ≠ [] ∧ (∀ c ∈ digits, isDigit c = true) ∧ s = digits ++ ';' :: rest := by
  unfold digitsUpToSemicolon? at h
  split at h
  · next d digits' rest' htake hdrop =>
      cases h
      refine ⟨by simp, ?_, ?_⟩
      · intro c hc
        rw [← htake] at hc
        exact List.mem_takeWhile_imp hc
      · rw [← htake, ← hdrop, List.takeWhile_append_dropWhile]
  · cases h

/-- Where a number is read behind an ampersand and a hash, there is a reference. -/
theorem exists_isCharRef {number : CharNumber} (h : charNumber? s = some (number, t)) :
    ∃ n spelling, IsCharRef n spelling ∧ '&' :: '#' :: s = spelling ++ t := by
  unfold charNumber? at h
  split at h
  · next rest =>
      obtain ⟨⟨digits, t'⟩, hdigits, hresult⟩ := Option.map_eq_some_iff.mp h
      cases hresult
      obtain ⟨hne, hhex, rfl⟩ := exists_of_digitsUpToSemicolon? hdigits
      obtain ⟨n, hn⟩ := exists_isNumeral_of_digits hne hhex
      exact ⟨n, _, .hexadecimal hn, by simp⟩
  · obtain ⟨⟨digits, t'⟩, hdigits, hresult⟩ := Option.map_eq_some_iff.mp h
    cases hresult
    obtain ⟨hne, hdecimal, rfl⟩ := exists_of_digitsUpToSemicolon? hdigits
    have hsome : ∀ c ∈ digits, (Text.digit? 10 c).isSome = true := by
      intro c hc
      rw [Text.digit?_of_isDigit (hdecimal c hc)]
      rfl
    obtain ⟨n, hn⟩ := exists_isNumeral_of_digits hne hsome
    exact ⟨n, _, .decimal hn, by simp⟩

theorem expandChars_other (h : ∀ n spelling, IsCharRef n spelling → ¬ spelling <+: c :: s) :
    expandChars (c :: s) = (expandChars s).map (c :: ·) := by
  rw [expandChars.eq_def]
  split
  · next hnil => cases hnil
  · next rest heq =>
      cases heq
      split
      · next number rest' hnumber =>
          obtain ⟨n, spelling, hspelling, happend⟩ := exists_isCharRef hnumber
          exact absurd ⟨rest', happend.symm⟩ (h n spelling hspelling)
      · rfl
  · next heq =>
      cases heq
      rfl

/-! ## The first reference -/

theorem IsCharRef.exists_cons (h : IsCharRef n spelling) :
    ∃ body, spelling = '&' :: body ∧ '&' ∉ body := by
  cases h with
  | @decimal digits h =>
      have hdigits : '&' ∉ digits := h.notMem (by decide) rfl
      exact ⟨'#' :: (digits ++ ";".toList), rfl, by simp [hdigits]⟩
  | @hexadecimal digits h =>
      have hdigits : '&' ∉ digits := h.notMem (by decide) rfl
      exact ⟨'#' :: 'x' :: (digits ++ ";".toList), rfl, by simp [hdigits]⟩

theorem IsCharRef.length_pos (h : IsCharRef n spelling) : 0 < spelling.length := by
  obtain ⟨body, rfl, _⟩ := h.exists_cons
  exact Nat.succ_pos _

theorem IsCharRef.head_append (h : IsCharRef n spelling) (t : List Char) :
    ∀ e ∈ (spelling ++ t).head?, e = '&' := by
  obtain ⟨body, rfl, _⟩ := h.exists_cons
  simp

/-- A reference that begins before an ampersand ends before it. -/
theorem IsCharRef.isPrefix_front (h : IsCharRef n spelling) (hne : front ≠ [])
    (ht : ∀ e ∈ t.head?, e = '&') (hbegins : spelling <+: front ++ t) : spelling <+: front := by
  rcases List.prefix_or_prefix_of_prefix hbegins (List.prefix_append front t) with
    hinside | ⟨more, rfl⟩
  · exact hinside
  · cases more with
    | nil => simp
    | cons e more =>
        obtain ⟨rest, hrest⟩ := (List.prefix_append_right_inj front).mp hbegins
        have he : e = '&' := ht e (by rw [← hrest]; rfl)
        obtain ⟨body, hbody, hnot⟩ := h.exists_cons
        cases front with
        | nil => exact absurd rfl hne
        | cons d front =>
            cases hbody
            exact absurd (by simp [he]) hnot

/-- The text has a complete reference in it. -/
def HasReference (s : List Char) : Prop := ∃ n spelling, IsCharRef n spelling ∧ spelling <:+: s

theorem not_hasReference_nil : ¬ HasReference [] := by
  rintro ⟨n, spelling, h, hinfix⟩
  obtain ⟨body, rfl, _⟩ := h.exists_cons
  cases List.infix_nil.mp hinfix

theorem hasReference_cons : HasReference (c :: s) ↔
    (∃ n spelling, IsCharRef n spelling ∧ spelling <+: c :: s) ∨ HasReference s := by
  constructor
  · rintro ⟨n, spelling, h, hinfix⟩
    exact (List.infix_cons_iff.mp hinfix).imp (fun hp => ⟨n, spelling, h, hp⟩)
      fun hi => ⟨n, spelling, h, hi⟩
  · rintro (⟨n, spelling, h, hbegins⟩ | ⟨n, spelling, h, hinfix⟩)
    · exact ⟨n, spelling, h, hbegins.isInfix⟩
    · exact ⟨n, spelling, h, hinfix.trans (List.suffix_cons c s).isInfix⟩

theorem exists_first (h : HasReference s) : ∃ front n spelling rest,
    s = front ++ (spelling ++ rest) ∧ ¬ HasReference front ∧ IsCharRef n spelling := by
  induction s with
  | nil =>
      obtain ⟨n, spelling, hspelling, hinfix⟩ := h
      have hempty : [] = [] ++ (spelling ++ []) := by simp [List.infix_nil.mp hinfix]
      exact ⟨[], n, spelling, [], hempty, not_hasReference_nil, hspelling⟩
  | cons c s ih =>
      by_cases hhere : ∃ n spelling, IsCharRef n spelling ∧ spelling <+: c :: s
      · obtain ⟨n, spelling, hspelling, rest, hrest⟩ := hhere
        exact ⟨[], n, spelling, rest, hrest.symm, not_hasReference_nil, hspelling⟩
      · obtain ⟨front, n, spelling, rest, rfl, hfront, hspelling⟩ :=
          ih ((hasReference_cons.mp h).resolve_left hhere)
        refine ⟨c :: front, n, spelling, rest, rfl, ?_, hspelling⟩
        rw [hasReference_cons, not_or]
        refine ⟨?_, hfront⟩
        rintro ⟨m, other, hother, hbegins⟩
        exact hhere ⟨m, other, hother, hbegins.trans (List.prefix_append (c :: front) _)⟩

theorem expandChars_append (hfront : ¬ HasReference front) (ht : ∀ e ∈ t.head?, e = '&') :
    expandChars (front ++ t) = (expandChars t).map (front ++ ·) := by
  induction front with
  | nil =>
      rw [List.nil_append]
      cases expandChars t <;> rfl
  | cons c front ih =>
      rw [hasReference_cons, not_or] at hfront
      have hother : ∀ n spelling, IsCharRef n spelling → ¬ spelling <+: c :: (front ++ t) := by
        intro n spelling h hbegins
        have hinside := h.isPrefix_front (List.cons_ne_nil c front) ht hbegins
        exact hfront.1 ⟨n, spelling, h, hinside⟩
      rw [List.cons_append, expandChars_other hother, ih hfront.2]
      cases expandChars t <;> rfl

/-! ## The whole literal -/

/-- The text before the first reference is kept and the reference gives way to its character, and so
on to the end of the literal. -/
inductive Expands : List Char → List Char → Prop where
  | kept {s : List Char} : ¬ HasReference s → Expands s s
  | reference {front spelling s t : List Char} {c : Char} : ¬ HasReference front →
      IsCharRef c.toNat spelling → Expands s t →
      Expands (front ++ (spelling ++ s)) (front ++ c :: t)

/-- The literal has a reference in it to what is no number of a character. -/
def HasBadReference (s : List Char) : Prop :=
  ∃ n spelling, IsCharRef n spelling ∧ spelling <:+: s ∧ ¬ n.isValidChar

theorem expandChars_kept (h : ¬ HasReference s) : expandChars s = .ok s := by
  have happend := expandChars_append (t := []) h (by simp)
  rw [List.append_nil] at happend
  rw [happend, expandChars]
  simp [Except.map]

theorem expandChars_first (hfront : ¬ HasReference front) (h : IsCharRef n spelling) :
    expandChars (front ++ (spelling ++ s)) = (charOf n spelling).bind fun c =>
      (expandChars s).map (front ++ c :: ·) := by
  rw [expandChars_append hfront (h.head_append s), expandChars_charRef h]
  cases charOf n spelling with
  | error fault => rfl
  | ok c => cases expandChars s <;> rfl

theorem Expands.expandChars_eq (h : Expands s t) : expandChars s = .ok t := by
  induction h with
  | kept h => exact expandChars_kept h
  | reference hfront hspelling _ ih =>
      rw [expandChars_first hfront hspelling, charOf_toNat, ih]
      rfl

theorem exists_charOf_error (h : ¬ n.isValidChar) (spelling : List Char) :
    ∃ fault, charOf n spelling = .error fault := by
  rw [charOf, if_neg h]
  split
  · exact ⟨_, rfl⟩
  · exact ⟨_, rfl⟩

theorem error_of_bad (h : IsCharRef n spelling) (hbad : ¬ n.isValidChar) (front t : List Char) :
    ∃ fault, expandChars (front ++ (spelling ++ t)) = .error fault := by
  -- What is read before the bad reference is a single character or another reference, and both end
  -- where it begins at the latest.
  induction hlength : front.length using Nat.strongRecOn generalizing front with
  | _ length ih =>
      subst hlength
      cases front with
      | nil =>
          obtain ⟨fault, hfault⟩ := exists_charOf_error hbad spelling
          rw [List.nil_append, expandChars_charRef h, hfault]
          exact ⟨fault, rfl⟩
      | cons c front =>
          by_cases hhere : ∃ m other, IsCharRef m other ∧
              other <+: c :: (front ++ (spelling ++ t))
          · obtain ⟨m, other, hother, hbegins⟩ := hhere
            obtain ⟨rest, hrest⟩ :=
              hother.isPrefix_front (List.cons_ne_nil c front) (h.head_append t) hbegins
            have hshorter : rest.length < (c :: front).length := by
              rw [← hrest, List.length_append]
              exact Nat.lt_add_of_pos_left hother.length_pos
            obtain ⟨fault, hfault⟩ := ih _ hshorter rest rfl
            rw [← hrest, List.append_assoc, expandChars_charRef hother, hfault]
            cases charOf m other with
            | error why => exact ⟨why, rfl⟩
            | ok e => exact ⟨fault, rfl⟩
          · obtain ⟨fault, hfault⟩ := ih _ (Nat.lt_succ_self _) front rfl
            have hnone : ∀ m other, IsCharRef m other →
                ¬ other <+: c :: (front ++ (spelling ++ t)) :=
              fun m other hother hbegins => hhere ⟨m, other, hother, hbegins⟩
            rw [List.cons_append, expandChars_other hnone, hfault]
            exact ⟨fault, rfl⟩

theorem exists_toNat_eq (h : n.isValidChar) : ∃ c : Char, c.toNat = n :=
  ⟨Char.ofNatAux n h, rfl⟩

theorem exists_expands_or_bad (s : List Char) : (∃ t, Expands s t) ∨ HasBadReference s := by
  induction hlength : s.length using Nat.strongRecOn generalizing s with
  | _ length ih =>
      subst hlength
      by_cases hsome : HasReference s
      · obtain ⟨front, n, spelling, rest, rfl, hfront, hspelling⟩ := exists_first hsome
        by_cases hvalid : n.isValidChar
        · have hshorter : rest.length < (front ++ (spelling ++ rest)).length := by
            have hpos := hspelling.length_pos
            rw [List.length_append, List.length_append]
            omega
          obtain ⟨c, rfl⟩ := exists_toNat_eq hvalid
          rcases ih _ hshorter rest rfl with ⟨t, ht⟩ | ⟨m, other, hother, hinfix, hbad⟩
          · exact .inl ⟨_, .reference hfront hspelling ht⟩
          · have hrest : rest <:+: front ++ (spelling ++ rest) :=
              ((List.suffix_append spelling rest).trans (List.suffix_append front _)).isInfix
            exact .inr ⟨m, other, hother, hinfix.trans hrest, hbad⟩
        · refine .inr ⟨n, spelling, hspelling, ⟨front, rest, ?_⟩, hvalid⟩
          rw [List.append_assoc]
      · exact .inl ⟨s, .kept hsome⟩

theorem expandChars_eq_ok_iff : expandChars s = .ok t ↔ Expands s t := by
  constructor
  · intro h
    rcases exists_expands_or_bad s with ⟨t', ht'⟩ | ⟨n, spelling, hspelling, hinfix, hbad⟩
    · rw [ht'.expandChars_eq] at h
      cases h
      exact ht'
    · obtain ⟨front, rest, rfl⟩ := hinfix
      obtain ⟨fault, hfault⟩ := error_of_bad hspelling hbad front rest
      rw [List.append_assoc, hfault] at h
      cases h
  · exact Expands.expandChars_eq

theorem exists_expandChars_error_iff :
    (∃ fault, expandChars s = .error fault) ↔ HasBadReference s := by
  constructor
  · rintro ⟨fault, h⟩
    rcases exists_expands_or_bad s with ⟨t, ht⟩ | hbad
    · rw [ht.expandChars_eq] at h
      cases h
    · exact hbad
  · rintro ⟨n, spelling, hspelling, ⟨front, rest, rfl⟩, hbad⟩
    rw [List.append_assoc]
    exact error_of_bad hspelling hbad front rest

/-- The spellings of a text that does not stand between quotes: an ampersand has to be a reference,
and every other character may be one. -/
def SpellsFreely : List Char → List Char → Prop := Spells '&'

theorem expandCharRefs_eq_ok_iff {literal text : String} :
    expandCharRefs literal = .ok text ↔ expandChars literal.toList = .ok text.toList := by
  rw [expandCharRefs]
  cases expandChars literal.toList with
  | error fault =>
      constructor
      · intro h
        cases h
      · intro h
        cases h
  | ok t =>
      constructor
      · intro h
        cases h
        simp
      · intro h
        cases h
        simp [Except.map]

/-- Every spelling of a text gives the text back: what a reference stands for is not read again.
Beyond that, a literal is refused exactly if it has a complete reference in it to what is no
character, and otherwise its references are replaced and everything else is kept. -/
theorem expandCharRefs_once :
    (∀ text spelling : String, SpellsFreely text.toList spelling.toList →
      expandCharRefs spelling = .ok text) ∧
    ∀ literal : String,
      ((∃ fault, expandCharRefs literal = .error fault) ↔ HasBadReference literal.toList) ∧
      ∀ text : String, expandCharRefs literal = .ok text ↔ Expands literal.toList text.toList := by
  refine ⟨?_, fun literal => ⟨?_, ?_⟩⟩
  · intro text spelling h
    exact expandCharRefs_eq_ok_iff.mpr h.expandChars_eq
  · rw [← exists_expandChars_error_iff, expandCharRefs]
    cases expandChars literal.toList with
    | error fault => simp [Except.map]
    | ok t => simp [Except.map]
  · intro text
    rw [expandCharRefs_eq_ok_iff, expandChars_eq_ok_iff]

/-- An ampersand that is spelled as a reference does not begin another one. -/
theorem expandCharRefs_ampersand :
    SpellsFreely "&#38;<".toList "&#x0026;#38;&#60;".toList ∧
      expandCharRefs "&#x0026;#38;&#60;" = .ok "&#38;<" := by
  have hampersand : SpellsChar '&' "&#x0026;".toList := by
    have hdigits : IsNumeral 16 (((0 * 16 + 0) * 16 + 2) * 16 + 6) "0026".toList :=
      .more (.more (.more (.digit (by decide) (.inl rfl)) (by decide) (.inl rfl)) (by decide)
        (.inl rfl)) (by decide) (.inl rfl)
    exact @SpellsChar.hexadecimal '&' _ hdigits
  have hless : SpellsChar '<' "&#60;".toList := by
    have hdigits : IsNumeral 10 (6 * 10 + 0) "60".toList :=
      .more (.digit (by decide) (.inl rfl)) (by decide) (.inl rfl)
    exact @SpellsChar.decimal '<' _ hdigits
  have hspelling : SpellsFreely "&#38;<".toList "&#x0026;#38;&#60;".toList :=
    .reference hampersand (.literally (by decide) (by decide) (.literally (by decide) (by decide)
      (.literally (by decide) (by decide) (.literally (by decide) (by decide)
        (.reference hless .nil)))))
  exact ⟨hspelling, expandCharRefs_once.1 _ _ hspelling⟩

end XmlBounds.Dtd
