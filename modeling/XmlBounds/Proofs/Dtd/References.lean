import XmlBounds.Dtd.CharRef
import XmlBounds.Dtd.Cursor
import XmlBounds.Proofs.Text.Spans

/-!
# Texts spelled with character references

Any character of a literal may be spelled as a reference to its number, in decimal or in hexadecimal
digits, and an ampersand and the quote of the literal must be. However it is spelled, the text comes
back when the references are replaced.
-/

namespace XmlBounds.Dtd

/-! ## Spellings -/

/-- A digit, in either case. -/
def IsDigit (d : Nat) (c : Char) : Prop := c = Nat.digitChar d ∨ c = (Nat.digitChar d).toUpper

/-- A numeral of a radix, with leading zeros or without. -/
inductive IsNumeral (radix : Nat) : Nat → List Char → Prop where
  | digit {d : Nat} {c : Char} : d < radix → IsDigit d c → IsNumeral radix d [c]
  | more {n d : Nat} {s : List Char} {c : Char} : IsNumeral radix n s → d < radix → IsDigit d c →
      IsNumeral radix (n * radix + d) (s ++ [c])

/-- A reference to a character. -/
inductive SpellsChar (c : Char) : List Char → Prop where
  | decimal {digits : List Char} : IsNumeral 10 c.toNat digits →
      SpellsChar c ("&#".toList ++ digits ++ ";".toList)
  | hexadecimal {digits : List Char} : IsNumeral 16 c.toNat digits →
      SpellsChar c ("&#x".toList ++ digits ++ ";".toList)

/-- A complete reference to a number, which need not be the number of a character. -/
inductive IsCharRef (n : Nat) : List Char → Prop where
  | decimal {digits : List Char} : IsNumeral 10 n digits →
      IsCharRef n ("&#".toList ++ digits ++ ";".toList)
  | hexadecimal {digits : List Char} : IsNumeral 16 n digits →
      IsCharRef n ("&#x".toList ++ digits ++ ";".toList)

theorem SpellsChar.isCharRef {c : Char} {spelling : List Char} (h : SpellsChar c spelling) :
    IsCharRef c.toNat spelling := by
  cases h with
  | decimal h => exact .decimal h
  | hexadecimal h => exact .hexadecimal h

/-- What a reference to a number stands for: the character of that number, if there is one. -/
def charOf (n : Nat) (spelling : List Char) : Except Fault Char :=
  if n.isValidChar then .ok (Char.ofNat n)
  else if n ≤ 4294967295 then .error (.invalidCharRef (String.ofList spelling))
  else .error (.unreadableCharRef (String.ofList spelling) .tooLarge)

/-- The spellings of a text between quotes. -/
inductive Spells (quote : Char) : List Char → List Char → Prop where
  | nil : Spells quote [] []
  | literally {c : Char} {text s : List Char} : c ≠ '&' → c ≠ quote → Spells quote text s →
      Spells quote (c :: text) (c :: s)
  | reference {c : Char} {text spelling s : List Char} : SpellsChar c spelling →
      Spells quote text s → Spells quote (c :: text) (spelling ++ s)

/-! ## Numerals -/

section Numerals

variable {radix n d : Nat} {c : Char} {s : List Char}

theorem IsDigit.digit?_eq (h : IsDigit d c) (hd : d < radix) (hradix : radix ≤ 16) :
    Text.digit? radix c = some d := by
  have hlower : ∀ d < 16, Text.digit? 16 (Nat.digitChar d) = some d := by decide
  have hupper : ∀ d < 16, Text.digit? 16 (Nat.digitChar d).toUpper = some d := by decide
  have hvalue : Text.digit? 16 c = some d := by
    rcases h with rfl | rfl
    · exact hlower d (by omega)
    · exact hupper d (by omega)
  unfold Text.digit? at hvalue ⊢
  rw [Option.filter_eq_some_iff] at hvalue ⊢
  exact ⟨hvalue.1, by simpa using hd⟩

theorem IsDigit.isDigit (h : IsDigit d c) (hd : d < 10) : c.isDigit = true := by
  have hlower : ∀ d < 10, (Nat.digitChar d).isDigit = true := by decide
  have hupper : ∀ d < 10, (Nat.digitChar d).toUpper.isDigit = true := by decide
  rcases h with rfl | rfl
  · exact hlower d hd
  · exact hupper d hd

theorem IsNumeral.ne_nil (h : IsNumeral radix n s) : s ≠ [] := by
  cases h <;> simp

theorem IsNumeral.isDigit (h : IsNumeral radix n s) :
    ∀ c ∈ s, ∃ d, d < radix ∧ IsDigit d c := by
  induction h with
  | @digit d c hd hc =>
      intro e he
      obtain rfl : e = c := by simpa using he
      exact ⟨d, hd, hc⟩
  | @more n d s c _ hd hc ih =>
      intro e he
      rcases List.mem_append.mp he with he | he
      · exact ih e he
      · obtain rfl : e = c := by simpa using he
        exact ⟨d, hd, hc⟩

theorem IsNumeral.notMem (h : IsNumeral radix n s) (hradix : radix ≤ 16)
    (hc : Text.digit? 16 c = none) : c ∉ s := by
  intro hmem
  obtain ⟨d, hd, hdigit⟩ := h.isDigit c hmem
  have hread := hdigit.digit?_eq (Nat.lt_of_lt_of_le hd hradix) (Nat.le_refl 16)
  rw [hc] at hread
  cases hread

theorem readDigits_append {bound acc : Nat} {beyond : Text.IntegerFault} {t : List Char}
    (h : Text.readDigits radix bound beyond acc s = .ok n) :
    Text.readDigits radix bound beyond acc (s ++ t) = Text.readDigits radix bound beyond n t := by
  induction s generalizing acc with
  | nil =>
      cases h
      rfl
  | cons c s ih =>
      rw [List.cons_append, Text.readDigits]
      rw [Text.readDigits] at h
      split at h
      · cases h
      · split at h
        · cases h
        · next hwithin =>
            simp only [hwithin]
            exact ih h

theorem IsNumeral.readDigits_eq {bound : Nat} {beyond : Text.IntegerFault}
    (h : IsNumeral radix n s) (hradix : radix ≤ 16) (hn : n ≤ bound) :
    Text.readDigits radix bound beyond 0 s = .ok n := by
  induction h with
  | digit hd hc => simp [Text.readDigits, hc.digit?_eq hd hradix, Nat.not_lt.mpr hn]
  | @more n d s c _ hd hc ih =>
      have hle : n ≤ n * radix := Nat.le_mul_of_pos_right n (by omega)
      rw [readDigits_append (ih (by omega))]
      simp [Text.readDigits, hc.digit?_eq hd hradix, Nat.not_lt.mpr hn]

theorem readDigits_append_error {bound acc : Nat} {beyond why : Text.IntegerFault} {t : List Char}
    (h : Text.readDigits radix bound beyond acc s = .error why) :
    Text.readDigits radix bound beyond acc (s ++ t) = .error why := by
  induction s generalizing acc with
  | nil => cases h
  | cons c s ih =>
      rw [List.cons_append, Text.readDigits]
      rw [Text.readDigits] at h
      split at h
      · exact h
      · split at h
        · next hbeyond =>
            simp only [hbeyond, if_true]
            exact h
        · next hwithin =>
            simp only [hwithin, if_false]
            exact ih h

theorem IsNumeral.readDigits_beyond {bound : Nat} {beyond : Text.IntegerFault}
    (h : IsNumeral radix n s) (hradix : radix ≤ 16) (hbound : radix ≤ bound) (hn : bound < n) :
    Text.readDigits radix bound beyond 0 s = .error beyond := by
  induction h with
  | digit hd _ => omega
  | @more n d s c hs hd hc ih =>
      -- Either the digits so far are beyond the bound, or the last one takes the number there.
      by_cases hprefix : bound < n
      · exact readDigits_append_error (ih hprefix)
      · rw [readDigits_append (hs.readDigits_eq hradix (Nat.not_lt.mp hprefix))]
        simp [Text.readDigits, hc.digit?_eq hd hradix, hn]

theorem IsNumeral.char_eq (h : IsNumeral radix n s) (hradix : radix ≤ 16) :
    (CharNumber.mk radix s).char = charOf n (CharNumber.mk radix s).reference := by
  unfold CharNumber.char charOf
  by_cases hn : n ≤ 4294967295
  · rw [h.readDigits_eq hradix hn]
    simp only [hn, if_true]
  · -- No character has a number of more than 32 bits.
    have hvalid : ¬ n.isValidChar := by
      rintro (hlow | hhigh)
      · omega
      · omega
    rw [h.readDigits_beyond hradix (by omega) (by omega)]
    simp only [hvalid, hn, if_false]

theorem charOf_toNat (c : Char) (spelling : List Char) : charOf c.toNat spelling = .ok c := by
  have hvalid : c.toNat.isValidChar := c.valid
  rw [charOf, if_pos hvalid, Char.ofNat_toNat]

end Numerals

/-! ## Expansion -/

theorem digitsUpToSemicolon?_append {isDigit : Char → Bool} {s : List Char} (hne : s ≠ [])
    (hs : ∀ c ∈ s, isDigit c = true) (hstop : isDigit ';' = false) (t : List Char) :
    digitsUpToSemicolon? isDigit (s ++ ';' :: t) = some (s, t) := by
  have hstop' : ∀ c ∈ (';' :: t).head?, isDigit c = false := by simpa using hstop
  unfold digitsUpToSemicolon?
  rw [Text.takeWhile_append_stop hs hstop', Text.dropWhile_append_stop hs hstop']
  cases s with
  | nil => exact absurd rfl hne
  | cons c s => rfl

/-- The number of a reference ends at its semicolon. -/
theorem IsCharRef.charNumber?_eq {n : Nat} {spelling : List Char} (h : IsCharRef n spelling)
    (t : List Char) :
    ∃ number digits, spelling = "&#".toList ++ digits ∧
      charNumber? (digits ++ t) = some (number, t) ∧ number.char = charOf n spelling := by
  cases h with
  | @decimal digits h =>
      have hdigits : ∀ e ∈ digits, e.isDigit = true := by
        intro e he
        obtain ⟨d, hd, he⟩ := h.isDigit e he
        exact he.isDigit hd
      have hread := digitsUpToSemicolon?_append h.ne_nil hdigits (by decide) t
      refine ⟨⟨10, digits⟩, digits ++ ";".toList, by simp, ?_, h.char_eq (by decide)⟩
      unfold charNumber?
      split
      · next rest hx =>
          -- The first digit would be an `x`.
          cases digits with
          | nil => exact absurd rfl h.ne_nil
          | cons d digits =>
              have hd := hdigits d List.mem_cons_self
              rw [(List.cons.inj hx).1] at hd
              cases hd
      · rw [List.append_assoc]
        exact congrArg (Option.map _) hread
  | @hexadecimal digits h =>
      have hdigits : ∀ e ∈ digits, isHexDigit e = true := by
        intro e he
        obtain ⟨d, hd, he⟩ := h.isDigit e he
        rw [isHexDigit, he.digit?_eq hd (by decide)]
        rfl
      have hread := digitsUpToSemicolon?_append h.ne_nil hdigits (by decide) t
      refine ⟨⟨16, digits⟩, 'x' :: (digits ++ ";".toList), by simp, ?_, h.char_eq (by decide)⟩
      rw [List.cons_append, List.append_assoc]
      exact congrArg (Option.map _) hread

theorem expandChars_charRef {n : Nat} {spelling : List Char} (h : IsCharRef n spelling)
    (t : List Char) :
    expandChars (spelling ++ t) = (charOf n spelling).bind fun c =>
      (expandChars t).map (c :: ·) := by
  obtain ⟨number, digits, hspelling, hnumber, hchar⟩ := h.charNumber?_eq t
  have happend : spelling ++ t = '&' :: '#' :: (digits ++ t) := by
    rw [hspelling]
    rfl
  rw [happend, expandChars]
  split
  · next n' rest hsome =>
      rw [hnumber] at hsome
      cases hsome
      rw [hchar]
      rfl
  · next hnone =>
      rw [hnumber] at hnone
      cases hnone

theorem expandChars_reference {c : Char} {spelling : List Char} (h : SpellsChar c spelling)
    (t : List Char) : expandChars (spelling ++ t) = (expandChars t).map (c :: ·) := by
  rw [expandChars_charRef h.isCharRef, charOf_toNat]
  rfl

theorem expandChars_plain {c : Char} (hc : c ≠ '&') (t : List Char) :
    expandChars (c :: t) = (expandChars t).map (c :: ·) := by
  rw [expandChars]
  · rfl
  · rintro rest rfl
    exact absurd rfl hc

theorem SpellsChar.notMem {c quote : Char} {spelling : List Char} (h : SpellsChar c spelling)
    (hquote : Scan.isQuote quote = true) : quote ∉ spelling := by
  have hnone : Text.digit? 16 quote = none := by
    simp only [Scan.isQuote, Bool.or_eq_true, beq_iff_eq] at hquote
    rcases hquote with rfl | rfl
    · rfl
    · rfl
  have hmark (e : Char) (he : Scan.isQuote e = false) : quote ≠ e := by
    rintro rfl
    rw [he] at hquote
    cases hquote
  cases h with
  | decimal h =>
      simp [h.notMem (by decide) hnone, hmark '&' (by decide), hmark '#' (by decide),
        hmark ';' (by decide)]
  | hexadecimal h =>
      simp [h.notMem (by decide) hnone, hmark '&' (by decide), hmark '#' (by decide),
        hmark 'x' (by decide), hmark ';' (by decide)]

variable {quote : Char} {text s : List Char}

theorem Spells.expandChars_eq (h : Spells quote text s) : expandChars s = .ok text := by
  induction h with
  | nil => rw [expandChars]
  | literally hc _ _ ih =>
      rw [expandChars_plain hc, ih]
      rfl
  | reference hspelling _ ih =>
      rw [expandChars_reference hspelling, ih]
      rfl

theorem Spells.notMem (h : Spells quote text s) (hquote : Scan.isQuote quote = true) :
    quote ∉ s := by
  induction h with
  | nil => simp
  | literally _ hc _ ih =>
      rw [List.mem_cons, not_or]
      exact ⟨hc.symm, ih⟩
  | reference hspelling _ ih =>
      rw [List.mem_append, not_or]
      exact ⟨hspelling.notMem hquote, ih⟩

/-! ## Every text has a spelling -/

theorem exists_isNumeral (radix : Nat) (hradix : 1 < radix) (n : Nat) :
    ∃ s, IsNumeral radix n s := by
  induction n using Nat.strongRecOn with
  | _ n ih =>
      by_cases hn : n < radix
      · exact ⟨_, .digit hn (.inl rfl)⟩
      · obtain ⟨s, hs⟩ := ih (n / radix) (Nat.div_lt_self (by omega) hradix)
        have hmore := IsNumeral.more hs (Nat.mod_lt n (by omega)) (.inl rfl)
        rw [Nat.div_add_mod'] at hmore
        exact ⟨_, hmore⟩

theorem exists_spells (quote : Char) (text : List Char) : ∃ s, Spells quote text s := by
  induction text with
  | nil => exact ⟨[], .nil⟩
  | cons c text ih =>
      obtain ⟨s, hs⟩ := ih
      obtain ⟨digits, hdigits⟩ := exists_isNumeral 10 (by decide) c.toNat
      exact ⟨_, .reference (.decimal hdigits) hs⟩

end XmlBounds.Dtd
