import XmlBounds.Proofs.Dtd.Brackets
import XmlBounds.Proofs.Dtd.ByteReaders

/-!
# The end of an internal subset among the bytes

The bracket that closes an internal subset is looked for byte by byte. What ends a state of the
search is ASCII, and no byte of a character beyond ASCII is. So the search passes such a character
as it passes any other, and it finds the bracket that a search of the characters finds.
-/

namespace XmlBounds.Dtd

open Text (offsetAt)

/-- Where the search among the bytes stands in the same place. -/
def SubsetState.inBytes : SubsetState → ByteScan.ByteState
  | .plain => .plain
  | .comment => .comment
  | .literal quote => .literal quote.toUInt8

/-- A literal is closed by a quote. -/
def SubsetState.IsQuoted : SubsetState → Prop
  | .literal quote => Scan.isQuote quote = true
  | _ => True

namespace ByteScan

variable {state : SubsetState} {c quote : Char} {s : List Char} {b : UInt8} {left : List UInt8}

theorem subsetEndOffsetFrom?_plain (hcomment : (Text.bytes "<!--").isPrefixOf (b :: left) = false)
    (hquote : ¬ (b = '"'.toUInt8 ∨ b = '\''.toUInt8)) (hbracket : b ≠ ']'.toUInt8) (i : Nat) :
    subsetEndOffsetFrom? .plain i (b :: left) = subsetEndOffsetFrom? .plain (i + 1) left := by
  rw [subsetEndOffsetFrom?, if_neg (by simp [hcomment]), if_neg hquote, if_neg hbracket]

theorem subsetEndOffsetFrom?_comment (hend : (Text.bytes "-->").isPrefixOf (b :: left) = false)
    (i : Nat) :
    subsetEndOffsetFrom? .comment i (b :: left) = subsetEndOffsetFrom? .comment (i + 1) left := by
  rw [subsetEndOffsetFrom?, if_neg (by simp [hend])]

/-- No byte of a character beyond ASCII counts. -/
theorem subsetEndOffsetFrom?_beyond {bytes : List UInt8} (hstate : state.IsQuoted)
    (hbytes : ∀ b ∈ bytes, 128 ≤ b.toNat) (i : Nat) :
    subsetEndOffsetFrom? state.inBytes i (bytes ++ left) =
      subsetEndOffsetFrom? state.inBytes (i + bytes.length) left := by
  induction bytes generalizing i with
  | nil => rfl
  | cons b bytes ih =>
      obtain ⟨hb, hbytes⟩ := List.forall_mem_cons.mp hbytes
      have hne {d : Char} (hd : d.toNat < 128) : b ≠ d.toUInt8 := by
        rintro rfl
        have hvalue : d.toUInt8.toNat = d.toNat % 256 := rfl
        omega
      have hbegins {d : Char} (hd : d.toNat < 128) (pattern left : List UInt8) :
          (d.toUInt8 :: pattern).isPrefixOf (b :: left) = false := by
        simp [List.isPrefixOf, (hne hd).symm]
      have hnext : subsetEndOffsetFrom? state.inBytes i (b :: (bytes ++ left)) =
          subsetEndOffsetFrom? state.inBytes (i + 1) (bytes ++ left) := by
        cases state with
        | plain =>
            have hcomment : Text.bytes "<!--" = '<'.toUInt8 :: Text.bytes "!--" := by
              decide +kernel
            apply subsetEndOffsetFrom?_plain
            · rw [hcomment]
              exact hbegins (by decide) ..
            · exact not_or.mpr ⟨hne (by decide), hne (by decide)⟩
            · exact hne (by decide)
        | comment =>
            have hend : Text.bytes "-->" = '-'.toUInt8 :: Text.bytes "->" := by decide +kernel
            apply subsetEndOffsetFrom?_comment
            rw [hend]
            exact hbegins (by decide) ..
        | literal quote =>
            rw [SubsetState.inBytes, subsetEndOffsetFrom?, if_neg (hne (toNat_of_isQuote hstate))]
      rw [List.cons_append, hnext, ih hbytes, List.length_cons, Nat.add_assoc, Nat.add_comm 1]

theorem not_isPrefixOf_bytes {token : String} (hc : c.toNat < 128)
    (h : ¬ token.toList <+: c :: s) :
    (Text.bytes token).isPrefixOf (c.toUInt8 :: Text.bytes (String.ofList s)) = false := by
  rw [← Text.bytes_cons_ascii hc, Text.isPrefixOf_bytes, String.toList_ofList, Bool.eq_false_iff,
    ne_eq, List.isPrefixOf_iff_prefix]
  exact h

/-- What one character means to the search is told by its first byte. -/
theorem subsetEndOffsetFrom?_char {next : SubsetState} (hstate : state.IsQuoted)
    (hbeyond : 128 ≤ c.toNat → next = state)
    (hascii : c.toNat < 128 → ∀ i, subsetEndOffsetFrom? state.inBytes i
      (c.toUInt8 :: Text.bytes (String.ofList s)) =
        subsetEndOffsetFrom? next.inBytes (i + 1) (Text.bytes (String.ofList s))) (i : Nat) :
    subsetEndOffsetFrom? state.inBytes i (Text.bytes (String.ofList (c :: s))) =
      subsetEndOffsetFrom? next.inBytes (i + c.utf8Size) (Text.bytes (String.ofList s)) := by
  rw [Text.bytes_cons, ← String.length_utf8EncodeChar]
  rcases Text.utf8EncodeChar_cases c with ⟨hc, hbytes⟩ | ⟨hc, hbytes⟩
  · rw [hbytes]
    exact hascii hc i
  · rw [hbeyond hc]
    exact subsetEndOffsetFrom?_beyond hstate hbytes i

theorem subsetEndOffsetFrom?_plain_char (hcomment : ¬ "<!--".toList <+: c :: s) (hbracket : c ≠ ']')
    (i : Nat) :
    subsetEndOffsetFrom? .plain i (Text.bytes (String.ofList (c :: s))) =
      subsetEndOffsetFrom?
        (if c = '"' ∨ c = '\'' then SubsetState.literal c else SubsetState.plain).inBytes
        (i + c.utf8Size) (Text.bytes (String.ofList s)) := by
  have hplain : SubsetState.plain.IsQuoted := trivial
  refine subsetEndOffsetFrom?_char hplain (fun hbeyond => ?_) (fun hc i => ?_) i
  · rw [if_neg]
    rintro (rfl | rfl) <;> exact absurd hbeyond (by decide)
  · have hbegins := not_isPrefixOf_bytes hc hcomment
    by_cases hquote : c = '"' ∨ c = '\''
    · have hbyte : c.toUInt8 = '"'.toUInt8 ∨ c.toUInt8 = '\''.toUInt8 :=
        hquote.imp (congrArg Char.toUInt8) (congrArg Char.toUInt8)
      rw [if_pos hquote, SubsetState.inBytes, subsetEndOffsetFrom?, if_neg (by simp [hbegins]),
        if_pos hbyte]
      rfl
    · rw [if_neg hquote]
      apply subsetEndOffsetFrom?_plain hbegins
      · rwa [Text.toUInt8_eq_iff hc (by decide), Text.toUInt8_eq_iff hc (by decide)]
      · rwa [ne_eq, Text.toUInt8_eq_iff hc (by decide)]

theorem subsetEndOffsetFrom?_literal_char (hquote : Scan.isQuote quote = true) (i : Nat) :
    subsetEndOffsetFrom? (.literal quote.toUInt8) i (Text.bytes (String.ofList (c :: s))) =
      subsetEndOffsetFrom?
        (if c = quote then SubsetState.plain else SubsetState.literal quote).inBytes
        (i + c.utf8Size) (Text.bytes (String.ofList s)) := by
  have hascii := toNat_of_isQuote hquote
  have hliteral : (SubsetState.literal quote).IsQuoted := hquote
  apply subsetEndOffsetFrom?_char hliteral
  · intro hbeyond
    rw [if_neg]
    rintro rfl
    omega
  · intro hc i
    rw [SubsetState.inBytes, subsetEndOffsetFrom?]
    simp only [Text.toUInt8_eq_iff hc hascii]
    split <;> rfl

theorem subsetEndOffsetFrom?_comment_char (hend : ¬ "-->".toList <+: c :: s) (i : Nat) :
    subsetEndOffsetFrom? .comment i (Text.bytes (String.ofList (c :: s))) =
      subsetEndOffsetFrom? .comment (i + c.utf8Size) (Text.bytes (String.ofList s)) := by
  have hcomment : SubsetState.comment.IsQuoted := trivial
  have hsame : 128 ≤ c.toNat → SubsetState.comment = .comment := fun _ => rfl
  apply subsetEndOffsetFrom?_char hcomment hsame
  intro hc i
  exact subsetEndOffsetFrom?_comment (not_isPrefixOf_bytes hc hend) i

theorem subsetEndOffsetFrom?_opening (s : List Char) (i : Nat) :
    subsetEndOffsetFrom? .plain i (Text.bytes (String.ofList ("<!--".toList ++ s))) =
      subsetEndOffsetFrom? .comment (i + 4) (Text.bytes (String.ofList s)) := by
  have hbytes : Text.bytes "<!--" = [0x3C, 0x21, 0x2D, 0x2D] := by decide +kernel
  rw [String.ofList_append, String.ofList_toList, Text.bytes_append, hbytes, List.cons_append,
    subsetEndOffsetFrom?, hbytes]
  rfl

theorem subsetEndOffsetFrom?_closing (s : List Char) (i : Nat) :
    subsetEndOffsetFrom? .comment i (Text.bytes (String.ofList ("-->".toList ++ s))) =
      subsetEndOffsetFrom? .plain (i + 3) (Text.bytes (String.ofList s)) := by
  have hbytes : Text.bytes "-->" = [0x2D, 0x2D, 0x3E] := by decide +kernel
  rw [String.ofList_append, String.ofList_toList, Text.bytes_append, hbytes, List.cons_append,
    subsetEndOffsetFrom?, hbytes]
  rfl

theorem subsetEndOffsetFrom?_bracket (s : List Char) (i : Nat) :
    subsetEndOffsetFrom? .plain i (Text.bytes (String.ofList (']' :: s))) = some i := by
  have hbegins : (Text.bytes "<!--").isPrefixOf (']'.toUInt8 :: Text.bytes (String.ofList s)) =
      false := not_isPrefixOf_bytes (by decide) (by simp)
  rw [Text.bytes_cons_ascii (by decide), subsetEndOffsetFrom?, if_neg (by simp [hbegins]),
    if_neg (by decide), if_pos rfl]

/-- What is found behind a step is found with it, counted from the same place. -/
theorem subsetEndOffsetFrom?_goesOn {here there : ByteState} {k : Nat} {front left : List Char}
    {found : Option Nat} (passed : List Char)
    (hstep : subsetEndOffsetFrom? here (k + Text.byteLength front)
      (Text.bytes (String.ofList (passed ++ left))) =
        subsetEndOffsetFrom? there (k + Text.byteLength front + Text.byteLength passed)
          (Text.bytes (String.ofList left)))
    (hlater : subsetEndOffsetFrom? there (k + Text.byteLength (front ++ passed))
      (Text.bytes (String.ofList left)) =
        found.map fun n => k + offsetAt (front ++ passed ++ left) n) :
    subsetEndOffsetFrom? here (k + Text.byteLength front)
      (Text.bytes (String.ofList (passed ++ left))) =
        found.map fun n => k + offsetAt (front ++ (passed ++ left)) n := by
  rw [hstep, Nat.add_assoc, ← Text.byteLength_append, hlater, List.append_assoc]

/-- The search among the bytes and the search among the characters find the same bracket. -/
theorem subsetEndOffsetFrom?_eq (hstate : state.IsQuoted) (k : Nat) (front s : List Char) :
    subsetEndOffsetFrom? state.inBytes (k + Text.byteLength front)
      (Text.bytes (String.ofList s)) =
      (Dtd.subsetEndFrom? state front.length s).map fun n => k + offsetAt (front ++ s) n := by
  generalize hn : front.length = n
  fun_induction Dtd.subsetEndFrom? state n s generalizing front with
  | case1 n left ih =>
      have hlater := ih trivial (front ++ "-->".toList) (by simp [hn])
      exact subsetEndOffsetFrom?_goesOn "-->".toList (subsetEndOffsetFrom?_closing left _) hlater
  | case2 n left ih =>
      have hlater := ih trivial (front ++ "<!--".toList) (by simp [hn])
      exact subsetEndOffsetFrom?_goesOn "<!--".toList (subsetEndOffsetFrom?_opening left _) hlater
  | case3 n left =>
      subst hn
      rw [Option.map_some, Text.offsetAt_append_length]
      exact subsetEndOffsetFrom?_bracket left _
  | case4 n c left hcomment hbracket ih =>
      have hcomment : ¬ "<!--".toList <+: c :: left := by
        rintro ⟨left', hleft⟩
        obtain ⟨rfl, rfl⟩ : '<' = c ∧ '!' :: '-' :: '-' :: left' = left := by simpa using hleft
        exact hcomment _ rfl rfl
      have hquoted : (if c = '"' ∨ c = '\'' then SubsetState.literal c else .plain).IsQuoted := by
        split
        · next hquote => exact isQuote_iff.mpr hquote
        · trivial
      have hlater := ih hquoted (front ++ [c]) (by simp [hn])
      have hstep := subsetEndOffsetFrom?_plain_char hcomment hbracket (k + Text.byteLength front)
      exact subsetEndOffsetFrom?_goesOn [c] hstep hlater
  | case5 quote n c left ih =>
      have hquoted : (if c = quote then SubsetState.plain else .literal quote).IsQuoted := by
        split
        · trivial
        · exact hstate
      have hlater := ih hquoted (front ++ [c]) (by simp [hn])
      exact subsetEndOffsetFrom?_goesOn [c] (subsetEndOffsetFrom?_literal_char hstate _) hlater
  | case6 n c left hend ih =>
      have hend : ¬ "-->".toList <+: c :: left := by
        rintro ⟨left', hleft⟩
        obtain ⟨rfl, rfl⟩ : '-' = c ∧ '-' :: '>' :: left' = left := by simpa using hleft
        exact hend _ rfl rfl
      have hlater := ih trivial (front ++ [c]) (by simp [hn])
      exact subsetEndOffsetFrom?_goesOn [c] (subsetEndOffsetFrom?_comment_char hend _) hlater
  | case7 state n =>
      have hbytes : Text.bytes (String.ofList []) = [] := by decide +kernel
      rw [hbytes, subsetEndOffsetFrom?, Option.map_none]

end ByteScan

end XmlBounds.Dtd
