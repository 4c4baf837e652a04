import XmlBounds.Entity.Stream

/-!
# Characters in bytes

The first byte of a character begins it, and at most three more continue it. So a text measures as
many characters as it has, and no beginning of it holds more than four bytes for each of them.
-/

namespace XmlBounds

theorem and_eq_continuing_iff {n : Nat} (hn : n < 256) :
    UInt8.ofNat n &&& 0xC0 = 0x80 ↔ 128 ≤ n ∧ n < 192 := by
  revert n
  decide +kernel

namespace StreamUnit

theorem measure_chars_cons (b : UInt8) (s : List UInt8) :
    chars.measure (b :: s) = (if b &&& 0xC0 = 0x80 then 0 else 1) + chars.measure s := by
  by_cases hb : b &&& 0xC0 = 0x80 <;> simp [measure, hb, Nat.add_comm]

theorem measure_chars_eq_zero {s : List UInt8} (h : ∀ b ∈ s, b &&& 0xC0 = 0x80) :
    chars.measure s = 0 := by
  induction s with
  | nil => rfl
  | cons b s ih =>
      rw [measure_chars_cons, if_pos (h b List.mem_cons_self), Nat.zero_add]
      exact ih fun b' hb' => h b' (List.mem_cons_of_mem b hb')

end StreamUnit

open StreamUnit

/-- The bytes of a character: one that begins it, and those that continue it. -/
structure EncodesChar (b : UInt8) (rest : List UInt8) : Prop where
  begins : b &&& 0xC0 ≠ 0x80
  continues : ∀ b' ∈ rest, b' &&& 0xC0 = 0x80
  length_le : rest.length ≤ 3

theorem begins_of_outside {n : Nat} (hn : n < 256) (hout : n < 128 ∨ 192 ≤ n) :
    UInt8.ofNat n &&& 0xC0 ≠ 0x80 := by
  rw [ne_eq, and_eq_continuing_iff hn]
  omega

theorem continues_of_low (n : Nat) : UInt8.ofNat (n % 64 + 128) &&& 0xC0 = 0x80 := by
  apply (and_eq_continuing_iff (by omega)).mpr
  omega

theorem exists_encodesChar (c : Char) :
    ∃ b rest, String.utf8EncodeChar c = b :: rest ∧ EncodesChar b rest := by
  have hnone : ∀ b' ∈ ([] : List UInt8), b' &&& 0xC0 = 0x80 := fun _ h => absurd h List.not_mem_nil
  have hmore (n : Nat) {s : List UInt8} (h : ∀ b' ∈ s, b' &&& 0xC0 = 0x80) :
      ∀ b' ∈ UInt8.ofNat (n % 64 + 128) :: s, b' &&& 0xC0 = 0x80 :=
    List.forall_mem_cons.mpr ⟨continues_of_low n, h⟩
  unfold String.utf8EncodeChar
  dsimp only
  split
  · exact ⟨_, _, rfl, begins_of_outside (by omega) (by omega), hnone, Nat.zero_le 3⟩
  · split
    · exact ⟨_, _, rfl, begins_of_outside (by omega) (by omega), hmore _ hnone, by simp⟩
    · split
      · exact ⟨_, _, rfl, begins_of_outside (by omega) (by omega), hmore _ (hmore _ hnone),
          by simp⟩
      · exact ⟨_, _, rfl, begins_of_outside (by omega) (by omega),
          hmore _ (hmore _ (hmore _ hnone)), by simp⟩

theorem measure_utf8EncodeChar (c : Char) : chars.measure (String.utf8EncodeChar c) = 1 := by
  obtain ⟨b, rest, hbytes, hencodes⟩ := exists_encodesChar c
  rw [hbytes, measure_chars_cons, if_neg hencodes.begins, measure_chars_eq_zero hencodes.continues]

namespace Text

theorem bytes_eq (text : String) : bytes text = text.toList.flatMap String.utf8EncodeChar := by
  unfold bytes
  rw [← String.utf8Encode_toList, List.utf8Encode, List.data_toByteArray]

theorem eq_bytes_of_decodeUtf8 {content : List UInt8} {text : String}
    (h : decodeUtf8 content = .ok text) : content = bytes text := by
  unfold decodeUtf8 at h
  split at h
  · next read hread =>
      cases h
      unfold String.fromUTF8? at hread
      split at hread
      · cases hread
        rfl
      · cases hread
  · cases h

theorem measure_bytes (text : String) : chars.measure (bytes text) = text.length := by
  rw [bytes_eq, ← String.length_toList]
  induction text.toList with
  | nil => rfl
  | cons c s ih =>
      rw [List.flatMap_cons, measure_append, ih, measure_utf8EncodeChar, List.length_cons,
        Nat.add_comm]

end Text

/-- No beginning of the bytes holds more than three that continue a character for each other. -/
def IsDense (content : List UInt8) : Prop :=
  ∀ p, p <+: content → p.length ≤ 4 * chars.measure p

theorem isDense_nil : IsDense [] := by
  intro p hp
  simp [List.prefix_nil.mp hp]

/-- A beginning stops inside the character, or has all of it. -/
theorem IsDense.char {b : UInt8} {rest s : List UInt8} (hchar : EncodesChar b rest)
    (hs : IsDense s) : IsDense (b :: (rest ++ s)) := by
  intro p hp
  cases p with
  | nil => exact Nat.zero_le _
  | cons b' p =>
      obtain ⟨rfl, htail⟩ := List.cons_prefix_cons.mp hp
      have hlength := hchar.length_le
      rw [measure_chars_cons, if_neg hchar.begins, List.length_cons]
      rcases List.prefix_or_prefix_of_prefix htail (List.prefix_append rest s) with hinside | hall
      · have hinside := hinside.length_le
        omega
      · obtain ⟨q, rfl⟩ := hall
        have hq := hs q ((List.prefix_append_right_inj rest).mp htail)
        rw [measure_append, List.length_append]
        omega

theorem isDense_bytes (text : String) : IsDense (Text.bytes text) := by
  rw [Text.bytes_eq]
  induction text.toList with
  | nil => exact isDense_nil
  | cons c s ih =>
      obtain ⟨b, rest, hbytes, hchar⟩ := exists_encodesChar c
      rw [List.flatMap_cons, hbytes, List.cons_append]
      exact IsDense.char hchar ih

end XmlBounds
