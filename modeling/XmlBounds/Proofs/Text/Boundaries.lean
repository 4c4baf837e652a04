import XmlBounds.Dtd.Cursor
import XmlBounds.Proofs.Text.Encoding

/-!
# Byte offsets of a text

A text is its UTF-8 bytes, and a part of it is cut out between two byte offsets. That is possible
where both offsets are boundaries of characters. No byte that continues a character begins one, so
what is found among the bytes is found at a boundary.
-/

namespace XmlBounds.Text

/-! ## Boundaries and cuts -/

/-- A byte offset where a character begins or the text ends. -/
def IsBoundary (text : String) (i : Nat) : Prop := String.Pos.Raw.IsValid text ⟨i⟩

instance {text : String} {i : Nat} : Decidable (IsBoundary text i) :=
  inferInstanceAs (Decidable (String.Pos.Raw.IsValid text ⟨i⟩))

/-- The part of a text between two byte offsets. There is none if they are out of order, or if one
of them is no boundary. -/
def slice? (text : String) (start stop : Nat) : Option String :=
  if h : start ≤ stop ∧ IsBoundary text start ∧ IsBoundary text stop then
    some (text.extract ⟨⟨start⟩, h.2.1⟩ ⟨⟨stop⟩, h.2.2⟩)
  else none

variable {s t u : String} {i : Nat}

theorem utf8ByteSize_ofList (s : List Char) : (String.ofList s).utf8ByteSize = byteLength s := by
  induction s with
  | nil => rfl
  | cons c s ih => simp [String.ofList_cons, ih]

theorem bytes_append (s t : String) : bytes (s ++ t) = bytes s ++ bytes t := by
  simp [bytes, String.toByteArray_append]

theorem bytes_cons (c : Char) (s : List Char) :
    bytes (String.ofList (c :: s)) = String.utf8EncodeChar c ++ bytes (String.ofList s) := by
  simp [bytes_eq]

theorem length_bytes (s : String) : (bytes s).length = s.utf8ByteSize := by
  rw [← String.size_toByteArray]
  rfl

theorem eq_of_bytes_eq (h : bytes s = bytes t) : s = t := by
  rw [← String.toByteArray_inj]
  apply ByteArray.ext
  exact Array.toList_inj.mp h

theorem isBoundary_iff : IsBoundary s i ↔ ∃ t u, s = t ++ u ∧ i = t.utf8ByteSize := by
  rw [IsBoundary, String.Pos.Raw.isValid_iff_exists_append]
  simp [String.Pos.Raw.ext_iff]

theorem IsBoundary.le (h : IsBoundary s i) : i ≤ s.utf8ByteSize := by
  obtain ⟨t, u, rfl, rfl⟩ := isBoundary_iff.mp h
  rw [String.utf8ByteSize_append]
  exact Nat.le_add_right ..

theorem isBoundary_append (s t : String) : IsBoundary (s ++ t) s.utf8ByteSize :=
  isBoundary_iff.mpr ⟨s, t, rfl, rfl⟩

theorem isBoundary_append_append (s t u : String) :
    IsBoundary (s ++ t ++ u) (s.utf8ByteSize + t.utf8ByteSize) := by
  rw [← String.utf8ByteSize_append]
  exact isBoundary_append ..

theorem slice?_append (s t u : String) :
    slice? (s ++ t ++ u) s.utf8ByteSize (s.utf8ByteSize + t.utf8ByteSize) = some t := by
  have hstart : IsBoundary (s ++ t ++ u) s.utf8ByteSize := by
    rw [String.append_assoc]
    exact isBoundary_append ..
  rw [slice?, dif_pos ⟨Nat.le_add_right .., hstart, isBoundary_append_append ..⟩]
  congr 1
  rw [← String.toByteArray_inj, String.toByteArray_extract]
  simp only [String.toByteArray_append, ← String.size_toByteArray]
  rw [ByteArray.extract_append, ByteArray.extract_append_eq_right rfl (by rfl)]
  simp

theorem exists_of_slice?_zero {stop : Nat} (h : slice? s 0 stop = some t) :
    ∃ u, s = t ++ u ∧ stop = t.utf8ByteSize := by
  have hstop : IsBoundary s stop := by
    rw [slice?] at h
    split at h
    · next hends => exact hends.2.2
    · cases h
  obtain ⟨t', u, rfl, rfl⟩ := isBoundary_iff.mp hstop
  have hfront := slice?_append "" t' u
  rw [String.empty_append, String.utf8ByteSize_empty, Nat.zero_add, h] at hfront
  cases hfront
  exact ⟨u, rfl, rfl⟩

example : slice? "café" 3 5 = some "é" ∧ slice? "café" 3 4 = none := by decide +kernel

theorem isPrefix_bytes_iff : bytes s <+: bytes t ↔ ∃ u, t = s ++ u := by
  constructor
  · rintro ⟨rest, hrest⟩
    have hbytes : t.toByteArray = s.toByteArray ++ ⟨rest.toArray⟩ := by
      apply ByteArray.ext
      apply Array.toList_inj.mp
      simpa [bytes] using hrest.symm
    -- The bytes in front are text themselves, so they end at a boundary.
    have hboundary : IsBoundary t s.utf8ByteSize := by
      refine String.Pos.Raw.isValid_iff_isValidUTF8_extract_zero.mpr ⟨?_, ?_⟩
      · rw [String.Pos.Raw.le_iff, String.byteIdx_rawEndPos, ← String.size_toByteArray,
          ← String.size_toByteArray, hbytes, ByteArray.size_append]
        exact Nat.le_add_right ..
      · rw [hbytes, ByteArray.extract_append_eq_left String.size_toByteArray.symm]
        exact s.isValidUTF8
    obtain ⟨s', u, rfl, hsize⟩ := isBoundary_iff.mp hboundary
    refine ⟨u, congrArg (· ++ u) (eq_of_bytes_eq ?_)⟩
    rw [bytes_append] at hrest
    refine (List.append_inj hrest ?_).1.symm
    rw [length_bytes, length_bytes, hsize]
  · rintro ⟨u, rfl⟩
    rw [bytes_append]
    exact List.prefix_append ..

theorem isPrefixOf_bytes (s t : String) :
    (bytes s).isPrefixOf (bytes t) = s.toList.isPrefixOf t.toList := by
  rw [Bool.eq_iff_iff, List.isPrefixOf_iff_prefix, List.isPrefixOf_iff_prefix, isPrefix_bytes_iff]
  constructor
  · rintro ⟨u, rfl⟩
    rw [String.toList_append]
    exact List.prefix_append ..
  · rintro ⟨rest, hrest⟩
    refine ⟨String.ofList rest, ?_⟩
    rw [← String.toList_inj, String.toList_append, String.toList_ofList, hrest]

/-! ## ASCII -/

theorem utf8EncodeChar_cases (c : Char) :
    (c.toNat < 128 ∧ String.utf8EncodeChar c = [c.toUInt8]) ∨
      (128 ≤ c.toNat ∧ ∀ b ∈ String.utf8EncodeChar c, 128 ≤ b.toNat) := by
  have hvalue : c.val.toNat = c.toNat := rfl
  unfold String.utf8EncodeChar
  dsimp only
  rw [hvalue]
  split
  · exact .inl ⟨by omega, rfl⟩
  · refine .inr ⟨by omega, ?_⟩
    split
    · simp
      omega
    · split
      · simp
        omega
      · simp
        omega

theorem utf8Size_of_ascii {c : Char} (hc : c.toNat < 128) : c.utf8Size = 1 := by
  rw [Char.utf8Size_eq_one_iff, UInt32.le_iff_toNat_le]
  exact Nat.le_of_lt_succ hc

theorem bytes_cons_ascii {c : Char} (hc : c.toNat < 128) (s : List Char) :
    bytes (String.ofList (c :: s)) = c.toUInt8 :: bytes (String.ofList s) := by
  rcases utf8EncodeChar_cases c with ⟨-, hbytes⟩ | ⟨hbeyond, -⟩
  · rw [bytes_cons, hbytes, List.singleton_append]
  · omega

theorem toUInt8_eq_iff {c d : Char} (hc : c.toNat < 128) (hd : d.toNat < 128) :
    c.toUInt8 = d.toUInt8 ↔ c = d := by
  constructor
  · intro h
    apply Char.toNat_inj.mp
    have h := congrArg UInt8.toNat h
    have hvalue (e : Char) : e.toUInt8.toNat = e.toNat % 256 := rfl
    rw [hvalue, hvalue] at h
    omega
  · rintro rfl
    rfl

/-! ## Searches -/

/-- The byte offset of the character of an index. -/
def offsetAt (text : List Char) (n : Nat) : Nat := byteLength (text.take n)

theorem offsetAt_append_length (s t : List Char) : offsetAt (s ++ t) s.length = byteLength s := by
  simp [offsetAt]

/-- Where a pattern of bytes first stands, counted from `i`. -/
def byteIndexFrom? (pattern : List UInt8) (i : Nat) : List UInt8 → Option Nat
  | [] => if pattern = [] then some i else none
  | b :: rest =>
      if pattern.isPrefixOf (b :: rest) then some i else byteIndexFrom? pattern (i + 1) rest

/-- The byte offset at which a pattern first stands in a text. -/
def offsetOf? (pattern text : String) : Option Nat := byteIndexFrom? (bytes pattern) 0 (bytes text)

theorem byteIndexFrom?_continuing {b : UInt8} {pattern rest left : List UInt8}
    (hb : b &&& 0xC0 ≠ 0x80) (hrest : ∀ b' ∈ rest, b' &&& 0xC0 = 0x80) (i : Nat) :
    byteIndexFrom? (b :: pattern) i (rest ++ left) =
      byteIndexFrom? (b :: pattern) (i + rest.length) left := by
  induction rest generalizing i with
  | nil => rfl
  | cons b' rest ih =>
      obtain ⟨hb', hrest⟩ := List.forall_mem_cons.mp hrest
      have hne : (b == b') = false := by
        rw [beq_eq_false_iff_ne]
        rintro rfl
        exact hb hb'
      rw [List.cons_append, byteIndexFrom?, List.isPrefixOf, hne, Bool.false_and, if_neg (by simp),
        ih hrest, List.length_cons, Nat.add_assoc, Nat.add_comm 1]

/-- The search among the bytes and the search among the characters find the same place. -/
theorem byteIndexFrom?_eq {pattern : String} (hne : pattern ≠ "") (front s : List Char) :
    byteIndexFrom? (bytes pattern) (byteLength front) (bytes (String.ofList s)) =
      (Dtd.Scan.indexFrom? pattern.toList front.length s).map (offsetAt (front ++ s)) := by
  obtain ⟨d, pattern', hpattern⟩ := List.exists_cons_of_ne_nil (mt String.toList_eq_nil_iff.mp hne)
  obtain ⟨first, others, hencodes, hchar⟩ := exists_encodesChar d
  have hbytes : bytes pattern = first :: (others ++ bytes (String.ofList pattern')) := by
    rw [← String.ofList_toList (s := pattern), hpattern, bytes_cons, hencodes, List.cons_append]
  induction s generalizing front with
  | nil => simp [hbytes, hpattern, bytes_eq, byteIndexFrom?, Dtd.Scan.indexFrom?]
  | cons c s ih =>
      have hhere := isPrefixOf_bytes pattern (String.ofList (c :: s))
      have hlater := ih (front ++ [c])
      rw [String.toList_ofList] at hhere
      obtain ⟨b, rest, hc, hcont⟩ := exists_encodesChar c
      rw [bytes_cons, hc, List.cons_append] at hhere ⊢
      rw [Dtd.Scan.indexFrom?, byteIndexFrom?, hhere]
      split
      · simp [offsetAt_append_length]
      · have hsize : c.utf8Size = rest.length + 1 := by
          rw [← String.length_utf8EncodeChar, hc, List.length_cons]
        rw [hbytes, byteIndexFrom?_continuing hchar.begins hcont.continues, ← hbytes]
        simpa [hsize, Nat.add_comm, Nat.add_left_comm, Nat.add_assoc] using hlater

theorem offsetOf?_eq {pattern : String} (hne : pattern ≠ "") (s : List Char) :
    offsetOf? pattern (String.ofList s) =
      (Dtd.Scan.indexFrom? pattern.toList 0 s).map (offsetAt s) := byteIndexFrom?_eq hne [] s

end XmlBounds.Text
