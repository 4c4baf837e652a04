import XmlBounds.Proofs.Check.Occurrences
import XmlBounds.Proofs.Text.Spans

/-!
# References to characters

A character can be spelled as a reference to it. Where references are expanded, one to a character
is passed over; but what is spelled with it is no number.
-/

namespace XmlBounds

namespace Dtd

/-- A spelling of a character as a reference to it, with digits that are decimal or hexadecimal. -/
inductive IsReferenceTo (c : Char) : List Char → Prop where
  | mk {n : CharNumber} : n.radix = 10 ∨ n.radix = 16 → n.digits ≠ [] → n.char = .ok c →
      IsReferenceTo c n.reference

theorem digits_of_readDigits {radix bound acc n : Nat} {beyond : Text.IntegerFault}
    {s : List Char} (h : Text.readDigits radix bound beyond acc s = .ok n) :
    ∀ d ∈ s, (Text.digit? radix d).isSome = true := by
  induction s generalizing acc with
  | nil => simp
  | cons c s ih =>
      rw [Text.readDigits] at h
      split at h
      · cases h
      · next d hd =>
          split at h
          · cases h
          · exact List.forall_mem_cons.mpr ⟨by rw [hd]; rfl, ih h⟩

theorem digits_of_char {n : CharNumber} {c : Char} (h : n.char = .ok c) :
    ∀ d ∈ n.digits, (Text.digit? n.radix d).isSome = true := by
  unfold CharNumber.char at h
  split at h
  · cases h
  · next hdigits => exact digits_of_readDigits hdigits

theorem notMem_digits {n : CharNumber} {c d : Char} (hradix : n.radix = 10 ∨ n.radix = 16)
    (hchar : n.char = .ok c) (h10 : Text.digit? 10 d = none) (h16 : Text.digit? 16 d = none) :
    d ∉ n.digits := by
  intro hmem
  have hsome := digits_of_char hchar d hmem
  rcases hradix with hradix | hradix
  · rw [hradix, h10] at hsome
    cases hsome
  · rw [hradix, h16] at hsome
    cases hsome

/-- What is no digit, nor belongs to every reference, is not in a reference. -/
theorem IsReferenceTo.not_mem {c d : Char} {spelling : List Char} (h : IsReferenceTo c spelling)
    (hd : d ∉ ['&', '#', 'x', ';']) (h10 : Text.digit? 10 d = none)
    (h16 : Text.digit? 16 d = none) : d ∉ spelling := by
  cases h with
  | @mk n hradix _ hchar =>
      have hdigits := notMem_digits hradix hchar h10 h16
      simp only [List.mem_cons, List.not_mem_nil, or_false, not_or] at hd
      unfold CharNumber.reference
      split
      · simp [hd, hdigits]
      · simp [hd, hdigits]

end Dtd

/-! ## References in values -/

namespace Dtd.IsReferenceTo

variable {c : Char} {spelling : List Char}

theorem ampersand_mem (h : IsReferenceTo c spelling) : '&' ∈ spelling := by
  cases h
  simp [CharNumber.reference]

/-- A reference is closed where its first semicolon is. -/
theorem exists_name (h : IsReferenceTo c spelling) : ∃ name, ';' ∉ name ∧
    isBuiltIn (String.ofList name) = true ∧ spelling = '&' :: name ++ [';'] := by
  cases h with
  | @mk n hradix _ hchar =>
      have hdigits : ';' ∉ n.digits := notMem_digits hradix hchar (by decide) (by decide)
      refine ⟨'#' :: (if n.radix = 16 then ['x'] else []) ++ n.digits, ?_, ?_, ?_⟩
      · split
        · simp [hdigits]
        · simp [hdigits]
      · simp [isBuiltIn]
      · simp [CharNumber.reference]

end Dtd.IsReferenceTo

theorem referencesFrom_append (text : String) {s : List Char} (h : '&' ∉ s) (t : List Char) :
    referencesFrom text (s ++ t) = referencesFrom text t := by
  induction s with
  | nil => rfl
  | cons c s ih =>
      rw [List.mem_cons, not_or] at h
      rw [List.cons_append, referencesFrom]
      · exact ih h.2
      · exact fun heq => h.1 heq.symm

theorem referencesFrom_named (text : String) {name : List Char} (h : ';' ∉ name) (t : List Char) :
    referencesFrom text ('&' :: name ++ ';' :: t) =
      .named (String.ofList name) :: referencesFrom text t := by
  have hname : ∀ d ∈ name, (d != ';') = true := by
    intro d hd
    rw [bne_iff_ne]
    rintro rfl
    exact h hd
  have hstop : ∀ d ∈ (';' :: t).head?, (d != ';') = false := by simp
  have htake := Text.takeWhile_append_stop hname hstop
  have hdrop := Text.dropWhile_append_stop hname hstop
  rw [List.cons_append, referencesFrom]
  split
  · next hnone =>
      rw [hdrop] at hnone
      cases hnone
  · next hsome =>
      rw [hdrop] at hsome
      cases hsome
      rw [htake]

namespace Checked

variable {ctx : CheckContext}

/-- A reference to a character is passed over where references are expanded. -/
theorem expandText_of_isReferenceTo {c : Char} {spelling left right : List Char}
    (h : Dtd.IsReferenceTo c spelling) (hleft : '&' ∉ left) (hright : '&' ∉ right) (p : Pass) :
    expandText ctx (String.ofList (left ++ (spelling ++ right))) p = .ok () p := by
  obtain ⟨name, hname, hbuiltIn, rfl⟩ := h.exists_name
  have hreferences (text : String) :
      referencesFrom text (left ++ ('&' :: name ++ [';'] ++ right)) =
        [.named (String.ofList name)] := by
    rw [referencesFrom_append text hleft, List.append_assoc, List.singleton_append,
      referencesFrom_named text hname, referencesFrom_eq_nil text hright]
  rw [expandText, bind_get, references, String.toList_ofList, hreferences, expandAll,
    if_pos hbuiltIn, expandAll]
  rfl

end Checked

/-! ## What is no number -/

theorem Text.not_ok_readNat {bound n : Nat} {s : List Char} (h : '&' ∈ s) :
    Text.readNat 10 bound s ≠ .ok n := by
  have hdigits {t : List Char} (ht : '&' ∈ t) :
      Text.readDigits 10 bound .tooLarge 0 t ≠ .ok n := by
    intro hok
    have hsome := Dtd.digits_of_readDigits hok '&' ht
    cases hsome
  unfold Text.readNat
  split
  · cases h
  · simp
  · exact hdigits (by simpa using h)
  · exact hdigits h

theorem Text.mem_trimmed {c : Char} {value : String} (hc : isBlank c = false)
    (h : c ∈ value.toList) : c ∈ (trimmed value).toList := by
  rw [trimmed, String.toList_ofList]
  exact mem_trim hc h

theorem Policy.checkOccursText_of_ampersand {policy : Policy} {value : String}
    (h : '&' ∈ value.toList) : policy.checkOccursText value = none := by
  unfold checkOccursText
  split
  · rfl
  · split
    · next hok => exact absurd hok (Text.not_ok_readNat h)
    · rfl

end XmlBounds
