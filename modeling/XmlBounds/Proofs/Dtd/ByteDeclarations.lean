import XmlBounds.Proofs.Dtd.ByteReaders
import XmlBounds.Proofs.Dtd.Expansion

/-!
# Declarations at byte offsets

The readers of declarations are built alike at byte offsets and among characters, and so each
retraces its counterpart. Character references are found as pairs of offsets, and the text is
expanded from one pair to the next.
-/

namespace XmlBounds.Dtd.ByteScan

variable {α : Type} {s : List Char}

/-! ## Declarations -/

theorem retraces_externalId (systemIsOptional : Bool) :
    Retraces (externalId systemIsOptional) (Scan.externalId systemIsOptional) := by
  refine (retraces_eat _).bind fun _ => .ite ?_ ((retraces_eat _).bind fun _ => .ite ?_ ?_)
  · exact retraces_requireSpace.bind fun _ => retraces_literal.bind fun _ => .pure _
  · refine retraces_requireSpace.bind fun _ => retraces_literal.bind fun _ => ?_
    refine (retraces_afterSpace retraces_atQuote).bind fun _ => .ite ?_ (.ite (.pure _) ?_)
    · exact retraces_literal.bind fun _ => .pure _
    · exact retraces_fail _
  · exact retraces_fail _

theorem retraces_close : Retraces close Scan.close :=
  retraces_space.bind fun _ => retraces_expect _

theorem eat_bind (token : String) (x y : ByteScan α) :
    (do if ← eat token then x else y) = (do
      if ← at? token then
        forward token.utf8ByteSize
        x
      else y) := by
  unfold eat
  rw [bind_assoc]
  congr 1
  funext found
  cases found <;> simp

theorem retraces_entityName : Retraces entityName Scan.entityName := by
  refine retraces_requireSpace.bind fun _ => ?_
  have hsplit := eat_bind "%" (do requireSpace; return parameterName (← name)) name
  have hone : "%".utf8ByteSize = 1 := rfl
  rw [hone] at hsplit
  rw [← hsplit]
  refine (retraces_eat _).bind fun _ => .ite ?_ retraces_name
  exact retraces_requireSpace.bind fun _ => retraces_name.bind fun _ => .pure _

theorem retraces_externalEntity (base : Option String) (entity : String) :
    Retraces (externalEntity base entity) (Scan.externalEntity base entity) := by
  refine (retraces_externalId _).bind ?_
  rintro ⟨publicId, systemId⟩
  refine (retraces_afterSpace (retraces_eat _)).bind fun _ => .ite (.ite (retraces_fail _) ?_) ?_
  · refine retraces_requireSpace.bind fun _ => retraces_name.bind fun _ => ?_
    exact retraces_close.bind fun _ => .pure _
  · exact (retraces_expect _).bind fun _ => .pure _

theorem retraces_element : Retraces element Scan.element :=
  retraces_requireSpace.bind fun _ => retraces_name.bind fun _ =>
    retraces_upToClose.bind fun _ => .pure _

theorem retraces_attlist : Retraces attlist Scan.attlist :=
  retraces_requireSpace.bind fun _ => retraces_name.bind fun _ =>
    retraces_upToClose.bind fun _ => .pure _

theorem retraces_notationDecl : Retraces notationDecl Scan.notationDecl := by
  refine retraces_requireSpace.bind fun _ => retraces_name.bind fun _ => ?_
  refine retraces_space.bind fun _ => (retraces_externalId _).bind ?_
  rintro ⟨publicId, systemId⟩
  exact retraces_close.bind fun _ => .pure _

theorem retraces_parameterReference : Retraces parameterReference Scan.parameterReference :=
  retraces_name.bind fun _ => (retraces_expect _).bind fun _ => .pure _

theorem retraces_single {x : ByteScan Event} {y : Scan Event} (depth : Nat) (h : Retraces x y) :
    Retraces (single depth x) (Scan.single depth y) := h.bind fun _ => .pure _

theorem retraces_sectionEnd (depth : Nat) : Retraces (sectionEnd depth) (Scan.sectionEnd depth) :=
  .ite (retraces_fail _) (.pure _)

theorem retraces_comment :
    Retraces (Event.comment <$> upTo "-->") (Event.comment <$> Scan.upTo "-->") := by
  rw [map_eq_pure_bind, map_eq_pure_bind]
  exact (retraces_upTo (by decide)).bind fun _ => .pure _

theorem retraces_instruction : Retraces instruction Scan.instruction := by
  refine (retraces_upTo (by decide)).bind fun body s => ?_
  have hsplit : body.toList.takeWhile (!Text.isBlank ·) ++
      body.toList.dropWhile (!Text.isBlank ·) = body.toList := List.takeWhile_append_dropWhile
  dsimp only
  generalize body.toList.takeWhile (!Text.isBlank ·) = target at hsplit ⊢
  cases hrest : body.toList.dropWhile (!Text.isBlank ·) with
  | nil =>
      rw [hrest, List.append_nil] at hsplit
      rw [hsplit, String.ofList_toList]
      exact .pure _
  | cons blank data =>
      rw [hrest] at hsplit
      apply retracesOn_cut [] target (blank :: data) hsplit.symm rfl rfl
      refine retracesOn_cut (target ++ [blank]) data [] ?_ ?_ ?_ ?_
      · simpa using hsplit.symm
      · simp
      · rw [utf8ByteSize_eq, ← hsplit]
        simp
      · rw [Text.trimmed, String.toList_ofList]
        exact .pure _

/-! ## Character references -/

/-- A reference that is read is written with its number, and its digits tell the number. -/
theorem reference_of_charNumber? {rest left : List Char} {n : CharNumber}
    (h : charNumber? rest = some (n, left)) :
    ∃ digits, n.reference = ['&', '#'] ++ digits ++ [';'] ∧ charNumber digits = n ∧
      '&' :: '#' :: rest = n.reference ++ left := by
  unfold charNumber? at h
  split at h
  · next rest =>
      obtain ⟨⟨digits, left'⟩, hdigits, hresult⟩ := Option.map_eq_some_iff.mp h
      cases hresult
      obtain ⟨-, -, rfl⟩ := exists_of_digitsUpToSemicolon? hdigits
      exact ⟨'x' :: digits, by simp [CharNumber.reference], rfl, by simp [CharNumber.reference]⟩
  · obtain ⟨⟨digits, left'⟩, hdigits, hresult⟩ := Option.map_eq_some_iff.mp h
    cases hresult
    obtain ⟨hne, hdecimal, rfl⟩ := exists_of_digitsUpToSemicolon? hdigits
    refine ⟨digits, by simp [CharNumber.reference], ?_, by simp [CharNumber.reference]⟩
    cases digits with
    | nil => exact absurd rfl hne
    | cons d digits =>
        rw [charNumber]
        rintro _ ⟨⟩
        exact absurd (hdecimal 'x' List.mem_cons_self) (by decide)

section

variable {rest left : List Char} {n : CharNumber}

theorem charRefsFrom_number (h : charNumber? rest = some (n, left)) (i : Nat) :
    charRefsFrom i ('&' :: '#' :: rest) =
      (i, i + Text.byteLength n.reference) ::
        charRefsFrom (i + Text.byteLength n.reference) left := by
  rw [charRefsFrom]
  split
  · next hsame =>
      cases h.symm.trans hsame
      rfl
  · next hnone => cases h.symm.trans hnone

theorem expandChars_number (h : charNumber? rest = some (n, left)) :
    expandChars ('&' :: '#' :: rest) =
      n.char.bind fun c => (expandChars left).map ([c] ++ ·) := by
  rw [expandChars]
  split
  · next hsame =>
      cases h.symm.trans hsame
      rfl
  · next hnone => cases h.symm.trans hnone

theorem charRefsFrom_ampersand (h : charNumber? rest = none) (i : Nat) :
    charRefsFrom i ('&' :: '#' :: rest) = charRefsFrom (i + 1) ('#' :: rest) := by
  rw [charRefsFrom]
  split
  · next hsome => cases h.symm.trans hsome
  · rfl

theorem expandChars_ampersand (h : charNumber? rest = none) :
    expandChars ('&' :: '#' :: rest) = (expandChars ('#' :: rest)).map (['&'] ++ ·) := by
  rw [expandChars]
  split
  · next hsome => cases h.symm.trans hsome
  · rfl

end

/-- Expands a part of a literal behind what is expanded already. -/
def expanding (expanded left : List Char) : Scan String := fun c =>
  (expandChars left).map fun chars => (String.ofList (expanded ++ chars), c)

theorem expanding_nil (expanded : List Char) :
    expanding expanded [] = pure (String.ofList expanded) := by
  funext c
  rw [expanding, expandChars, Except.map, List.append_nil]
  rfl

theorem expanding_append {front left left' : List Char} (expanded : List Char)
    (h : expandChars left = (expandChars left').map (front ++ ·)) :
    expanding expanded left = expanding (expanded ++ front) left' := by
  funext c
  rw [expanding, expanding, h]
  cases expandChars left' with
  | error fault => rfl
  | ok chars => simp [Except.map]

/-- The references from a place on are replaced as they are among the characters. The text is
expanded up to the end of `passed`, and there is no reference in `kept`. -/
theorem retracesOn_replaceRefs {literal : String} {left : List Char}
    (expanded passed kept : List Char) (hliteral : literal.toList = passed ++ kept ++ left) :
    RetracesOn s
      (replaceRefs literal (String.ofList expanded) (Text.byteLength passed)
        (charRefsFrom (Text.byteLength (passed ++ kept)) left))
      (expanding (expanded ++ kept) left) := by
  fun_induction expandChars left generalizing expanded passed kept with
  | case1 =>
      rw [charRefsFrom, replaceRefs, expanding_nil]
      refine retracesOn_cut passed kept [] hliteral rfl ?_ ?_
      · rw [utf8ByteSize_eq, hliteral, List.append_nil]
      · rw [← String.ofList_append]
        exact .pure _
  | case2 rest n rest' hnumber ih =>
      obtain ⟨digits, hreference, hdigits, happend⟩ := reference_of_charNumber? hnumber
      have hstop : Text.byteLength (passed ++ kept ++ n.reference) - 1 =
          Text.byteLength (passed ++ kept ++ ['&', '#'] ++ digits) := by
        rw [hreference, ← List.append_assoc, ← List.append_assoc, Text.byteLength_append _ [';']]
        rfl
      rw [happend, ← List.append_assoc] at hliteral
      -- The digits are cut out first, and the text in front only if they are a character.
      rw [charRefsFrom_number hnumber, replaceRefs, ← Text.byteLength_append _ n.reference]
      refine retracesOn_cut (passed ++ kept ++ ['&', '#']) digits (';' :: rest') ?_ ?_ hstop ?_
      · rw [hliteral, hreference]
        simp only [List.append_assoc, List.singleton_append]
      · exact (Text.byteLength_append _ ['&', '#']).symm
      rw [String.toList_ofList, hdigits]
      cases hchar : n.char with
      | error fault =>
          intro text t c hs h
          rw [expanding, expandChars_number hnumber, hchar]
          exact .fault h.sound
      | ok char =>
          have hexpand := expandChars_number hnumber
          rw [hchar] at hexpand
          rw [expanding_append _ hexpand]
          apply retracesOn_cut passed kept (n.reference ++ rest')
            (by rw [hliteral, List.append_assoc]) rfl rfl
          rw [String.singleton_eq_ofList, ← String.ofList_append, ← String.ofList_append]
          have hnext := ih (expanded ++ kept ++ [char]) (passed ++ kept ++ n.reference) []
            (by rw [List.append_nil, hliteral])
          rw [List.append_nil, List.append_nil] at hnext
          exact hnext
  | case3 rest hnumber ih =>
      -- This ampersand begins no reference, so it is kept.
      rw [charRefsFrom_ampersand hnumber, expanding_append _ (expandChars_ampersand hnumber),
        List.append_assoc]
      have hnext := ih expanded passed (kept ++ ['&']) (by rw [hliteral]; simp)
      rw [← List.append_assoc passed, Text.byteLength_append _ ['&']] at hnext
      exact hnext
  | case4 c rest hc ih =>
      have hexpand : expandChars (c :: rest) = (expandChars rest).map ([c] ++ ·) := by
        rw [expandChars]
        · rfl
        · exact hc
      have hnext := ih expanded passed (kept ++ [c]) (by rw [hliteral]; simp)
      rw [← List.append_assoc passed, Text.byteLength_append _ [c]] at hnext
      rw [expanding_append _ hexpand, List.append_assoc, charRefsFrom]
      · exact hnext
      · exact hc

theorem retraces_replacement (literal : String) :
    Retraces (replacement literal) (Scan.replacement literal) := by
  intro s
  refine (retracesOn_replaceRefs [] [] [] (List.nil_append _).symm).congr fun c => ?_
  rw [Scan.replacement, expandCharRefs, expanding]
  cases expandChars literal.toList <;> rfl

theorem retraces_entity (base : Option String) : Retraces (entity base) (Scan.entity base) := by
  refine retraces_entityName.bind fun _ => retraces_requireSpace.bind fun _ => ?_
  refine retraces_atQuote.bind fun _ => .ite ?_ (retraces_externalEntity _ _)
  refine retraces_literal.bind fun _ => retraces_close.bind fun _ => ?_
  exact (retraces_replacement _).bind fun _ => .pure _

end XmlBounds.Dtd.ByteScan
