import XmlBounds.Message
import XmlBounds.Proofs.Text.Numerals
import XmlBounds.Proofs.Text.Spans

/-!
# Templates

A template is cut into holes for arguments and the characters between them, in one way only. It is
filled piece by piece, so the arguments have no say in where the holes are.
-/

namespace XmlBounds.Message

/-- A piece of a template. -/
inductive Piece where
  | char (c : Char)
  /-- A hole for an argument, with the digits in which its number is written. -/
  | hole (i : Nat) (digits : List Char)
  deriving DecidableEq, Repr

namespace Piece

def written : Piece → List Char
  | char c => [c]
  | hole _ digits => '\x7b' :: digits ++ ['\x7d']

/-- The piece with its argument put in. A hole without one stays as it is written. -/
def filled (args : List String) : Piece → List Char
  | char c => [c]
  | hole i digits =>
      match args[i]? with
      | some arg => arg.toList
      | none => written (hole i digits)

end Piece

/-- The template consists of the pieces. Whatever is written like a hole is one. -/
inductive Cuts : List Char → List Piece → Prop where
  | nil : Cuts [] []
  | hole {i : Nat} {digits s : List Char} {pieces : List Piece} : Text.Denotes digits i →
      Cuts s pieces → Cuts ((Piece.hole i digits).written ++ s) (.hole i digits :: pieces)
  | char {c : Char} {s : List Char} {pieces : List Piece} :
      (∀ i digits, Text.Denotes digits i → ¬ (Piece.hole i digits).written <+: c :: s) →
      Cuts s pieces → Cuts (c :: s) (.char c :: pieces)

variable {i : Nat} {c : Char} {digits s : List Char} {pieces : List Piece} {args : List String}

/-! ## Holes -/

theorem index?_eq_some_iff : index? digits = some i ↔ Text.Denotes digits i := by
  unfold index?
  constructor
  · intro h
    split at h
    · next hdigits =>
        refine ⟨hdigits.1, List.all_eq_true.mp hdigits.2, ?_⟩
        rw [Nat.ofDigitChars_eq_foldl]
        exact Option.some.inj h
    · cases h
  · rintro ⟨hne, hdigits, rfl⟩
    rw [if_pos ⟨hne, List.all_eq_true.mpr hdigits⟩, Nat.ofDigitChars_eq_foldl]

theorem ne_brace_of_denotes (h : Text.Denotes digits i) :
    ∀ d ∈ digits, (d != '\x7d') = true ∧ d ≠ '\x7b' := by
  intro d hd
  have hdigit := h.digits d hd
  constructor
  · rw [bne_iff_ne]
    rintro rfl
    cases hdigit
  · rintro rfl
    cases hdigit

theorem placeholder?_hole (h : Text.Denotes digits i) (args : List String) (s : List Char) :
    placeholder? args (digits ++ '\x7d' :: s) = args[i]?.map (·, s) := by
  have hdigits : ∀ d ∈ digits, (d != '\x7d') = true := fun d hd => (ne_brace_of_denotes h d hd).1
  have hstop : ∀ d ∈ ('\x7d' :: s).head?, (d != '\x7d') = false := by simp
  unfold placeholder?
  rw [Text.dropWhile_append_stop hdigits hstop, Text.takeWhile_append_stop hdigits hstop,
    index?_eq_some_iff.mpr h]
  cases hi : args[i]? with
  | some arg => simp [hi]
  | none => simp [hi]

theorem written_append (i : Nat) (digits s : List Char) :
    (Piece.hole i digits).written ++ s = '\x7b' :: (digits ++ '\x7d' :: s) := by
  simp [Piece.written]

theorem placeholder?_eq_none
    (h : ∀ i digits, Text.Denotes digits i → ¬ (Piece.hole i digits).written <+: '\x7b' :: s)
    (args : List String) : placeholder? args s = none := by
  unfold placeholder?
  split
  · rfl
  · next c rest hrest =>
      split
      · next arg harg =>
          obtain ⟨i, hi, _⟩ := Option.bind_eq_some_iff.mp harg
          have hc : c = '\x7d' := by simpa using Text.not_of_dropWhile_eq_cons hrest
          refine absurd ⟨rest, ?_⟩ (h i _ (index?_eq_some_iff.mp hi))
          have hsplit : s.takeWhile (· != '\x7d') ++ c :: rest = s := by
            rw [← hrest, List.takeWhile_append_dropWhile]
          rw [hc] at hsplit
          simp [Piece.written, hsplit]
      · rfl

/-! ## Filling -/

theorem fill_append (h : '\x7b' ∉ digits) (args : List String) (s : List Char) :
    fill args (digits ++ s) = digits ++ fill args s := by
  induction digits with
  | nil => rfl
  | cons d digits ih =>
      rw [List.mem_cons, not_or] at h
      rw [List.cons_append, fill]
      · rw [ih h.2, List.cons_append]
      · exact fun heq => h.1 heq.symm

/-- A template is filled piece by piece. -/
theorem fill_eq (h : Cuts s pieces) (args : List String) :
    fill args s = pieces.flatMap (Piece.filled args) := by
  induction h with
  | nil => rw [fill, List.flatMap_nil]
  | @hole i digits s pieces hdigits _ ih =>
      rw [written_append, fill, List.flatMap_cons, ← ih]
      split
      · next arg rest hsome =>
          rw [placeholder?_hole hdigits] at hsome
          obtain ⟨arg', harg, hresult⟩ := Option.map_eq_some_iff.mp hsome
          cases hresult
          simp [Piece.filled, harg]
      · next hnone =>
          rw [placeholder?_hole hdigits, Option.map_eq_none_iff] at hnone
          have hbrace : '\x7b' ∉ digits ++ ['\x7d'] := by
            intro hmem
            rcases List.mem_append.mp hmem with hmem | hmem
            · exact (ne_brace_of_denotes hdigits _ hmem).2 rfl
            · cases List.mem_singleton.mp hmem
          have hplain := fill_append hbrace args s
          rw [List.append_assoc, List.singleton_append] at hplain
          rw [hplain]
          simp [Piece.filled, Piece.written, hnone]
  | @char c s pieces hother _ ih =>
      rw [List.flatMap_cons, ← ih]
      by_cases hc : c = '\x7b'
      · subst hc
        rw [fill]
        split
        · next hsome =>
            rw [placeholder?_eq_none hother] at hsome
            cases hsome
        · rfl
      · rw [fill]
        · rfl
        · exact hc

/-! ## The one way to cut a template -/

theorem Cuts.written (h : Cuts s pieces) : pieces.flatMap Piece.written = s := by
  induction h with
  | nil => rfl
  | hole _ _ ih => rw [List.flatMap_cons, ih]
  | char _ _ ih =>
      rw [List.flatMap_cons, ih]
      rfl

theorem exists_cuts (s : List Char) : ∃ pieces, Cuts s pieces := by
  induction hlength : s.length using Nat.strongRecOn generalizing s with
  | _ length ih =>
      subst hlength
      cases s with
      | nil => exact ⟨[], .nil⟩
      | cons c s =>
          by_cases hhole : ∃ i digits, Text.Denotes digits i ∧
              (Piece.hole i digits).written <+: c :: s
          · obtain ⟨i, digits, hdigits, rest, hrest⟩ := hhole
            have hshorter : rest.length < (c :: s).length := by
              rw [← hrest, written_append, List.length_cons, List.length_append, List.length_cons]
              omega
            obtain ⟨pieces, hpieces⟩ := ih _ hshorter rest rfl
            rw [← hrest]
            exact ⟨_, .hole hdigits hpieces⟩
          · obtain ⟨pieces, hpieces⟩ := ih _ (Nat.lt_succ_self _) s rfl
            exact ⟨_, .char (fun i digits h hbegins => hhole ⟨i, digits, h, hbegins⟩) hpieces⟩

theorem hole_inj {j : Nat} {digits' s' : List Char} (h : Text.Denotes digits i)
    (h' : Text.Denotes digits' j)
    (heq : (Piece.hole i digits).written ++ s = (Piece.hole j digits').written ++ s') :
    Piece.hole i digits = Piece.hole j digits' ∧ s = s' := by
  rw [written_append, written_append] at heq
  have hbehind := (List.cons.inj heq).2
  -- A hole ends at the first closing brace.
  have htake {i : Nat} {digits : List Char} (h : Text.Denotes digits i) (s : List Char) :
      (digits ++ '\x7d' :: s).takeWhile (· != '\x7d') = digits :=
    Text.takeWhile_append_stop (fun d hd => (ne_brace_of_denotes h d hd).1) (by simp)
  have hdigits : digits = digits' := by rw [← htake h s, hbehind, htake h' s']
  subst hdigits
  have hnumber : i = j := h.value.symm.trans h'.value
  subst hnumber
  exact ⟨rfl, (List.cons.inj (List.append_cancel_left hbehind)).2⟩

theorem Cuts.unique {pieces' : List Piece} (h : Cuts s pieces) (h' : Cuts s pieces') :
    pieces' = pieces := by
  induction h generalizing pieces' with
  | nil =>
      generalize hu : ([] : List Char) = u at h'
      cases h' with
      | nil => rfl
      | hole _ _ => cases hu
      | char _ _ => cases hu
  | @hole i digits s pieces hdigits _ ih =>
      generalize hu : (Piece.hole i digits).written ++ s = u at h'
      cases h' with
      | nil => cases hu
      | hole hdigits' hrest =>
          obtain ⟨hpiece, hs⟩ := hole_inj hdigits hdigits' hu
          subst hs
          rw [ih hrest, hpiece]
      | char hother _ => exact absurd ⟨s, hu⟩ (hother i digits hdigits)
  | @char c s pieces hother _ ih =>
      generalize hu : c :: s = u at h'
      cases h' with
      | nil => cases hu
      | @hole j digits rest _ hdigits _ => exact absurd ⟨rest, hu.symm⟩ (hother j digits hdigits)
      | char _ hrest =>
          cases hu
          rw [ih hrest]

/-- The template of a key is cut into its pieces before any argument is looked at. Whatever the
arguments are, and however many, the message has each of them in its holes, as it is displayed, and
everything else as it is written. -/
theorem render_simultaneous (key : MessageKey) : ∃ pieces, Cuts key.template.toList pieces ∧
    (∀ other, Cuts key.template.toList other → other = pieces) ∧
    pieces.flatMap Piece.written = key.template.toList ∧
    ∀ args : List MessageArg, (render key args).toList =
      pieces.flatMap (Piece.filled (args.map MessageArg.display)) := by
  obtain ⟨pieces, h⟩ := exists_cuts key.template.toList
  refine ⟨pieces, h, fun other => h.unique, h.written, ?_⟩
  intro args
  rw [render, String.toList_ofList, fill_eq h]

/-- An element whose name looks like a hole is not filled again. -/
example : render .elementAttributes [.text "\x7b1\x7d", .number 10000] =
    "Element \"\x7b1\x7d\" has more than \"10,000\" attributes, \"10,000\" is the limit " ++
      "imposed by the application." := by decide +kernel

end XmlBounds.Message
