import XmlBounds.Proofs.Dtd.ByteBrackets
import XmlBounds.Proofs.Dtd.ByteLoops

/-!
# Scanning keeps to the boundaries of characters

At byte offsets a DOCTYPE declaration is split, and a subset is scanned, with the results of the
readers of characters. On the way the cursor never leaves the boundaries of the text, no cut is
refused, and every turn of a loop goes forward.
-/

namespace XmlBounds.Dtd

open Text (offsetAt)

/-! ## The internal subset -/

theorem isPrefix_of_subsetEndFrom? {m : Nat} {s : List Char} (state : SubsetState)
    (front : List Char) (h : subsetEndFrom? state front.length s = some m) :
    [']'] <+: (front ++ s).drop m := by
  generalize hn : front.length = n at h
  fun_induction subsetEndFrom? state n s generalizing front with
  | case1 n left ih => simpa using ih (front ++ "-->".toList) (by simp [hn]) h
  | case2 n left ih => simpa using ih (front ++ "<!--".toList) (by simp [hn]) h
  | case3 n left =>
      cases h
      rw [← hn, List.drop_left]
      exact List.prefix_append [']'] left
  | case4 n c left _ _ ih => simpa using ih (front ++ [c]) (by simp [hn]) h
  | case5 quote n c left ih => simpa using ih (front ++ [c]) (by simp [hn]) h
  | case6 n c left _ ih => simpa using ih (front ++ [c]) (by simp [hn]) h
  | case7 => cases h

namespace ByteScan

theorem subsetEndOffset?_eq (front rest : String) :
    subsetEndOffset? (front ++ rest) front.utf8ByteSize =
      (subsetEndFrom? .plain 0 rest.toList).map fun n =>
        front.utf8ByteSize + offsetAt rest.toList n := by
  have hplain : SubsetState.plain.IsQuoted := trivial
  have hsearch := subsetEndOffsetFrom?_eq hplain front.utf8ByteSize [] rest.toList
  rw [String.ofList_toList] at hsearch
  rw [subsetEndOffset?, Text.bytes_append, ← Text.length_bytes, List.drop_left, Text.length_bytes]
  exact hsearch

theorem retraces_subset : Retraces subset Scan.subset := by
  rintro s text t c rfl h
  obtain ⟨front, htext, hoffset⟩ := h.exists_front
  have hread : (read : ByteScan String) text t = (.ok text, t) := rfl
  have hget : (get : ByteScan Track) text t = (.ok t, t) := rfl
  have hfound := subsetEndOffset?_eq front (String.ofList c.rest)
  rw [← htext, ← hoffset, String.toList_ofList] at hfound
  rw [subset, bind_run hread, bind_run hget, hfound, Scan.subset, Scan.rest_bind_run]
  cases hend : subsetEndFrom? .plain 0 c.rest with
  | none => exact retraces_fail _ c.rest text t c rfl h
  | some n =>
      -- The text is cut out up to the bracket, and the cursor is put behind it.
      have hpassed := offsetAt_add_length (isPrefix_of_subsetEndFrom? .plain [] hend)
      obtain ⟨t', hcut, h'⟩ := cut_ahead_run h n
      have hmoved := h'.advance (n + 1)
      have hstop : t.offset + offsetAt c.rest n + 1 = t'.offset + offsetAt c.rest (n + 1) := by
        rw [h.offset_eq, h'.offset_eq, Nat.add_assoc]
        exact congrArg (c.offset + ·) hpassed.symm
      rw [← Cursor.advance_advance] at hmoved
      dsimp only [Option.map_some]
      rw [bind_run hcut, hstop]
      exact .ok hmoved

/-! ## DOCTYPE declarations -/

theorem retraces_externalSubset : Retraces externalSubset Scan.externalSubset := by
  intro s
  have hids : Retraces (do let ids ← externalId false; let _ ← space; return ids)
      (do let ids ← Scan.externalId false; let _ ← Scan.space; return ids) :=
    (retraces_externalId _).bind fun _ => retraces_space.bind fun _ => .pure _
  unfold externalSubset Scan.externalSubset
  refine retracesOn_scan_at? (retracesOn_scan_at? ?_)
  unfold orM
  rw [bind_assoc]
  refine retracesOn_at? ?_
  cases hsystem : "SYSTEM".toList.isPrefixOf s with
  | true => exact hids s
  | false =>
      refine retracesOn_at? ?_
      exact .ite (fun _ => hids s) fun _ => .pure _

theorem retraces_internalSubset : Retraces internalSubset Scan.internalSubset := by
  refine (retraces_eat _).bind fun _ => .ite ?_ (.pure _)
  exact retraces_subset.bind fun _ => retraces_space.bind fun _ => .pure _

theorem retraces_doctype : Retraces doctype Scan.doctype := by
  refine retraces_space.bind fun _ => retraces_name.bind fun root => retraces_space.bind fun _ => ?_
  refine retraces_externalSubset.bind ?_
  rintro ⟨publicId, systemId⟩
  refine retraces_internalSubset.bind fun subset s => retracesOn_isDone (retracesOn_scan_rest ?_)
  simp only [decide_eq_true_eq]
  exact .ite (fun _ => .pure _) fun _ => retraces_fail _ s

end ByteScan

/-! ## From the beginning of a text -/

theorem Agrees.sound {α : Type} {text : String} {run : Except Stop α × Track}
    {result : Except Fault (α × Cursor)} (h : Agrees text run result) :
    run.1 = (result.map (·.1)).mapError .fault ∧ ∀ act ∈ run.2.acts, act.IsSound := by
  cases h with
  | ok h => exact ⟨rfl, h.sound⟩
  | fault hsound => exact ⟨rfl, hsound⟩

theorem stands_start (text : String) {acts : List Act} (h : ∀ act ∈ acts, act.IsSound) :
    Stands text ⟨0, acts⟩ (.start text.toList) := by
  refine ⟨⟨"", ?_, rfl⟩, rfl, h⟩
  rw [Cursor.start, String.ofList_toList, String.empty_append]

theorem utf8Size_of_toUpper {c : Char} (h : c.toUpper.toNat < 128) : c.utf8Size = 1 := by
  have hc : c.toNat < 128 := by
    unfold Char.toUpper at h
    split at h
    · next hlower =>
        have hle : c.toNat ≤ 122 := hlower.2
        omega
    · exact h
  exact Text.utf8Size_of_ascii hc

theorem byteLength_of_toUpper {s : List Char} (h : ∀ c ∈ s, c.toUpper.toNat < 128) :
    Text.byteLength s = s.length := by
  induction s with
  | nil => rfl
  | cons c s ih =>
      obtain ⟨hc, hs⟩ := List.forall_mem_cons.mp h
      rw [Text.byteLength_cons, utf8Size_of_toUpper hc, ih hs, List.length_cons, Nat.add_comm]

theorem utf8ByteSize_keyword {s : List Char} (h : (s.take 7).map Char.toUpper = "DOCTYPE".toList) :
    (String.ofList (s.take 7)).utf8ByteSize = 7 := by
  have hletters : ∀ c ∈ "DOCTYPE".toList, c.toNat < 128 := by simp
  have hascii : ∀ c ∈ s.take 7, c.toUpper.toNat < 128 := by
    intro c hc
    apply hletters
    rw [← h]
    exact List.mem_map_of_mem hc
  have hlength : (s.take 7).length = 7 := by
    rw [← List.length_map Char.toUpper, h]
    rfl
  rw [Text.utf8ByteSize_ofList, byteLength_of_toUpper hascii, hlength]

/-- The keyword is cut out of the text where the text begins with its letters. -/
theorem keyword_eq (s : List Char) :
    ((Text.slice? (String.ofList s) 0 7).any fun head =>
      head.toList.map Char.toUpper = "DOCTYPE".toList) =
      decide ((s.take 7).map Char.toUpper = "DOCTYPE".toList) := by
  by_cases hkeyword : (s.take 7).map Char.toUpper = "DOCTYPE".toList
  -- The letters of the keyword are ASCII, so its seven characters are seven bytes.
  · have hsize := utf8ByteSize_keyword hkeyword
    have hslice := Text.slice?_append "" (String.ofList (s.take 7)) (String.ofList (s.drop 7))
    rw [String.empty_append, ← String.ofList_append, List.take_append_drop,
      String.utf8ByteSize_empty, Nat.zero_add, hsize] at hslice
    rw [hslice, Option.any_some, String.toList_ofList]
  · rw [decide_eq_false hkeyword, Option.any_eq_false]
    intro head hhead
    obtain ⟨left, hsplit, -⟩ := Text.exists_of_slice?_zero hhead
    apply decide_eq_false
    intro hletters
    have hlength : head.toList.length = 7 := by
      rw [← List.length_map Char.toUpper, hletters]
      rfl
    apply hkeyword
    rw [← String.toList_ofList (l := s), hsplit, String.toList_append, List.take_left' hlength]
    exact hletters

theorem sound_splitDoctype (text : String) :
    ByteScan.splitDoctype.outcome text = (Doctype.split text).mapError .fault ∧
      ∀ act ∈ ByteScan.splitDoctype.acts text, act.IsSound := by
  have hrun (body : List Char) {acts : List Act} (hacts : ∀ act ∈ acts, act.IsSound) :
      (ByteScan.doctype (String.ofList body) ⟨0, acts⟩).1 =
          ((Scan.doctype (.start body)).map (·.1)).mapError .fault ∧
        ∀ act ∈ (ByteScan.doctype (String.ofList body) ⟨0, acts⟩).2.acts, act.IsSound := by
    have hstands := stands_start (String.ofList body) hacts
    rw [String.toList_ofList] at hstands
    exact (ByteScan.retraces_doctype body _ _ _ rfl hstands).sound
  have hread : (read : ByteScan String) text ⟨0, []⟩ = (.ok text, ⟨0, []⟩) := rfl
  have hkeyword := keyword_eq (Text.trimStart text.toList)
  unfold ByteScan.outcome ByteScan.acts ByteScan.splitDoctype Doctype.split dropKeyword
  rw [ByteScan.bind_run hread]
  dsimp only
  rw [hkeyword]
  generalize Text.trimStart text.toList = trimmed at hkeyword ⊢
  by_cases h : (trimmed.take 7).map Char.toUpper = "DOCTYPE".toList
  · have hcut : ByteScan.cut _ _ _ text ⟨0, []⟩ = _ :=
      ByteScan.cut_run (String.ofList (trimmed.take 7)) (String.ofList (trimmed.drop 7)) ""
    have hsound := ByteScan.isSound_cut (String.ofList (trimmed.take 7))
      (String.ofList (trimmed.drop 7)) ""
    rw [← String.utf8ByteSize_append, String.append_empty, ← String.ofList_append,
      List.take_append_drop, utf8ByteSize_keyword h] at hcut hsound
    rw [if_pos h, if_pos (decide_eq_true h), ByteScan.bind_run hcut]
    exact hrun (trimmed.drop 7) (by simpa [Track.note] using hsound)
  · rw [if_neg h, if_neg (Bool.eq_false_iff.mp (decide_eq_false h))]
    exact hrun trimmed (by simp)

theorem sound_scan (base : Option String) (text : String) :
    (ByteScan.scan base).outcome text = (scan text base).mapError .fault ∧
      ∀ act ∈ (ByteScan.scan base).acts text, act.IsSound := by
  have hstands : Stands text ⟨0, []⟩ (.start text.toList) := stands_start text (by simp)
  obtain ⟨houtcome, hsound⟩ := (ByteScan.retraces_scan base _ text _ _ rfl hstands).sound
  refine ⟨houtcome.trans ?_, hsound⟩
  unfold Scan.scanning scan
  cases scanFrom base 0 (.start text.toList) with
  | error fault => rfl
  | ok events => rfl

/-- Splitting and scanning at byte offsets never refuses a cut and is never stuck: every place of
the cursor, every cut and every turn of a loop is sound, and the result is that of the readers of
characters. The bracket that closes an internal subset is found where the characters have it. -/
theorem scanner_keeps_to_boundaries (text : String) :
    (ByteScan.splitDoctype.outcome text = (Doctype.split text).mapError .fault ∧
      ∀ act ∈ ByteScan.splitDoctype.acts text, act.IsSound) ∧
    (∀ base, (ByteScan.scan base).outcome text = (scan text base).mapError .fault ∧
      ∀ act ∈ (ByteScan.scan base).acts text, act.IsSound) ∧
    ∀ front : String, ByteScan.subsetEndOffset? (front ++ text) front.utf8ByteSize =
      (subsetEndFrom? .plain 0 text.toList).map fun n =>
        front.utf8ByteSize + offsetAt text.toList n :=
  ⟨sound_splitDoctype text, fun base => sound_scan base text,
    fun front => ByteScan.subsetEndOffset?_eq front text⟩

end XmlBounds.Dtd
