import XmlBounds.Proofs.Dtd.ByteDeclarations
import XmlBounds.Proofs.Dtd.Recognition

/-!
# Loops at byte offsets

The recursions over the characters are taken apart into turns, of which every one but the last
passes something. A loop at byte offsets whose turns retrace theirs comes to the same result, and it
is never stuck.
-/

namespace XmlBounds.Dtd

variable {σ α : Type} {text : String} {t : Track} {c : Cursor}

/-! ## The rule for loops -/

/-- Turn after turn, each of which passes something, comes to a result. -/
inductive Scan.Loops (turn : σ → Scan (σ ⊕ α)) :
    σ → Cursor → Except Fault (α × Cursor) → Prop where
  | goesOn {s s' : σ} {c c' : Cursor} {result : Except Fault (α × Cursor)} :
      turn s c = .ok (.inl s', c') → c.offset < c'.offset → Loops turn s' c' result →
      Loops turn s c result
  | returns {s : σ} {c c' : Cursor} {a : α} :
      turn s c = .ok (.inr a, c') → Loops turn s c (.ok (a, c'))
  | fails {s : σ} {c : Cursor} {fault : Fault} :
      turn s c = .error fault → Loops turn s c (.error fault)

theorem Scan.Loops.agrees {turn : σ → ByteScan (σ ⊕ α)} {turn' : σ → Scan (σ ⊕ α)} {s : σ}
    {result : Except Fault (α × Cursor)} (hloops : Scan.Loops turn' s c result)
    (hturn : ∀ s, Retraces (turn s) (turn' s)) (h : Stands text t c) :
    Agrees text (ByteScan.loop turn s text t) result := by
  induction hloops generalizing t with
  | @goesOn s s' c c' result hread hlt _ ih =>
      have hagrees := hturn s c.rest text t c rfl h
      rw [hread] at hagrees
      obtain ⟨t', hrun, h'⟩ := hagrees.exists_ok
      have hturned : t.offset < t'.offset ∧ t'.offset ≤ text.utf8ByteSize :=
        ⟨h.offset_eq ▸ h'.offset_eq ▸ hlt, h'.le⟩
      rw [ByteScan.loop, hrun]
      dsimp only
      rw [dif_pos hturned]
      exact ih (h'.record hturned)
  | @returns s c c' a hread =>
      have hagrees := hturn s c.rest text t c rfl h
      rw [hread] at hagrees
      obtain ⟨t', hrun, h'⟩ := hagrees.exists_ok
      rw [ByteScan.loop, hrun]
      exact .ok h'
  | @fails s c fault hread =>
      have hagrees := hturn s c.rest text t c rfl h
      rw [hread] at hagrees
      obtain ⟨t', hrun, hsound⟩ := hagrees.exists_error
      rw [ByteScan.loop, hrun]
      exact .fault hsound

theorem Cursor.Passes.offset_lt {c' : Cursor} {taken : List Char} (h : c.Passes taken c')
    (hne : taken ≠ []) : c.offset < c'.offset := by
  have hlength := Text.length_le_byteLength taken
  have hpos := List.length_pos_iff.mpr hne
  rw [h.2]
  omega

theorem Cursor.eq_of_passes_nil {c' : Cursor} (h : c.Passes [] c') : c' = c := by
  obtain ⟨hrest, hoffset⟩ := h
  rw [List.nil_append] at hrest
  rw [Text.byteLength_nil, Nat.add_zero] at hoffset
  cases c'
  exact (Cursor.mk.injEq ..).mpr ⟨hoffset, hrest.symm⟩

theorem Cursor.rest_advance_add {n : Nat} {s : List Char} (h : (c.advance n).rest = s) (m : Nat) :
    (c.advance (n + m)).rest = s.drop m := by
  rw [← h, ← Cursor.advance_advance]
  rfl

theorem Cursor.offset_lt_advance_add {n m : Nat} (hm : 0 < m) (hne : (c.advance n).rest ≠ []) :
    (c.advance n).offset < (c.advance (n + m)).offset := by
  rw [← Cursor.advance_advance]
  apply ((c.advance n).passes_advance m).offset_lt
  rw [ne_eq, List.take_eq_nil_iff, not_or]
  exact ⟨hm.ne', hne⟩

theorem Cursor.advance_of_rest_nil {n : Nat} (h : (c.advance n).rest = []) :
    c.advance n = c.advance c.rest.length := by
  have hle : c.rest.length ≤ n := List.drop_eq_nil_iff.mp h
  rw [advance, advance, List.take_of_length_le hle, List.drop_of_length_le hle, List.take_length,
    List.drop_length]

namespace Scan

/-! ## Ignored sections -/

theorem eat_run {token : String} (h : token.toList <+: c.rest) :
    eat token c = .ok (true, c.advance token.toList.length) :=
  if_pos (List.isPrefixOf_iff_prefix.mpr h)

theorem eat_run_other {token : String} (h : ¬ token.toList <+: c.rest) :
    eat token c = .ok (false, c) := if_neg (mt List.isPrefixOf_iff_prefix.mp h)

theorem eq_of_eat_other {token : String} {found : Bool} {c' : Cursor} (hfound : ¬ found = true)
    (h : eat token c = .ok (found, c')) : c' = c := by
  obtain ⟨taken, hpasses, htaken⟩ := recognizes_eat token c found c' h
  rw [if_neg hfound] at htaken
  subst htaken
  exact Cursor.eq_of_passes_nil hpasses

/-- A turn inside an ignored section, of which `depth` are open. -/
def ignoredTurn (depth : Nat) : Scan (Nat ⊕ Unit) := do
  if (← rest) = [] then fail .unterminatedIgnore
  else if ← eat "<![" then return .inl (depth + 1)
  else if ← eat "]]>" then
    if depth - 1 = 0 then return .inr ()
    else return .inl (depth - 1)
  else
    let _ ← take 1
    return .inl depth

theorem ignoredTurn_opening {left : List Char} (depth : Nat)
    (h : c.rest = '<' :: '!' :: '[' :: left) :
    ignoredTurn depth c = .ok (.inl (depth + 1), c.advance 3) := by
  have heat : eat "<![" c = .ok (true, c.advance 3) := eat_run (by simp [h])
  rw [ignoredTurn, rest_bind_run, if_neg (by simp [h]), bind_run heat]
  rfl

theorem ignoredTurn_closing {left : List Char} (depth : Nat)
    (h : c.rest = ']' :: ']' :: '>' :: left) :
    ignoredTurn depth c =
      .ok (if depth - 1 = 0 then .inr () else .inl (depth - 1), c.advance 3) := by
  have hother : eat "<![" c = .ok (false, c) := eat_run_other (by simp [h])
  have heat : eat "]]>" c = .ok (true, c.advance 3) := eat_run (by simp [h])
  rw [ignoredTurn, rest_bind_run, if_neg (by simp [h]), bind_run hother, if_neg (by simp),
    bind_run heat, if_pos rfl]
  split <;> rfl

theorem ignoredTurn_other (depth : Nat) (hne : c.rest ≠ []) (hopening : ¬ "<![".toList <+: c.rest)
    (hclosing : ¬ "]]>".toList <+: c.rest) :
    ignoredTurn depth c = .ok (.inl depth, c.advance 1) := by
  rw [ignoredTurn, rest_bind_run, if_neg hne, bind_run (eat_run_other hopening),
    if_neg (by simp), bind_run (eat_run_other hclosing)]
  rfl

theorem loops_ignoredFrom? (depth n : Nat) (s : List Char) (hrest : (c.advance n).rest = s) :
    Loops ignoredTurn (depth + 1) (c.advance n)
      (match ignoredFrom? depth n s with
        | some m => .ok ((), c.advance m)
        | none => fail .unterminatedIgnore (c.advance c.rest.length)) := by
  -- The loop counts the section itself, the recursion only the sections inside it.
  fun_induction ignoredFrom? depth n s with
  | case1 depth n left ih =>
      have hturn := ignoredTurn_opening (depth + 1) hrest
      rw [Cursor.advance_advance] at hturn
      refine .goesOn hturn ?_ (ih (Cursor.rest_advance_add hrest 3))
      exact Cursor.offset_lt_advance_add (by simp) (by simp [hrest])
  | case2 n left =>
      have hturn := ignoredTurn_closing 1 hrest
      rw [Cursor.advance_advance] at hturn
      exact .returns hturn
  | case3 depth n left ih =>
      have hturn := ignoredTurn_closing (depth + 1 + 1) hrest
      rw [Cursor.advance_advance, if_neg (by simp)] at hturn
      refine .goesOn hturn ?_ (ih (Cursor.rest_advance_add hrest 3))
      exact Cursor.offset_lt_advance_add (by simp) (by simp [hrest])
  | case4 depth n char left hopening hclosing hclosing' ih =>
      have hopening : ¬ "<![".toList <+: (c.advance n).rest := by
        rw [hrest]
        rintro ⟨left', hleft⟩
        obtain ⟨rfl, rfl⟩ : '<' = char ∧ '!' :: '[' :: left' = left := by simpa using hleft
        exact hopening _ rfl rfl
      have hclosing : ¬ "]]>".toList <+: (c.advance n).rest := by
        rw [hrest]
        rintro ⟨left', hleft⟩
        obtain ⟨rfl, rfl⟩ : ']' = char ∧ ']' :: '>' :: left' = left := by simpa using hleft
        cases depth with
        | zero => exact hclosing _ rfl rfl rfl
        | succ depth => exact hclosing' depth _ rfl rfl rfl
      have hturn := ignoredTurn_other (depth + 1) (by simp [hrest]) hopening hclosing
      rw [Cursor.advance_advance] at hturn
      refine .goesOn hturn ?_ (ih (Cursor.rest_advance_add hrest 1))
      exact Cursor.offset_lt_advance_add (by simp) (by simp [hrest])
  | case5 depth n =>
      rw [← Cursor.advance_of_rest_nil hrest]
      refine .fails ?_
      rw [ignoredTurn, rest_bind_run, if_pos hrest]
      rfl

theorem loops_ignored (c : Cursor) : Loops ignoredTurn 1 c (ignored c) := by
  have hloops := loops_ignoredFrom? (c := c) 0 0 c.rest rfl
  rw [ignored, rest_bind_run]
  cases hfound : ignoredFrom? 0 0 c.rest with
  | none =>
      rw [hfound] at hloops
      exact hloops
  | some m =>
      rw [hfound] at hloops
      exact hloops

end Scan

namespace ByteScan

theorem retraces_ignoredTurn (depth : Nat) :
    Retraces (ignoredTurn depth) (Scan.ignoredTurn depth) := by
  intro s
  refine retracesOn_isDone (retracesOn_scan_rest ?_)
  simp only [decide_eq_true_eq]
  refine .ite (fun _ => retraces_fail _ s) fun hne => ?_
  refine (retraces_eat _ s).bind fun opening c c' hs heat => ?_
  refine .ite (fun _ => .pure _) fun hopening => ?_
  obtain rfl := Scan.eq_of_eat_other hopening heat
  refine (retraces_eat _ _).bind fun closing c c'' hs' heat' => ?_
  refine .ite (fun _ => ?_) fun hclosing => ?_
  · exact .ite (fun _ => .pure _) fun _ => .pure _
  · obtain rfl := Scan.eq_of_eat_other hclosing heat'
    obtain ⟨char, left, rfl⟩ := List.exists_cons_of_ne_nil hne
    have hsize : (((char :: left).head?.map Char.utf8Size).getD 1) =
        Text.offsetAt (char :: left) 1 := rfl
    rw [hs', hs]
    apply retracesOn_rest
    rw [String.toList_ofList]
    exact retracesOn_forward hsize (.pure _)

theorem retraces_ignored : Retraces ignored Scan.ignored := by
  intro s text t c _ h
  exact (Scan.loops_ignored c).agrees retraces_ignoredTurn h

theorem retraces_conditional (depth : Nat) :
    Retraces (conditional depth) (Scan.conditional depth) := by
  refine retraces_space.bind fun _ => (retraces_eat _).bind fun _ => .ite ?_ ?_
  · exact retraces_space.bind fun _ => (retraces_expect _).bind fun _ => .pure _
  · refine (retraces_eat _).bind fun _ => .ite ?_ (retraces_fail _)
    refine retraces_space.bind fun _ => (retraces_expect _).bind fun _ => ?_
    exact retraces_ignored.bind fun _ => .pure _

theorem retraces_markup (base : Option String) (depth : Nat) :
    Retraces (markup base depth) (Scan.markup base depth) := by
  refine (retraces_eat _).bind fun _ => .ite (retraces_single _ retraces_comment) ?_
  refine (retraces_eat _).bind fun _ => .ite (retraces_single _ retraces_instruction) ?_
  refine (retraces_eat _).bind fun _ => .ite (retraces_conditional _) ?_
  refine (retraces_eat _).bind fun _ => .ite (retraces_sectionEnd _) ?_
  refine (retraces_eat _).bind fun _ => .ite (retraces_single _ (retraces_entity _)) ?_
  refine (retraces_eat _).bind fun _ => .ite (retraces_single _ retraces_element) ?_
  refine (retraces_eat _).bind fun _ => .ite (retraces_single _ retraces_attlist) ?_
  refine (retraces_eat _).bind fun _ => .ite (retraces_single _ retraces_notationDecl) ?_
  refine (retraces_eat _).bind fun _ => .ite (retraces_single _ retraces_parameterReference) ?_
  exact retraces_fail _

end ByteScan

/-! ## Subsets -/

namespace Scan

/-- A turn with the events so far and the number of open sections. -/
def scanTurn (base : Option String) (s : List Event × Nat) :
    Scan ((List Event × Nat) ⊕ List Event) := do
  let _ ← space
  if (← rest) = [] then
    if s.2 = 0 then return .inr s.1
    else throw .openSection
  else
    let (events, depth) ← markup base s.2
    return .inl (s.1 ++ events, depth)

/-- What is still to be read of a subset, behind the events so far. -/
def scanning (base : Option String) (s : List Event × Nat) : Scan (List Event) := fun c =>
  (scanFrom base s.2 c).map fun events => (s.1 ++ events, c.advance c.rest.length)

theorem scanTurn_run (base : Option String) (s : List Event × Nat) (c : Cursor) :
    scanTurn base s c =
      if c.afterSpace.rest = [] then
        if s.2 = 0 then .ok (.inr s.1, c.afterSpace) else .error .openSection
      else
        (markup base s.2 c.afterSpace).map fun found =>
          (.inl (s.1 ++ found.1.1, found.1.2), found.2) := by
  have hspace : space c = .ok (_, c.afterSpace) := rfl
  rw [scanTurn, bind_run hspace, rest_bind_run]
  split
  · split <;> rfl
  · cases hmarkup : markup base s.2 c.afterSpace with
    | error fault => exact bind_run_error hmarkup
    | ok found => exact bind_run hmarkup

theorem advance_length_of_passes {c' : Cursor} {taken : List Char} (h : c.Passes taken c') :
    c'.advance c'.rest.length = c.advance c.rest.length := by
  have hend := h.offset_le
  simp only [Cursor.advance, List.take_length, List.drop_length, hend]

theorem loops_scanning (base : Option String) (events : List Event) (depth : Nat) (c : Cursor) :
    Loops (scanTurn base) (events, depth) c (scanning base (events, depth) c) := by
  have hspace (c : Cursor) : c.Passes _ c.afterSpace := c.passes_advance _
  unfold scanning
  induction depth, c using scanFrom.induct base generalizing events with
  | case1 c hrest =>
      have hturn := scanTurn_run base (events, 0) c
      have hend := Cursor.advance_of_rest_nil hrest
      rw [if_pos hrest, if_pos rfl] at hturn
      rw [scanFrom, if_pos hrest, if_pos rfl, Except.map, List.append_nil, ← hend]
      exact .returns hturn
  | case2 depth c hrest hopen =>
      have hturn := scanTurn_run base (events, depth) c
      rw [if_pos hrest, if_neg hopen] at hturn
      rw [scanFrom, if_pos hrest, if_neg hopen]
      exact .fails hturn
  | case3 depth c hrest fault hmarkup =>
      have hturn := scanTurn_run base (events, depth) c
      rw [if_neg hrest, hmarkup] at hturn
      rw [scanFrom, if_neg hrest, hmarkup]
      exact .fails hturn
  | case4 depth c hrest passed depth' c' hmarkup ih =>
      have hturn := scanTurn_run base (events, depth) c
      -- There may be no white space, but there is no markup without characters.
      obtain ⟨taken, hne, hpasses⟩ := progresses_markup base depth _ _ _ hmarkup
      have hall := (hspace c).trans hpasses
      rw [if_neg hrest, hmarkup] at hturn
      have hlater := ih (events ++ passed)
      rw [advance_length_of_passes hall] at hlater
      refine .goesOn hturn (hall.offset_lt (by simp [hne])) ?_
      rw [scanFrom, if_neg hrest, hmarkup]
      dsimp only
      cases hscan : scanFrom base depth' c' with
      | error fault =>
          rw [hscan] at hlater
          exact hlater
      | ok later =>
          rw [hscan] at hlater
          simpa [Except.map, bind, Except.bind, pure, Except.pure] using hlater

end Scan

namespace ByteScan

theorem retraces_scanTurn (base : Option String) (s : List Event × Nat) :
    Retraces (scanTurn base s) (Scan.scanTurn base s) := by
  refine retraces_space.bind fun _ left => retracesOn_isDone (retracesOn_scan_rest ?_)
  simp only [decide_eq_true_eq]
  refine .ite (fun _ => .ite (fun _ => .pure _) fun _ => retraces_throw _ left) fun _ => ?_
  exact ((retraces_markup base s.2).bind fun _ => .pure _) left

theorem retraces_scan (base : Option String) :
    Retraces (scan base) (Scan.scanning base ([], 0)) := by
  intro s text t c _ h
  exact (Scan.loops_scanning base [] 0 c).agrees (retraces_scanTurn base) h

end ByteScan

end XmlBounds.Dtd
