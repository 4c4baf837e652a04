import XmlBounds.Proofs.Dtd.ByteScan

/-!
# Readers at byte offsets

A reader at byte offsets retraces a reader of characters if, from the same place, the two come to
the same place with the same result or to the same fault, and if everything that is done at offsets
on the way is sound. A reader that is built from such readers as its counterpart is built from
theirs retraces its counterpart.
-/

namespace XmlBounds.Dtd

open Text (offsetAt)

/-- The cursor at a byte offset stands where the cursor among the characters does, and what was done
before is sound. -/
structure Stands (text : String) (t : Track) (c : Cursor) : Prop where
  exists_front : ∃ front, text = front ++ String.ofList c.rest ∧ t.offset = front.utf8ByteSize
  offset_eq : t.offset = c.offset
  sound : ∀ act ∈ t.acts, act.IsSound

/-- The run at byte offsets ends as the reading of characters does. -/
inductive Agrees {α : Type} (text : String) :
    Except Stop α × Track → Except Fault (α × Cursor) → Prop where
  | ok {a : α} {t : Track} {c : Cursor} : Stands text t c → Agrees text (.ok a, t) (.ok (a, c))
  | fault {fault : Fault} {t : Track} : (∀ act ∈ t.acts, act.IsSound) →
      Agrees text (.error (.fault fault), t) (.error fault)

/-- The one reader retraces the other where the text goes on with `s`. -/
def RetracesOn {α : Type} (s : List Char) (x : ByteScan α) (y : Scan α) : Prop :=
  ∀ text t c, c.rest = s → Stands text t c → Agrees text (x text t) (y c)

def Retraces {α : Type} (x : ByteScan α) (y : Scan α) : Prop := ∀ s, RetracesOn s x y

variable {α β : Type} {text : String} {t : Track} {c : Cursor} {s : List Char}

theorem Stands.record {act : Act} (h : Stands text t c) (hact : act.IsSound) :
    Stands text (t.note act) c :=
  ⟨h.exists_front, h.offset_eq, List.forall_mem_cons.mpr ⟨hact, h.sound⟩⟩

theorem Stands.size_eq (h : Stands text t c) :
    text.utf8ByteSize = t.offset + Text.byteLength c.rest := by
  obtain ⟨front, rfl, hoffset⟩ := h.exists_front
  rw [hoffset, String.utf8ByteSize_append, Text.utf8ByteSize_ofList]

theorem Stands.le (h : Stands text t c) : t.offset ≤ text.utf8ByteSize := by
  rw [h.size_eq]
  exact Nat.le_add_right ..

theorem Agrees.exists_ok {run : Except Stop α × Track} {a : α}
    (h : Agrees text run (.ok (a, c))) : ∃ t', run = (.ok a, t') ∧ Stands text t' c := by
  cases h with
  | ok h => exact ⟨_, rfl, h⟩

theorem Agrees.exists_error {run : Except Stop α × Track} {fault : Fault}
    (h : Agrees text run (.error fault)) :
    ∃ t', run = (.error (.fault fault), t') ∧ ∀ act ∈ t'.acts, act.IsSound := by
  cases h with
  | fault hsound => exact ⟨_, rfl, hsound⟩

theorem isSound_place (front : String) (s : List Char) (n : Nat) :
    (Act.place (front ++ String.ofList s) (front.utf8ByteSize + offsetAt s n)).IsSound := by
  have hboundary := Text.isBoundary_append_append front (String.ofList (s.take n))
    (String.ofList (s.drop n))
  rw [String.append_assoc, ← String.ofList_append, List.take_append_drop,
    Text.utf8ByteSize_ofList] at hboundary
  exact ⟨hboundary.le, hboundary⟩

theorem Stands.advance (h : Stands text t c) (n : Nat) :
    Stands text
      (Track.note ⟨t.offset + offsetAt c.rest n, t.acts⟩
        (.place text (t.offset + offsetAt c.rest n)))
      (c.advance n) := by
  obtain ⟨front, rfl, hoffset⟩ := h.exists_front
  refine ⟨⟨front ++ String.ofList (c.rest.take n), ?_, ?_⟩, ?_, ?_⟩
  · rw [String.append_assoc, ← String.ofList_append, Cursor.advance, List.take_append_drop]
  · rw [String.utf8ByteSize_append, Text.utf8ByteSize_ofList, hoffset]
    rfl
  · exact congrArg (· + offsetAt c.rest n) h.offset_eq
  · refine List.forall_mem_cons.mpr ⟨?_, h.sound⟩
    rw [hoffset]
    exact isSound_place front c.rest n

theorem Cursor.advance_advance (c : Cursor) (n m : Nat) :
    (c.advance n).advance m = c.advance (n + m) := by
  simp only [Cursor.advance, List.drop_drop, Cursor.mk.injEq, and_true]
  rw [List.take_add, Text.byteLength_append]
  omega

/-! ## Rules -/

theorem ByteScan.bind_run {x : ByteScan α} {f : α → ByteScan β} {a : α} {t' : Track}
    (h : x text t = (.ok a, t')) : (x >>= f) text t = f a text t' := by
  simp only [bind, ReaderT.bind, ExceptT.bind, ExceptT.mk, StateT.bind, h]
  rfl

theorem ByteScan.bind_run_error {x : ByteScan α} {f : α → ByteScan β} {stop : Stop} {t' : Track}
    (h : x text t = (.error stop, t')) : (x >>= f) text t = (.error stop, t') := by
  simp only [bind, ReaderT.bind, ExceptT.bind, ExceptT.mk, StateT.bind, h]
  rfl

theorem Scan.bind_run {x : Scan α} {f : α → Scan β} {a : α} {c' : Cursor}
    (h : x c = .ok (a, c')) : (x >>= f) c = f a c' := by
  simp only [Bind.bind, StateT.bind, h]
  rfl

theorem Scan.bind_run_error {x : Scan α} {f : α → Scan β} {fault : Fault}
    (h : x c = .error fault) : (x >>= f) c = .error fault := by
  simp only [Bind.bind, StateT.bind, h]
  rfl

theorem Scan.rest_bind_run (f : List Char → Scan β) (c : Cursor) :
    (Scan.rest >>= f) c = f c.rest c := rfl

theorem RetracesOn.pure (a : α) : RetracesOn s (pure a : ByteScan α) (pure a) :=
  fun _ _ _ _ h => .ok h

theorem Retraces.pure (a : α) : Retraces (pure a : ByteScan α) (pure a) := fun _ => .pure a

/-- The second reader may rely on where the first one has come to. -/
theorem RetracesOn.bind {x : ByteScan α} {y : Scan α} {f : α → ByteScan β} {g : α → Scan β}
    (hx : RetracesOn s x y)
    (hf : ∀ a c c', c.rest = s → y c = .ok (a, c') → RetracesOn c'.rest (f a) (g a)) :
    RetracesOn s (x >>= f) (y >>= g) := by
  intro text t c hs h
  have hagrees := hx text t c hs h
  rcases hread : y c with fault | ⟨a, c'⟩
  · rw [hread] at hagrees
    obtain ⟨t', hrun, hsound⟩ := hagrees.exists_error
    rw [ByteScan.bind_run_error hrun, Scan.bind_run_error hread]
    exact .fault hsound
  · rw [hread] at hagrees
    obtain ⟨t', hrun, h'⟩ := hagrees.exists_ok
    rw [ByteScan.bind_run hrun, Scan.bind_run hread]
    exact hf a c c' hs hread text t' c' rfl h'

theorem Retraces.bind {x : ByteScan α} {y : Scan α} {f : α → ByteScan β} {g : α → Scan β}
    (hx : Retraces x y) (hf : ∀ a, Retraces (f a) (g a)) : Retraces (x >>= f) (y >>= g) :=
  fun s => (hx s).bind fun a _ c' _ _ => hf a c'.rest

theorem RetracesOn.congr {x : ByteScan α} {y y' : Scan α} (h : RetracesOn s x y)
    (hy : ∀ c, y c = y' c) : RetracesOn s x y' := by
  intro text t c hs hstands
  rw [← hy]
  exact h text t c hs hstands

theorem RetracesOn.ite {p : Prop} [Decidable p] {x x' : ByteScan α} {y y' : Scan α}
    (hx : p → RetracesOn s x y) (hx' : ¬ p → RetracesOn s x' y') :
    RetracesOn s (if p then x else x') (if p then y else y') := by
  split
  · next h => exact hx h
  · next h => exact hx' h

theorem Retraces.ite {p : Prop} [Decidable p] {x x' : ByteScan α} {y y' : Scan α}
    (hx : Retraces x y) (hx' : Retraces x' y') :
    Retraces (if p then x else x') (if p then y else y') :=
  fun s => .ite (fun _ => hx s) fun _ => hx' s

/-! ## Moving and cutting -/

namespace ByteScan

theorem cut_run (u v w : String) :
    cut (u ++ v ++ w) u.utf8ByteSize (u.utf8ByteSize + v.utf8ByteSize) text t =
      (.ok v,
        t.note (.cut (u ++ v ++ w) u.utf8ByteSize (u.utf8ByteSize + v.utf8ByteSize))) := by
  have hslice := Text.slice?_append u v w
  unfold cut
  rw [hslice]
  rfl

theorem isSound_cut (u v w : String) :
    (Act.cut (u ++ v ++ w) u.utf8ByteSize (u.utf8ByteSize + v.utf8ByteSize)).IsSound := by
  refine ⟨Nat.le_add_right .., ?_, Text.isBoundary_append_append u v w⟩
  rw [String.append_assoc]
  exact Text.isBoundary_append ..

theorem retracesOn_cut {whole : String} {start stop : Nat} {f : String → ByteScan β} {y : Scan β}
    (u v w : List Char) (hwhole : whole.toList = u ++ v ++ w) (hstart : start = Text.byteLength u)
    (hstop : stop = Text.byteLength (u ++ v)) (hf : RetracesOn s (f (String.ofList v)) y) :
    RetracesOn s (cut whole start stop >>= f) y := by
  have hwhole : whole = String.ofList u ++ String.ofList v ++ String.ofList w := by
    rw [← String.ofList_append, ← String.ofList_append, ← hwhole, String.ofList_toList]
  rw [← Text.utf8ByteSize_ofList] at hstart
  rw [Text.byteLength_append, ← Text.utf8ByteSize_ofList, ← Text.utf8ByteSize_ofList] at hstop
  subst hwhole hstart hstop
  intro text t c hs h
  rw [bind_run (cut_run _ _ _)]
  exact hf text _ c hs (h.record (isSound_cut _ _ _))

/-- A cut from the beginning of a text. -/
theorem retracesOn_cut_front {f : String → ByteScan β} {y : Scan β} {u : List Char} {n : Nat}
    (hf : RetracesOn s (f (String.ofList (u.take n))) y) :
    RetracesOn s (cut (String.ofList u) 0 (offsetAt u n) >>= f) y := by
  apply retracesOn_cut [] (u.take n) (u.drop n) _ rfl rfl hf
  rw [String.toList_ofList, List.nil_append, List.take_append_drop]

theorem retracesOn_cut_front_last {u : List Char} {n : Nat} :
    RetracesOn s (cut (String.ofList u) 0 (offsetAt u n)) (pure (String.ofList (u.take n))) := by
  rw [← bind_pure (cut _ _ _)]
  exact retracesOn_cut_front (.pure _)

/-- What stands ahead of the cursor may be cut out up to any character. -/
theorem cut_ahead_run (h : Stands text t c) (n : Nat) :
    ∃ t', cut text t.offset (t.offset + offsetAt c.rest n) text t =
        (.ok (String.ofList (c.rest.take n)), t') ∧ Stands text t' c := by
  obtain ⟨front, htext, hoffset⟩ := h.exists_front
  have hrun : cut _ _ _ text t = _ :=
    cut_run front (String.ofList (c.rest.take n)) (String.ofList (c.rest.drop n))
  have hsound :=
    isSound_cut front (String.ofList (c.rest.take n)) (String.ofList (c.rest.drop n))
  rw [String.append_assoc, ← String.ofList_append, List.take_append_drop, ← htext,
    Text.utf8ByteSize_ofList, ← hoffset] at hrun hsound
  exact ⟨_, hrun, h.record hsound⟩

theorem rest_run (h : Stands text t c) :
    ∃ t', rest text t = (.ok (String.ofList c.rest), t') ∧ Stands text t' c := by
  have hrun := cut_ahead_run h c.rest.length
  rw [offsetAt, List.take_length, ← h.size_eq] at hrun
  exact hrun

/-- The text that is left may be cut out at any time. -/
theorem retracesOn_rest {f : String → ByteScan β} {y : Scan β}
    (hf : RetracesOn s (f (String.ofList s)) y) : RetracesOn s (rest >>= f) y := by
  rintro text t c rfl h
  obtain ⟨t', hrun, h'⟩ := rest_run h
  rw [bind_run hrun]
  exact hf text t' c rfl h'

theorem retracesOn_scan_rest {x : ByteScan β} {g : List Char → Scan β} (h : RetracesOn s x (g s)) :
    RetracesOn s x (Scan.rest >>= g) := by
  rintro text t c rfl hstands
  exact h text t c rfl hstands

theorem retracesOn_forward {f : Unit → ByteScan β} {g : List Char → Scan β} {n size : Nat}
    (hsize : size = offsetAt s n) (hf : RetracesOn (s.drop n) (f ()) (g (s.take n))) :
    RetracesOn s (forward size >>= f) (Scan.take n >>= g) := by
  subst hsize
  rintro text t c rfl h
  exact hf text _ _ rfl (h.advance n)

/-- The cursor passes at once what is read in two steps. -/
theorem retracesOn_forward_two {f : Unit → ByteScan β} {g : List Char → List Char → Scan β}
    {n m size : Nat} (hsize : size = offsetAt s (n + m))
    (hf : RetracesOn (s.drop (n + m)) (f ()) (g (s.take n) ((s.drop n).take m))) :
    RetracesOn s (forward size >>= f) (do let u ← Scan.take n; let v ← Scan.take m; g u v) := by
  subst hsize
  rintro text t c rfl h
  have hrun : (do let u ← Scan.take n; let v ← Scan.take m; g u v) c =
      g (c.rest.take n) ((c.rest.drop n).take m) (c.advance (n + m)) := by
    rw [← Cursor.advance_advance]
    rfl
  rw [hrun]
  exact hf text _ _ rfl (h.advance (n + m))

theorem byteLength_eq_zero_iff {s : List Char} : Text.byteLength s = 0 ↔ s = [] := by
  constructor
  · intro h
    have hlength := Text.length_le_byteLength s
    exact List.eq_nil_of_length_eq_zero (by omega)
  · rintro rfl
    rfl

theorem retracesOn_isDone {f : Bool → ByteScan β} {y : Scan β}
    (hf : RetracesOn s (f (decide (s = []))) y) : RetracesOn s (isDone >>= f) y := by
  rintro text t c rfl h
  have hdone : text.utf8ByteSize ≤ t.offset ↔ c.rest = [] := by
    rw [h.size_eq, ← byteLength_eq_zero_iff]
    omega
  have hrun : isDone text t = (.ok (decide (text.utf8ByteSize ≤ t.offset)), t) := rfl
  rw [decide_eq_decide.mpr hdone] at hrun
  rw [bind_run hrun]
  exact hf text t c rfl h

theorem retraces_fail (complaint : Complaint) :
    Retraces (fail complaint : ByteScan α) (Scan.fail complaint) := by
  rintro s text t c rfl h
  obtain ⟨t', hrun, h'⟩ := rest_run h
  have hfail : (fail complaint : ByteScan α) text t =
      (.error (.fault (.malformed complaint t'.offset (String.ofList (c.rest.take 24)))), t') := by
    unfold fail
    rw [bind_run hrun, String.toList_ofList]
    rfl
  rw [hfail, h'.offset_eq]
  exact .fault h'.sound

theorem retraces_throw (fault : Fault) :
    Retraces (throw (.fault fault) : ByteScan α) (throw fault) :=
  fun _ _ _ _ _ h => .fault h.sound

/-! ## Tokens and spaces -/

theorem offsetAt_of_isPrefix {s front : List Char} (h : front <+: s) :
    offsetAt s front.length = Text.byteLength front := by
  obtain ⟨left, rfl⟩ := h
  exact Text.offsetAt_append_length front left

theorem utf8ByteSize_eq (token : String) : token.utf8ByteSize = Text.byteLength token.toList := by
  rw [← Text.utf8ByteSize_ofList, String.ofList_toList]

theorem retracesOn_at? {token : String} {f : Bool → ByteScan β} {y : Scan β}
    (hf : RetracesOn s (f (token.toList.isPrefixOf s)) y) : RetracesOn s (at? token >>= f) y := by
  unfold at?
  rw [bind_assoc]
  apply retracesOn_rest
  rw [Text.isPrefixOf_bytes, String.toList_ofList, pure_bind]
  exact hf

theorem retracesOn_scan_at? {token : String} {x : ByteScan β} {g : Bool → Scan β}
    (h : RetracesOn s x (g (token.toList.isPrefixOf s))) :
    RetracesOn s x (Scan.at? token >>= g) := by
  rintro text t c rfl hstands
  exact h text t c rfl hstands

theorem retraces_eat (token : String) : Retraces (eat token) (Scan.eat token) := by
  intro s
  apply retracesOn_at?
  cases hbegins : token.toList.isPrefixOf s with
  | false =>
      rintro text t c rfl h
      rw [Scan.eat, hbegins]
      exact .ok h
  | true =>
      have hsize := offsetAt_of_isPrefix (List.isPrefixOf_iff_prefix.mp hbegins)
      rintro text t c rfl h
      rw [Scan.eat, hbegins, utf8ByteSize_eq, ← hsize]
      exact .ok (h.advance _)

theorem retraces_expect (token : String) : Retraces (expect token) (Scan.expect token) :=
  (retraces_eat token).bind fun _ => .ite (.pure ()) (retraces_fail _)

theorem retraces_space : Retraces space Scan.space := by
  intro s
  unfold Scan.space Scan.takeWhile
  rw [bind_assoc]
  refine retracesOn_rest (retracesOn_scan_rest ?_)
  have hsplit : Text.byteLength (s.takeWhile Text.isSpace ++ s.dropWhile Text.isSpace) =
      Text.byteLength s := congrArg Text.byteLength List.takeWhile_append_dropWhile
  rw [Text.byteLength_append] at hsplit
  have hpassed := offsetAt_of_isPrefix (List.takeWhile_prefix Text.isSpace (l := s))
  have hmoved : (String.ofList s).utf8ByteSize -
      (String.ofList (s.dropWhile Text.isSpace)).utf8ByteSize =
        offsetAt s (s.takeWhile Text.isSpace).length := by
    rw [Text.utf8ByteSize_ofList, Text.utf8ByteSize_ofList, hpassed]
    omega
  have hfound : ((String.ofList (s.dropWhile Text.isSpace)).utf8ByteSize ≠
      (String.ofList s).utf8ByteSize) ↔ s.takeWhile Text.isSpace ≠ [] := by
    rw [Text.utf8ByteSize_ofList, Text.utf8ByteSize_ofList, ne_eq, ne_eq,
      ← byteLength_eq_zero_iff]
    omega
  simp only [String.toList_ofList, hfound]
  apply retracesOn_forward hmoved
  rw [← List.prefix_iff_eq_take.mp (List.takeWhile_prefix Text.isSpace)]
  exact .pure _

theorem retraces_requireSpace : Retraces requireSpace Scan.requireSpace :=
  retraces_space.bind fun _ => .ite (.pure ()) (retraces_fail _)

theorem retraces_afterSpace {x : ByteScan Bool} {y : Scan Bool} (h : Retraces x y) :
    Retraces (space <&&> x) (Scan.afterSpace y) := by
  refine retraces_space.bind fun found => ?_
  cases found with
  | false => exact .pure false
  | true => exact h

theorem retraces_atQuote : Retraces atQuote Scan.atQuote := by
  intro s
  refine retracesOn_rest (retracesOn_scan_rest ?_)
  rw [String.toList_ofList]
  exact .pure _

/-! ## Names and literals -/

theorem namePrefix_isPrefix (s : List Char) : Scan.namePrefix s <+: s := by
  cases s with
  | nil => exact List.prefix_rfl
  | cons c s =>
      rw [Scan.namePrefix]
      split
      · exact List.cons_prefix_cons.mpr ⟨rfl, List.takeWhile_prefix _⟩
      · exact List.nil_prefix

theorem retraces_name : Retraces name Scan.name := by
  intro s
  have hbegins := namePrefix_isPrefix s
  refine retracesOn_rest (retracesOn_scan_rest ?_)
  rw [String.toList_ofList]
  refine .ite (fun _ => retraces_fail _ s) fun _ => ?_
  rw [← offsetAt_of_isPrefix hbegins]
  apply retracesOn_forward rfl
  exact retracesOn_cut_front_last

theorem offsetAt_add (s : List Char) (n m : Nat) :
    offsetAt s (n + m) = offsetAt s n + offsetAt (s.drop n) m := by
  rw [offsetAt, List.take_add, Text.byteLength_append]
  rfl

/-- The search for a pattern finds it with what stands before and behind it. -/
theorem isPrefix_of_indexFrom? {pattern : List Char} {n : Nat} {s : List Char} (front : List Char)
    (h : Scan.indexFrom? pattern front.length s = some n) : pattern <+: (front ++ s).drop n := by
  induction s generalizing front with
  | nil =>
      rw [Scan.indexFrom?] at h
      split at h
      · next hnil =>
          rw [hnil]
          exact List.nil_prefix
      · cases h
  | cons c s ih =>
      rw [Scan.indexFrom?] at h
      split at h
      · next hhere =>
          cases h
          rw [List.drop_left]
          exact List.isPrefixOf_iff_prefix.mp hhere
      · have hlater := ih (front ++ [c]) (by simpa using h)
        simpa using hlater

theorem offsetAt_add_length {pattern : List Char} {n : Nat} (h : pattern <+: s.drop n) :
    offsetAt s (n + pattern.length) = offsetAt s n + Text.byteLength pattern := by
  rw [offsetAt_add, offsetAt_of_isPrefix h]

theorem retraces_upTo {terminator : String} (hne : terminator ≠ "") :
    Retraces (upTo terminator) (Scan.upTo terminator) := by
  intro s
  refine retracesOn_rest (retracesOn_scan_rest ?_)
  rw [Text.offsetOf?_eq hne]
  cases hfound : Scan.indexFrom? terminator.toList 0 s with
  | none => exact retraces_fail _ s
  | some n =>
      have hpassed := offsetAt_add_length (isPrefix_of_indexFrom? [] hfound)
      rw [← utf8ByteSize_eq] at hpassed
      apply retracesOn_forward_two hpassed.symm
      exact retracesOn_cut_front_last

theorem isQuote_iff {c : Char} : Scan.isQuote c = true ↔ c = '"' ∨ c = '\'' := by
  rw [Scan.isQuote, Bool.or_eq_true, beq_iff_eq, beq_iff_eq]

theorem toNat_of_isQuote {quote : Char} (h : Scan.isQuote quote = true) : quote.toNat < 128 := by
  rcases isQuote_iff.mp h with rfl | rfl <;> decide

theorem retraces_literal : Retraces literal Scan.literal := by
  intro s
  refine retracesOn_rest (retracesOn_scan_rest ?_)
  rw [String.toList_ofList]
  cases s with
  | nil => exact retraces_fail _ []
  | cons quote s =>
      refine .ite (fun hquote => ?_) fun _ => retraces_fail _ _
      have hsize := Text.utf8Size_of_ascii (toNat_of_isQuote hquote)
      have hone : 1 = offsetAt (quote :: s) 1 := hsize.symm
      have hne : String.singleton quote ≠ "" := by simp
      apply retracesOn_forward hone
      apply retracesOn_rest
      rw [List.drop_succ_cons, List.drop_zero, Text.offsetOf?_eq hne, String.toList_singleton]
      cases hfound : Scan.indexFrom? [quote] 0 s with
      | none => exact retraces_fail _ s
      | some n =>
          have hpassed := offsetAt_add_length (isPrefix_of_indexFrom? [] hfound)
          rw [Text.byteLength_cons, hsize] at hpassed
          apply retracesOn_forward_two hpassed.symm
          exact retracesOn_cut_front_last

/-! ## Bodies of declarations -/

theorem closeOffset?_eq (quote : Option Char) (front s : List Char) :
    closeOffset? quote (Text.byteLength front) s =
      (Scan.closeFrom? quote front.length s).map (offsetAt (front ++ s)) := by
  induction s generalizing quote front with
  | nil => cases quote <;> rfl
  | cons c s ih =>
      have hlater (quote : Option Char) := ih quote (front ++ [c])
      simp only [Text.byteLength_append, Text.byteLength_cons, Text.byteLength_nil, Nat.add_zero,
        List.length_append, List.length_singleton, List.append_assoc,
        List.singleton_append] at hlater
      cases quote with
      | some q => rw [closeOffset?, Scan.closeFrom?, hlater]
      | none =>
          rw [closeOffset?, Scan.closeFrom?]
          split
          · simp [Text.offsetAt_append_length]
          · exact hlater _

theorem isPrefix_of_closeFrom? {n : Nat} {s : List Char} (quote : Option Char) (front : List Char)
    (h : Scan.closeFrom? quote front.length s = some n) : ['>'] <+: (front ++ s).drop n := by
  induction s generalizing quote front with
  | nil => cases quote <;> cases h
  | cons c s ih =>
      have hlater (quote : Option Char)
          (h : Scan.closeFrom? quote (front.length + 1) s = some n) :
          ['>'] <+: (front ++ c :: s).drop n := by
        have hnext := ih quote (front ++ [c]) (by simpa using h)
        simpa using hnext
      cases quote with
      | some q => exact hlater _ h
      | none =>
          rw [Scan.closeFrom?] at h
          split at h
          · next hc =>
              cases h
              rw [hc, List.drop_left]
              exact List.prefix_append ['>'] s
          · exact hlater _ h

theorem retraces_upToClose : Retraces upToClose Scan.upToClose := by
  intro s
  refine retracesOn_rest (retracesOn_scan_rest ?_)
  have hclose := closeOffset?_eq none [] s
  rw [String.toList_ofList]
  simp only [Text.byteLength_nil, List.length_nil, List.nil_append] at hclose
  rw [hclose]
  cases hfound : Scan.closeFrom? none 0 s with
  | none => exact retraces_fail _ s
  | some n =>
      have hpassed := offsetAt_add_length (isPrefix_of_closeFrom? none [] hfound)
      apply retracesOn_forward_two hpassed.symm
      apply retracesOn_cut_front
      rw [Text.trimmed, String.toList_ofList]
      exact .pure _

end ByteScan

end XmlBounds.Dtd
