import XmlBounds.Dtd.Subset

/-!
# The base of a declaration

A text is scanned with a base, and whatever external entities it declares are relative to that.
-/

namespace XmlBounds.Dtd

/-- If the event declares an external entity, the entity is relative to the base. -/
def Event.IsBasedOn (base : Option String) : Event → Prop
  | .externalEntity _ _ _ base' => base' = base
  | _ => True

namespace Scan

variable {α β : Type} {P : α → Prop} {Q : β → Prop} {base : Option String}

/-- Whatever the reader gives has the property. -/
def Yields (x : Scan α) (P : α → Prop) : Prop := ∀ c a c', x c = .ok (a, c') → P a

theorem Yields.pure {a : α} (h : P a) : Yields (pure a : Scan α) P := by
  intro c b c' hb
  cases hb
  exact h

theorem Yields.fail (complaint : Complaint) : Yields (fail complaint : Scan α) P := by
  intro c a c' h
  cases h

theorem Yields.bind {x : Scan α} {f : α → Scan β} (hx : Yields x P)
    (hf : ∀ a, P a → Yields (f a) Q) : Yields (x >>= f) Q := by
  intro c b c'' h
  obtain ⟨a, c', ha, hb⟩ := bind_eq_ok h
  exact hf a (hx c a c' ha) c' b c'' hb

/-- It is enough to know the end of a sequence. -/
theorem Yields.last {x : Scan α} {f : α → Scan β} (hf : ∀ a, Yields (f a) Q) :
    Yields (x >>= f) Q :=
  .bind (P := fun _ => True) (fun _ _ _ _ => trivial) fun a _ => hf a

theorem Yields.ite {p : Prop} [Decidable p] {x y : Scan α} (hx : Yields x P) (hy : Yields y P) :
    Yields (if p then x else y) P := by
  split
  · exact hx
  · exact hy

theorem yields_externalEntity (entity : String) :
    Yields (externalEntity base entity) (·.IsBasedOn base) := by
  refine .last fun ids => .last fun isUnparsed => .ite (.ite (.fail _) ?_) ?_
  · exact .last fun _ => .last fun _ => .last fun _ => .pure trivial
  · exact .last fun _ => .pure rfl

theorem yields_entity : Yields (entity base) (·.IsBasedOn base) := by
  refine .last fun name => .last fun _ => .last fun isInternal => .ite ?_ ?_
  · exact .last fun _ => .last fun _ => .last fun _ => .pure trivial
  · exact yields_externalEntity name

theorem yields_single {x : Scan Event} (depth : Nat) (h : Yields x (·.IsBasedOn base)) :
    Yields (single depth x) fun found => ∀ e ∈ found.1, e.IsBasedOn base :=
  .bind h fun e he => .pure (by simpa using he)

theorem yields_conditional (depth : Nat) :
    Yields (conditional depth) fun found => ∀ e ∈ found.1, e.IsBasedOn base := by
  refine .last fun _ => .last fun isIncluded => .ite ?_ ?_
  · exact .last fun _ => .last fun _ => .pure (by simp [Event.IsBasedOn])
  · refine .last fun isIgnored => .ite ?_ (.fail _)
    exact .last fun _ => .last fun _ => .last fun _ => .pure (by simp [Event.IsBasedOn])

theorem yields_sectionEnd (depth : Nat) :
    Yields (sectionEnd depth) fun found => ∀ e ∈ found.1, e.IsBasedOn base :=
  .ite (.fail _) (.pure (by simp [Event.IsBasedOn]))

theorem yields_markup (depth : Nat) :
    Yields (markup base depth) fun found => ∀ e ∈ found.1, e.IsBasedOn base := by
  refine .last fun _ => .ite (yields_single _ (.last fun _ => .pure trivial)) ?_
  refine .last fun _ => .ite (yields_single _ (.last fun _ => .pure trivial)) ?_
  refine .last fun _ => .ite (yields_conditional _) ?_
  refine .last fun _ => .ite (yields_sectionEnd _) ?_
  refine .last fun _ => .ite (yields_single _ yields_entity) ?_
  refine .last fun _ => .ite (yields_single _ ?_) ?_
  · exact .last fun _ => .last fun _ => .last fun _ => .pure trivial
  refine .last fun _ => .ite (yields_single _ ?_) ?_
  · exact .last fun _ => .last fun _ => .last fun _ => .pure trivial
  refine .last fun _ => .ite (yields_single _ ?_) ?_
  · exact .last fun _ => .last fun _ => .last fun _ => .last fun _ => .last fun _ => .pure trivial
  refine .last fun _ => .ite (yields_single _ ?_) (.fail _)
  exact .last fun _ => .last fun _ => .pure trivial

end Scan

theorem basedOn_of_scanFrom {base : Option String} {depth : Nat} {c : Cursor}
    {events : List Event} (h : scanFrom base depth c = .ok events) :
    ∀ e ∈ events, e.IsBasedOn base := by
  induction depth, c using scanFrom.induct base generalizing events with
  | case1 c hrest =>
      rw [scanFrom, if_pos hrest] at h
      cases h
      simp
  | case2 depth c hrest hopen =>
      rw [scanFrom, if_pos hrest, if_neg hopen] at h
      cases h
  | case3 depth c hrest fault hmarkup =>
      rw [scanFrom, if_neg hrest, hmarkup] at h
      cases h
  | case4 depth c hrest found depth' c' hmarkup ih =>
      rw [scanFrom, if_neg hrest, hmarkup] at h
      cases hlater : scanFrom base depth' c' with
      | error fault =>
          simp only [hlater] at h
          cases h
      | ok later =>
          simp only [hlater] at h
          cases h
          intro e he
          rcases List.mem_append.mp he with he | he
          · exact Scan.yields_markup depth _ _ _ hmarkup e he
          · exact ih hlater e he

/-- The external entities that a text declares have the base that it is scanned with. -/
theorem basedOn_of_scan {text : String} {base : Option String} {events : List Event}
    (h : scan text base = .ok events) : ∀ e ∈ events, e.IsBasedOn base := basedOn_of_scanFrom h

end XmlBounds.Dtd
