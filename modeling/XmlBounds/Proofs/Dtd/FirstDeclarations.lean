import Mathlib.Data.Finset.Card
import XmlBounds.Dtd.EntityTable

/-!
# First declarations

Of several declarations of a name only the first counts. What a table holds after some events is
told by the declarations among them: what each name is bound to, in what order, and how many
entities there are.
-/

namespace XmlBounds.Dtd

/-- The declarations among events. -/
def declarations (events : List Event) : List EntityDecl := events.filterMap EntityTable.declOf?

theorem declarations_cons_of_none {e : Event} {events : List Event}
    (h : EntityTable.declOf? e = none) : declarations (e :: events) = declarations events :=
  List.filterMap_cons_none h

theorem declarations_cons_of_some {e : Event} {events : List Event} {d : EntityDecl}
    (h : EntityTable.declOf? e = some d) :
    declarations (e :: events) = d :: declarations events :=
  List.filterMap_cons_some h

/-- The first declaration of each name, in order. -/
def firsts : List EntityDecl → List EntityDecl
  | [] => []
  | d :: rest => d :: (firsts rest).filter (·.name ≠ d.name)

theorem firsts_sublist (ds : List EntityDecl) : (firsts ds).Sublist ds := by
  induction ds with
  | nil => exact .slnil
  | cons d ds ih => exact (List.filter_sublist.trans ih).cons_cons d

theorem exists_first_of_mem {ds : List EntityDecl} {d : EntityDecl} (h : d ∈ ds) :
    ∃ first ∈ firsts ds, first.name = d.name := by
  induction ds with
  | nil => cases h
  | cons d' ds ih =>
      by_cases hname : d'.name = d.name
      · exact ⟨d', List.mem_cons_self, hname⟩
      · have hmem : d ∈ ds := by
          rcases List.mem_cons.mp h with rfl | hmem
          · exact absurd rfl hname
          · exact hmem
        obtain ⟨first, hfirst, heq⟩ := ih hmem
        refine ⟨first, List.mem_cons_of_mem _ (List.mem_filter.mpr ⟨hfirst, ?_⟩), heq⟩
        simpa [heq] using Ne.symm hname

/-- No name comes twice among the first declarations. -/
theorem nodup_names_firsts (ds : List EntityDecl) : ((firsts ds).map (·.name)).Nodup := by
  induction ds with
  | nil => exact List.nodup_nil
  | cons d ds ih =>
      refine List.nodup_cons.mpr ⟨?_, ih.sublist (List.filter_sublist.map _)⟩
      simp

namespace EntityTable

variable {t : EntityTable} {e : Event} {d : EntityDecl}

theorem find?_congr {t' : EntityTable} (h : t'.entities = t.entities) (name : String) :
    t'.find? name = t.find? name := by
  rw [find?, find?, h]

theorem handle_of_declOf? (h : declOf? e = some d) : t.handle e = t.declare d := by
  simp only [handle, h]

theorem entities_handle_of_declOf? (h : declOf? e = none) :
    (t.handle e).entities = t.entities := by
  cases e <;> first | rfl | cases h

theorem entities_declare (t : EntityTable) (d : EntityDecl) :
    (t.declare d).entities = t.entities ++ if t.find? d.name = none then [d] else [] := by
  unfold declare
  cases t.find? d.name <;> simp

theorem find?_foldl_handle (t : EntityTable) (events : List Event) (name : String) :
    (events.foldl handle t).find? name =
      (t.find? name).or ((declarations events).find? (·.name = name)) := by
  induction events generalizing t with
  | nil => simp [declarations]
  | cons e events ih =>
      rw [List.foldl_cons, ih]
      cases he : declOf? e with
      | none =>
          rw [find?_congr (entities_handle_of_declOf? he), declarations_cons_of_none he]
      | some d =>
          rw [handle_of_declOf? he, find?_declare, declarations_cons_of_some he, Option.or_assoc,
            List.find?_cons]
          by_cases hname : d.name = name <;> simp [hname]

/-- A table takes in the first declarations of those names that it has not yet. -/
theorem entities_foldl_handle (t : EntityTable) (events : List Event) :
    (events.foldl handle t).entities =
      t.entities ++ (firsts (declarations events)).filter (t.find? ·.name = none) := by
  induction events generalizing t with
  | nil => simp [declarations, firsts]
  | cons e events ih =>
      rw [List.foldl_cons, ih]
      cases he : declOf? e with
      | none =>
          have hsame : (t.handle e).entities = t.entities := entities_handle_of_declOf? he
          simp only [hsame, find?_congr hsame, declarations_cons_of_none he]
      | some d =>
          rw [handle_of_declOf? he, entities_declare, declarations_cons_of_some he, firsts,
            List.append_assoc, List.filter_cons, List.filter_filter]
          have hlater (d' : EntityDecl) : decide ((t.declare d).find? d'.name = none) =
              (decide (t.find? d'.name = none) && decide (d'.name ≠ d.name)) := by
            rw [find?_declare]
            by_cases hname : d.name = d'.name <;> simp [hname, eq_comm]
          simp only [hlater]
          by_cases hnew : t.find? d.name = none <;> simp [hnew]

/-- What was declared, each time by the first declaration of its name that was met. -/
structure Binds (t : EntityTable) (declared : List EntityDecl) (t' : EntityTable) : Prop where
  /-- Each name is bound as it was, or else to its first declaration. -/
  bound : ∀ name, t'.find? name = (t.find? name).or (declared.find? (·.name = name))
  /-- The entities are those that were there and then the new ones, in the order in which they were
  first declared. -/
  ordered : t'.entities = t.entities ++ (firsts declared).filter (t.find? ·.name = none)
  /-- There are as many new entities as there are different new names. -/
  counted : t'.size = t.size + ((declared.map (·.name)).toFinset.filter (t.find? · = none)).card

theorem binds_foldl_handle (t : EntityTable) (events : List Event) :
    Binds t (declarations events) (events.foldl handle t) where
  bound := find?_foldl_handle t events
  ordered := entities_foldl_handle t events
  counted := by
    have hnames :
        ((declarations events).map (·.name)).toFinset.filter (t.find? · = none) =
          (((firsts (declarations events)).filter (t.find? ·.name = none)).map
            (·.name)).toFinset := by
      ext name
      simp only [Finset.mem_filter, List.mem_toFinset, List.mem_map, List.mem_filter,
        decide_eq_true_eq]
      constructor
      · rintro ⟨⟨d, hd, rfl⟩, hnew⟩
        obtain ⟨first, hfirst, hname⟩ := exists_first_of_mem hd
        exact ⟨first, ⟨hfirst, hname ▸ hnew⟩, hname⟩
      · rintro ⟨d, ⟨hd, hnew⟩, rfl⟩
        exact ⟨⟨d, (firsts_sublist _).subset hd, rfl⟩, hnew⟩
    have hnodup : (((firsts (declarations events)).filter
        (t.find? ·.name = none)).map (·.name)).Nodup :=
      (nodup_names_firsts _).sublist (List.filter_sublist.map _)
    rw [hnames, List.toFinset_card_of_nodup hnodup, size, size, entities_foldl_handle,
      List.length_append, List.length_map]

end EntityTable

end XmlBounds.Dtd
