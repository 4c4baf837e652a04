import XmlBounds.Check.Pass
import XmlBounds.Contract

/-!
# The count of expansions

Only counting an expansion changes the count, and what is counted stays within the limit or fails.
-/

namespace XmlBounds.Checked

/-- A success leaves the count of expansions as it is. -/
def steady : Contract Pass := ⟨fun p q => q.expansions = p.expansions, fun _ _ => True⟩

instance : steady.Composes where
  refl _ := rfl
  trans h h' := h'.trans h
  stop _ := trivial
  after _ _ := trivial

theorem steady_accounted {α : Type} (x : Accounted α) : steady.Holds (accounted x) where
  of_ok {p a q} h := by
    simp only [accounted, Accounted.within] at h
    split at h
    · cases h
      rfl
    · cases h
  of_error _ := trivial

theorem steady_dispatch (ctx : CheckContext) (e : Dtd.Event) : steady.Holds (dispatch ctx e) := by
  refine (steady_accounted _).bind fun out => ?_
  cases out with
  | none => exact Contract.holds_pure _
  | some e' => exact Contract.holds_modify fun _ => rfl

/-- Whoever raises a diagnostic does not go on. -/
theorem not_ok_raise {α : Type} {ctx : CheckContext} {d : Diagnostic} {pass pass' : Pass} {a : α} :
    raise ctx d pass ≠ .ok a pass' := by
  intro h
  simp only [raise, accounted, Accounted.within, Accounted.raise_apply] at h
  cases h

/-- A check that goes through has found nothing, and leaves everything as it is. -/
theorem eq_none_of_raiseIf {ctx : CheckContext} {found : Option Diagnostic} {pass pass' : Pass}
    (h : raiseIf ctx found pass = .ok () pass') : found = none ∧ pass' = pass := by
  cases found with
  | none =>
      cases h
      exact ⟨rfl, rfl⟩
  | some d => exact absurd h not_ok_raise

/-- A count that is accepted has grown by one and is within the limit. -/
theorem expansions_of_countExpansion {ctx : CheckContext} {kind : ReferenceKind} {name : String}
    {entity : Dtd.EntityDecl} {pass pass' : Pass}
    (h : countExpansion ctx kind name entity pass = .ok () pass') :
    pass'.expansions = pass.expansions + 1 ∧
      pass'.expansions ≤ (ctx.policy.limit .entityExpansions).toNat := by
  rw [countExpansion_apply] at h
  obtain ⟨_, mid, hm, hnote⟩ := ok_of_bind h
  obtain ⟨hfound, rfl⟩ := eq_none_of_raiseIf hm
  have hle : pass.expansions + 1 ≤ (ctx.policy.limit .entityExpansions).toNat := by
    simpa [Policy.checkExpansions] using hfound
  cases hnote
  exact ⟨rfl, hle⟩

theorem expansions_of_fetchEntity {ctx : CheckContext} {kind : ReferenceKind} {name : String}
    {entity : Dtd.EntityDecl} {publicId base : Option String} {systemId : String}
    {result : String × Option String} {pass pass' : Pass}
    (h : fetchEntity ctx kind name entity publicId systemId base pass = .ok result pass') :
    pass'.expansions = pass.expansions + 1 ∧
      pass'.expansions ≤ (ctx.policy.limit .entityExpansions).toNat := by
  obtain ⟨_, mid, hm, hfetch⟩ := ok_of_bind h
  have hf : pass'.expansions = mid.expansions := (steady_accounted _).of_ok hfetch
  rw [hf]
  exact expansions_of_countExpansion hm

end XmlBounds.Checked
