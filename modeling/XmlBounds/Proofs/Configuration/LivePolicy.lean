import XmlBounds.Proofs.Configuration.Calls
import XmlBounds.Proofs.Resolution.Writing

/-!
# The live policy after a call

After a call that succeeds, the live policy holds what was resolved, with one exception. A limit
that the caller has set to a negative number as a property resolves to zero, which should refuse
the first use; but a zero that is written to a policy is taken for a number of the caller's, and
lifts the limit.
-/

namespace XmlBounds

/-- The caller has set the limit to a negative number as a property, and has not taken it back by
writing to the policy. -/
def Overrides.Refuses (o : Overrides) (p : Policy) (s : Setting) : Prop :=
  p.isOwned s = false ∧
    ∃ k n, s = .limit k ∧ o.settings (.limit k) = some (.int n) ∧ n < 0

namespace Configuration

variable {o : Overrides} {p : Policy} {s : Setting} {v : Resolved PropertyValue}
  {live : PropertyValue}

theorem not_refuses_of_none (h : o.settings s = none) : ¬ o.Refuses p s := by
  rintro ⟨_, k, n, rfl, hset, _⟩
  rw [h] at hset
  cases hset

theorem not_refuses_access {a : AccessList} : ¬ o.Refuses p (.access a) := by
  rintro ⟨_, k, n, hk, _⟩
  cases hk

theorem live_of_limitProperty {k : LimitKind} {n : Int32}
    (hfree : p.isOwned (.limit k) = false) (hset : o.settings (.limit k) = some (.int n))
    (hkept : PropertyValue.KeptAs (.limit k) (.int (Limit.normalize n).toInt32) live) :
    live = .int (Limit.normalize n).toInt32 ∧ ¬ o.Refuses p (.limit k) ∨
      o.Refuses p (.limit k) ∧ PropertyValue.int (Limit.normalize n).toInt32 = .int 0 ∧
        live = .int 2147483647 := by
  have hlive := PropertyValue.keptAs_int hkept
  by_cases hn : n < 0
  · right
    have hzero := Limit.normalize_eq_zero_iff.mpr hn
    rw [hzero] at hlive ⊢
    exact ⟨⟨hfree, k, n, rfl, hset, hn⟩, rfl, hlive⟩
  · left
    constructor
    · have hpositive : Limit.normalize n ≠ .zero := fun h => hn (Limit.normalize_eq_zero_iff.mp h)
      rw [hlive, Limit.normalize_toInt32 hpositive]
    · rintro ⟨_, j, m, hj, hm, hneg⟩
      cases hj
      rw [hset] at hm
      cases hm
      exact hn hneg

/-- What a policy keeps of a resolved value: the value, or no limit instead of zero. -/
theorem live_of_resolvesTo (ho : Converted o) (hv : ResolvesTo o p s v)
    (hstays : v.origin = .callerPolicy → live = p.value s)
    (hkept : v.origin ≠ .callerPolicy → PropertyValue.KeptAs s v.value live) :
    live = v.value ∧ ¬ o.Refuses p s ∨
      o.Refuses p s ∧ v.value = .int 0 ∧ live = .int 2147483647 := by
  cases hv with
  | owned howned =>
      left
      refine ⟨hstays rfl, ?_⟩
      rintro ⟨hfree, _⟩
      rw [howned] at hfree
      cases hfree
  | @limitProperty k w n hfree hw hn =>
      have hint : w = .int n := by
        have hconv := ho _ _ hw
        simp only [convert, hn] at hconv
        cases hconv
        rfl
      rw [hint] at hw
      exact live_of_limitProperty hfree hw (hkept (by simp))
  | listProperty hfree hw =>
      left
      exact ⟨PropertyValue.eq_of_keptAs_access (hkept (by simp)), not_refuses_access⟩
  | @limitSource k n origin hfree hnone hpos horigin =>
      -- A number from a source is positive, so it is kept when it is normalized once more.
      left
      have hcaller : origin ≠ .callerPolicy := by
        rintro rfl
        cases horigin
      refine ⟨?_, not_refuses_of_none hnone⟩
      rw [PropertyValue.keptAs_int (hkept hcaller), Limit.toInt32_normalize_of_pos hpos]
  | @listSource a text origin hfree hnone horigin =>
      left
      have hcaller : origin ≠ .callerPolicy := by
        rintro rfl
        cases horigin
      exact ⟨PropertyValue.eq_of_keptAs_access (hkept hcaller), not_refuses_access⟩

/-- The sources of an installation without properties. -/
def silent : Sources (StateM Unit) := .ofProperties .empty .empty

/-- What comes of refusing every `maxOccurs` attribute. -/
def refusingOccurs (c : Configuration) : (Except Fault Unit × Configuration) × Unit :=
  ((Call.setProperty "jdk.xml.maxOccur" (.int (-1))).perform silent).run c ()

theorem exists_refusing : ∃ c, JustConfigured silent c ∧
    c.overrides.Refuses c.policy (.limit .maxOccurs) ∧
    (c.resolution.setting (.limit .maxOccurs)).value = .int 0 ∧
    c.policy.value (.limit .maxOccurs) = .int 2147483647 := by
  have hrun : ∃ c, (fresh silent).run () = (.ok c, ()) ∧
      (refusingOccurs c).1.1.toOption = some () ∧
      (refusingOccurs c).1.2.policy.isOwned (.limit .maxOccurs) = false ∧
      (refusingOccurs c).1.2.overrides.settings (.limit .maxOccurs) = some (.int (-1)) ∧
      ((refusingOccurs c).1.2.resolution.setting (.limit .maxOccurs)).value = .int 0 ∧
      (refusingOccurs c).1.2.policy.value (.limit .maxOccurs) = .int 2147483647 := by
    refine ⟨_, rfl, ?_⟩
    decide +kernel
  obtain ⟨c, hfresh, hok, hfree, hset, hresolved, hlive⟩ := hrun
  refine ⟨(refusingOccurs c).1.2, ?_, ?_, hresolved, hlive⟩
  · rcases hresult : refusingOccurs c with ⟨⟨_ | _, c'⟩, _⟩
    · rw [hresult] at hok
      cases hok
    · exact .call (.fresh hfresh) hresult
  · exact ⟨hfree, .maxOccurs, -1, rfl, hset, by decide⟩

/-- After a call that succeeded, the live policy has the resolved value of every setting, except a
limit that the caller has set to a negative number as a property: that one resolves to zero, and
there is no limit. -/
theorem value_eq_resolved_iff {σ : Type} {sources : Sources (StateM σ)} {c : Configuration}
    (h : JustConfigured sources c) (s : Setting) :
    (c.policy.value s = (c.resolution.setting s).value ↔ ¬ c.overrides.Refuses c.policy s) ∧
      (c.overrides.Refuses c.policy s →
        (c.resolution.setting s).value = .int 0 ∧ c.policy.value s = .int 2147483647) := by
  obtain ⟨hconv, p, hgives, happly⟩ := h.resolved
  obtain ⟨hframe, howner⟩ := Resolution.frame_of_applyAll happly
  have hrefuses : c.overrides.Refuses p s ↔ c.overrides.Refuses c.policy s := by
    simp only [Overrides.Refuses, howner]
  have hstays : (c.resolution.setting s).origin = .callerPolicy →
      c.policy.value s = p.value s := fun howned => hframe s (.inr howned)
  have hkept := Resolution.keptAs_of_applyAll happly (Setting.mem_all s)
  have hlive := live_of_resolvesTo hconv (resolvesTo_of_resolve hgives s) hstays hkept
  rw [hrefuses] at hlive
  rcases hlive with ⟨heq, hnot⟩ | ⟨hrefused, hzero, hlifted⟩
  · exact ⟨iff_of_true heq hnot, fun hrefused => absurd hrefused hnot⟩
  · refine ⟨iff_of_false ?_ fun hnot => hnot hrefused, fun _ => ⟨hzero, hlifted⟩⟩
    rw [hzero, hlifted]
    simp

/-- A limit of zero is live as no limit. -/
theorem live_of_refused_occurs : ∃ c, JustConfigured silent c ∧
    c.overrides.Refuses c.policy (.limit .maxOccurs) ∧
    (c.resolution.setting (.limit .maxOccurs)).value = .int 0 ∧
    c.policy.value (.limit .maxOccurs) = .int 2147483647 := by
  obtain ⟨c, hc, hrefuses, _⟩ := exists_refusing
  exact ⟨c, hc, hrefuses, (value_eq_resolved_iff hc _).2 hrefuses⟩

/-- So not every resolved value is live. -/
theorem not_forall_live_eq_resolved :
    ¬ ∀ (σ : Type) (sources : Sources (StateM σ)) (c : Configuration),
      JustConfigured sources c → ∀ s, c.policy.value s = (c.resolution.setting s).value := by
  intro hall
  obtain ⟨c, hc, _, hresolved, hlive⟩ := exists_refusing
  have heq := hall Unit silent c hc (.limit .maxOccurs)
  rw [hresolved, hlive] at heq
  cases heq

end Configuration

end XmlBounds
