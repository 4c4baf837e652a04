import Mathlib.Data.List.Nodup
import XmlBounds.Proofs.Configuration.Outcomes
import XmlBounds.Proofs.Policy.History
import XmlBounds.Proofs.Resolution.Gates

/-!
# The report on effective values

The report has a line for each setting and each feature, with the value that is in force. Whether a
line names the caller's policy as the source is decided by comparing the live value with the one
that was resolved, and whose a setting is is a mark on the policy. The two part where the caller
writes to the policy what was resolved anyway, and where a limit that refuses the first use was
lifted on its way into the policy.
-/

namespace XmlBounds

/-! ## Writing through setters -/

/-- The step is a setter that a policy has for everyone. -/
inductive PolicyStep.IsSetter : PolicyStep → Prop where
  | setLimit {k n} : IsSetter (setLimit k n)
  | setAccess {a list} : IsSetter (setAccess a list)
  | setNumber {t n} : IsSetter (setNumber t n)
  | setValue {t v} : IsSetter (setValue t v)

/-- The act does not write to the live policy, or does so through a setter. -/
inductive Act.UsesSetters : Act → Prop where
  | write {step : PolicyStep} : step.IsSetter → UsesSetters (.write (·.next step))
  | other {act} : (∀ change, act ≠ .write change) → UsesSetters act

/-- What a setter leaves free, it leaves as it was. -/
theorem Policy.of_isOwned_next {p : Policy} {step : PolicyStep} {t : Setting} (h : step.IsSetter)
    (hfree : (p.next step).isOwned t = false) :
    p.isOwned t = false ∧ (p.next step).value t = p.value t := by
  have hcallers : step.isCallers = true := by cases h <;> rfl
  have hfrees : ¬ step.Frees t := by
    intro hfrees
    cases hfrees <;> cases h
  have hstores : ∀ w, ¬ step.Stores t w := by
    intro w hw
    rw [isOwned_next_of_claims ⟨hcallers, w, hw⟩] at hfree
    cases hfree
  have hclaims : ¬ step.Claims t := by
    rintro ⟨_, w, hw⟩
    exact hstores w hw
  rw [isOwned_next_of_neither hclaims hfrees] at hfree
  exact ⟨hfree, value_next_of_not_stores hstores⟩

theorem Policy.isOwned_next_of_isOwned {p : Policy} {step : PolicyStep} {t : Setting}
    (h : step.IsSetter) (howned : p.isOwned t = true) : (p.next step).isOwned t = true := by
  rw [← Bool.not_eq_false]
  intro hfree
  rw [(of_isOwned_next h hfree).1] at howned
  cases howned

namespace Configuration

variable {σ : Type} {sources : Sources (StateM σ)} {c c' : Configuration} {o : Overrides}
  {p : Policy} {t : Setting}

/-- The configuration can come about where its live policy is written to through setters only. -/
def AttainedBySetters (sources : Sources (StateM σ)) (c : Configuration) : Prop :=
  ∃ first s s' acts made, (fresh sources).run s = (.ok first, s') ∧
    (∀ act ∈ acts, act.UsesSetters) ∧ Runs sources first acts made c

/-! ## What the last resolution tells of the live policy -/

/-- What was recorded as the caller's is still his, and what he does not own is as it was resolved,
but for a limit that was lifted on the way. -/
structure Explained (c : Configuration) : Prop where
  converted : Converted c.overrides
  owned : ∀ t, (c.resolution.setting t).origin = .callerPolicy → c.policy.isOwned t = true
  free : ∀ t, c.policy.isOwned t = false →
    (c.policy.value t = (c.resolution.setting t).value ↔ ¬ c.overrides.Refuses c.policy t)
  feature : ∀ f, (c.resolution.feature f).origin ≠ .callerPolicy

theorem origin_of_feature {r : Resolution} (h : Gives (resolve sources o p) r) (f : Feature) :
    (r.feature f).origin ≠ .callerPolicy := by
  obtain ⟨gate, hgate, hfeature, _⟩ := gate_of_resolve h
  have horigin : gate.origin ≠ .callerPolicy := by
    intro hcaller
    have hnot := isCallers_of_gate hgate
    rw [hcaller] at hnot
    cases hnot
  rw [hfeature]
  cases hset : o.features f with
  | some b => simp [feature_of_some hset]
  | none =>
      cases f with
      | secureProcessing | disallowDoctype => simp [Resolve.feature, hset]
      | loadExternalDtd | externalGeneralEntities | externalParameterEntities =>
          rw [feature_of_external rfl hset]
          exact horigin

theorem refuses_congr (h : p.isOwned t = c.policy.isOwned t) :
    o.Refuses p t ↔ o.Refuses c.policy t := by
  simp only [Overrides.Refuses, h]

theorem explained_of_resolve (hc : Converted c.overrides)
    (hgives : Gives (resolve sources c.overrides p) c.resolution)
    (happly : c.resolution.applyTo p = .ok () c.policy) : c.Explained where
  converted := hc
  owned := by
    intro t horigin
    rw [(Resolution.frame_of_applyAll happly).2]
    exact (resolvesTo_of_resolve hgives t).origin_iff.mp horigin
  free := by
    intro t _
    obtain ⟨hframe, howner⟩ := Resolution.frame_of_applyAll happly
    have hstays : (c.resolution.setting t).origin = .callerPolicy →
        c.policy.value t = p.value t := fun horigin => hframe t (.inr horigin)
    have hkept := Resolution.keptAs_of_applyAll happly (Setting.mem_all t)
    have hlive := live_of_resolvesTo hc (resolvesTo_of_resolve hgives t) hstays hkept
    rw [refuses_congr (howner t).symm] at hlive
    rcases hlive with ⟨heq, hnot⟩ | ⟨hrefused, hzero, hlifted⟩
    · exact iff_of_true heq hnot
    · apply iff_of_false
      · rw [hzero, hlifted]
        simp
      · exact not_not_intro hrefused
  feature := origin_of_feature hgives

namespace Explained

theorem congr (h : c.Explained) (hsame : c.SameSettings c') : c'.Explained where
  converted := by
    rw [hsame.overrides]
    exact h.converted
  owned := by
    rw [hsame.resolution, hsame.policy]
    exact h.owned
  free := by
    rw [hsame.overrides, hsame.resolution, hsame.policy]
    exact h.free
  feature := by
    rw [hsame.resolution]
    exact h.feature

theorem next (h : c.Explained) {step : PolicyStep} (hstep : step.IsSetter) :
    Explained { c with policy := c.policy.next step } where
  converted := h.converted
  owned t horigin := Policy.isOwned_next_of_isOwned hstep (h.owned t horigin)
  free := by
    -- What a setter has stored is the caller's, so a setting that is still free was left alone.
    intro t hfree
    obtain ⟨hbefore, hvalue⟩ := Policy.of_isOwned_next hstep hfree
    have hlive := h.free t hbefore
    rw [← hvalue, ← refuses_congr (hfree.trans hbefore.symm)] at hlive
    exact hlive
  feature := h.feature

theorem perform (h : c.Explained) {act : Act} (hact : act.UsesSetters)
    {result : Except Fault Unit} {s s' : σ}
    (hrun : (act.perform sources).run c s = ((result, c'), s')) : c'.Explained := by
  cases Act.effect_of_perform hrun with
  | configure hcall =>
      rcases perform_cases h.converted hcall with ⟨_, _, _, rfl, _⟩ | ⟨mid, _, hconv, _, hend⟩
      · exact h
      · cases hend with
        | intro hresolve happly => exact explained_of_resolve hconv ⟨_, _, hresolve⟩ happly
  | @write change _ =>
      cases hact with
      | write hstep => exact h.next hstep
      | other hnone => exact absurd rfl (hnone change)
  | aside _ _ hsame => exact h.congr hsame

end Explained

theorem AttainedBySetters.explained (h : AttainedBySetters sources c) : c.Explained := by
  obtain ⟨first, s, s', acts, made, hfresh, hacts, hrun⟩ := h
  have hfirst : first.Explained := by
    obtain ⟨hnone, hgives, happly⟩ := of_fresh hfresh
    rw [← hnone] at hgives
    exact explained_of_resolve (Reachable.fresh hfresh).converted hgives happly
  have hkept : ∀ act ∈ acts, ∀ {c c' : Configuration} {result : Except Fault Unit} {s s' : σ},
      c.Explained → (act.perform sources).run c s = ((result, c'), s') →
      c'.Explained ∧ ∀ r ∈ act.made result c', True := by
    intro act hmem c c' result s s' hc hact
    exact ⟨hc.perform (hacts act hmem) hact, fun _ _ => trivial⟩
  exact (hrun.invariant hkept hfirst).1

end Configuration

/-! ## The lines of the report -/

namespace Key

/-- The keys in the order in which they are reported. -/
def reported : List Key := Setting.all.map setting ++ Feature.reported.map feature

theorem mem_reported (key : Key) : key ∈ reported := by
  cases key with
  | setting t => simp [reported, Setting.mem_all]
  | feature f => simp [reported, Feature.mem_reported]

theorem nodup_names_reported : (reported.map canonicalName).Nodup := by decide +kernel

theorem find?_canonicalName (key : Key) : find? key.canonicalName = some key := by
  have hall : ∀ key ∈ reported, (key.canonicalName, key) ∈ spellings := by decide +kernel
  exact find?_eq_some_iff.mpr (hall key key.mem_reported)

end Key

namespace Configuration

variable {σ : Type} {sources : Sources (StateM σ)} {c c' : Configuration} {t : Setting}

def line (c : Configuration) : Key → EffectiveSetting
  | .setting t =>
      { key := .setting t
        value := c.policy.value t
        origin :=
          if c.policy.value t = (c.resolution.setting t).value then (c.resolution.setting t).origin
          else .callerPolicy }
  | .feature f =>
      { key := .feature f
        value := .bool (c.isEnabled f)
        origin := (c.resolution.feature f).origin }

theorem effectiveSettings_eq (c : Configuration) :
    c.effectiveSettings = Key.reported.map c.line := by
  unfold effectiveSettings Resolution.effectiveSettings Key.reported
  rw [List.map_append, List.map_map, List.map_map, List.map_append, List.map_map, List.map_map]
  congr 1
  apply List.map_congr_left
  intro t _
  simp only [Function.comp_apply, line]
  split
  · next hlive => simp [hlive]
  · rfl

theorem property_canonicalName (c : Configuration) (key : Key) :
    c.property key.canonicalName = .ok (c.line key).value := by
  rw [property, Key.find?_canonicalName]
  cases key <;> rfl

theorem origin_line_setting : (c.line (.setting t)).origin = .callerPolicy ↔
    c.policy.value t = (c.resolution.setting t).value →
      (c.resolution.setting t).origin = .callerPolicy := by
  by_cases hlive : c.policy.value t = (c.resolution.setting t).value
  · simp [line, hlive]
  · simp [line, hlive]

/-- The caller has written the key to the live policy. -/
def Owns (c : Configuration) : Key → Prop
  | .setting t => c.policy.isOwned t = true
  | .feature _ => False

/-- The line about the key is wrong about the caller's policy. -/
inductive Misreports (c : Configuration) : Key → Prop where
  /-- The caller has set a limit to a negative number as a property. The live value is another than
  the resolved one, but nobody has written it. -/
  | refused {t : Setting} : c.overrides.Refuses c.policy t → Misreports c (.setting t)
  /-- The caller has written the setting to the live policy since it was resolved from elsewhere,
  and what he has written is what was resolved. -/
  | alike {t : Setting} : c.policy.isOwned t = true →
      (c.resolution.setting t).origin ≠ .callerPolicy →
      c.policy.value t = (c.resolution.setting t).value → Misreports c (.setting t)

theorem misreports_of_isOwned (howned : c.policy.isOwned t = true) :
    c.Misreports (.setting t) ↔ (c.line (.setting t)).origin ≠ .callerPolicy := by
  rw [Ne, origin_line_setting, Classical.not_imp]
  constructor
  · intro h
    cases h with
    | refused hrefuses =>
        rw [hrefuses.1] at howned
        cases howned
    | alike _ horigin hlive => exact ⟨hlive, horigin⟩
  · rintro ⟨hlive, horigin⟩
    exact .alike howned horigin hlive

theorem misreports_of_free (hc : c.Explained) (hfree : c.policy.isOwned t = false) :
    c.Misreports (.setting t) ↔ (c.line (.setting t)).origin = .callerPolicy := by
  have horigin : (c.resolution.setting t).origin ≠ .callerPolicy := by
    intro howned
    rw [hc.owned t howned] at hfree
    cases hfree
  rw [origin_line_setting]
  constructor
  · intro h hlive
    cases h with
    | refused hrefuses => exact absurd hrefuses ((hc.free t hfree).mp hlive)
    | alike howned _ _ =>
        rw [hfree] at howned
        cases howned
  · intro h
    have hlive : ¬ c.policy.value t = (c.resolution.setting t).value :=
      fun hlive => horigin (h hlive)
    rw [hc.free t hfree, not_not] at hlive
    exact .refused hlive

theorem origin_iff_owns (hc : c.Explained) (key : Key) :
    ((c.line key).origin = .callerPolicy ↔ c.Owns key) ↔ ¬ c.Misreports key := by
  cases key with
  | setting t =>
      cases howner : c.policy.isOwned t with
      | true => simp [misreports_of_isOwned howner, Owns, howner]
      | false => simp [misreports_of_free hc howner, Owns, howner]
  | feature f =>
      have hnot : ¬ c.Misreports (.feature f) := by
        intro h
        cases h
      simp [hnot, Owns, line, hc.feature f]

theorem misreports_of_perform (hc : Converted c.overrides) {call : Call} {s s' : σ}
    (h : (call.perform sources).run c s = ((.ok (), c'), s')) :
    c'.Misreports (.setting t) ↔ c'.overrides.Refuses c'.policy t := by
  constructor
  · intro hmisreports
    cases hmisreports with
    | refused hrefuses => exact hrefuses
    | alike howned horigin _ =>
        -- The call has resolved the setting with the owner that it still has.
        rcases perform_cases hc h with ⟨_, _, hresult, _⟩ | ⟨mid, _, _, _, hend⟩
        · cases hresult
        · cases hend with
          | intro hresolve happly =>
              rw [(Resolution.frame_of_applyAll happly).2] at howned
              have hresolved := resolvesTo_of_resolve ⟨_, _, hresolve⟩ t
              exact absurd (hresolved.origin_iff.mpr howned) horigin
  · exact .refused

/-- The report lists each name once, with the value that is in force under it. A line names the
caller's policy as the source exactly if the caller has written the setting there, except where a
limit that was to refuse the first use was lifted, and where the caller has written what had been
resolved. The latter is over with the next call. -/
theorem report_of_attained (h : AttainedBySetters sources c) :
    (∀ key : Key, (c.effectiveSettings.map (·.key.canonicalName)).count key.canonicalName = 1) ∧
      (∀ entry ∈ c.effectiveSettings,
        c.property entry.key.canonicalName = .ok entry.value ∧
          ((entry.origin = .callerPolicy ↔ c.Owns entry.key) ↔ ¬ c.Misreports entry.key)) ∧
      ∀ {call : Call} {c' : Configuration} {s s' : σ},
        (call.perform sources).run c s = ((.ok (), c'), s') →
        ∀ t, c'.Misreports (.setting t) ↔ c'.overrides.Refuses c'.policy t := by
  have hkey : ∀ key, (c.line key).key = key := by
    intro key
    cases key <;> rfl
  rw [effectiveSettings_eq]
  refine ⟨?_, ?_, ?_⟩
  · intro key
    have hnames : (Key.reported.map c.line).map (·.key.canonicalName) =
        Key.reported.map Key.canonicalName := by
      rw [List.map_map]
      apply List.map_congr_left
      intro key _
      simp only [Function.comp_apply, hkey]
    rw [hnames]
    apply List.count_eq_one_of_mem Key.nodup_names_reported
    exact List.mem_map_of_mem key.mem_reported
  · intro entry hentry
    obtain ⟨key, _, rfl⟩ := List.mem_map.mp hentry
    rw [hkey]
    exact ⟨c.property_canonicalName key, origin_iff_owns h.explained key⟩
  · intro call c' s s' hcall t
    exact misreports_of_perform h.explained.converted hcall

theorem exists_written_alike : ∃ c, AttainedBySetters silent c ∧
    c.Owns (.setting (.limit .elementAttributes)) ∧
    ⟨.setting (.limit .elementAttributes), .int 10000, .default⟩ ∈ c.effectiveSettings := by
  let step : PolicyStep := .setLimit .elementAttributes 10000
  have hrun : ∃ first, (fresh silent).run () = (.ok first, ()) ∧
      (first.policy.next step).isOwned (.limit .elementAttributes) = true ∧
      ⟨.setting (.limit .elementAttributes), .int 10000, .default⟩ ∈
        { first with policy := first.policy.next step : Configuration }.effectiveSettings := by
    refine ⟨_, rfl, ?_⟩
    decide +kernel
  obtain ⟨first, hfresh, howned, hentry⟩ := hrun
  let c : Configuration := { first with policy := first.policy.next step }
  have hwrite : ((Act.write (·.next step)).perform silent).run first () = ((.ok (), c), ()) := rfl
  have hsetters : ∀ act ∈ [Act.write (·.next step)], act.UsesSetters := by
    intro act hact
    rw [List.mem_singleton.mp hact]
    exact .write .setLimit
  have hattained : AttainedBySetters silent c :=
    ⟨first, (), (), _, _, hfresh, hsetters, .cons hwrite (.nil c)⟩
  exact ⟨c, hattained, howned, hentry⟩

/-- The caller writes to the policy how many attributes are allowed by default. The report goes on
to call that the default, where every other number would be called his. -/
theorem report_written_alike : ∃ c, AttainedBySetters silent c ∧
    c.property "jdk.xml.elementAttributeLimit" = .ok (.int 10000) ∧
    c.Owns (.setting (.limit .elementAttributes)) ∧
    ⟨.setting (.limit .elementAttributes), .int 10000, .default⟩ ∈ c.effectiveSettings ∧
    c.Misreports (.setting (.limit .elementAttributes)) := by
  obtain ⟨c, hattained, howns, hentry⟩ := exists_written_alike
  obtain ⟨hvalue, horigin⟩ := (report_of_attained hattained).2.1 _ hentry
  refine ⟨c, hattained, hvalue, howns, hentry, ?_⟩
  rw [← not_not (a := c.Misreports _), ← horigin]
  simp [howns]

/-- So the report does not always name the caller's policy where the caller has written to it. -/
theorem not_forall_origin_iff_owns :
    ¬ ∀ (σ : Type) (sources : Sources (StateM σ)) (c : Configuration),
      AttainedBySetters sources c → ∀ entry ∈ c.effectiveSettings,
        (entry.origin = .callerPolicy ↔ c.Owns entry.key) := by
  intro hall
  obtain ⟨c, hattained, howns, hentry⟩ := exists_written_alike
  have horigin := (hall Unit silent c hattained _ hentry).mpr howns
  cases horigin

end Configuration

end XmlBounds
