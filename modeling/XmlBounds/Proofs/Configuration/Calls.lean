import XmlBounds.Configuration
import XmlBounds.Proofs.Resolution.Origins

/-!
# Calls on a configuration

A caller changes a configuration call by call. Every call first writes what the caller asks for,
and then resolves everything anew; a call that fails may leave the first half behind.
-/

namespace XmlBounds

/-- A call that changes a configuration. -/
inductive Call where
  | setFeature (name : String) (value : Bool)
  | setProperty (name : String) (value : PropertyValue)
  | setPolicy (policy : Policy)
  | reconfigure

namespace Call

variable {σ : Type}

def perform (sources : Sources (StateM σ)) : Call → Configured (StateM σ) Unit
  | setFeature name value => Configuration.setFeature sources name value
  | setProperty name value => Configuration.setProperty sources name value
  | setPolicy policy => Configuration.setPolicy sources policy
  | reconfigure => Configuration.reconfigure sources

/-- The configuration once the caller's wish is written to it. -/
def written (c : Configuration) : Call → Except Fault Configuration
  | setFeature name value =>
      match Key.feature? name with
      | none => .error (.unknownProperty name)
      | some f => .ok { c with overrides := c.overrides.putFeature f value }
  | setProperty name value =>
      match Key.find? name with
      | none => .error (.unknownProperty name)
      | some (.setting s) =>
          match Configuration.convert s value with
          | .error fault => .error (.value fault)
          | .ok v =>
              .ok { c with overrides := c.overrides.putSetting s v, policy := c.policy.disown s }
      | some (.feature f) =>
          match value.asBool with
          | .error fault => .error (.value fault)
          | .ok b => .ok { c with overrides := c.overrides.putFeature f b }
  | setPolicy policy => .ok { c with policy }
  | reconfigure => .ok c

theorem perform_eq (sources : Sources (StateM σ)) (call : Call) (c : Configuration) (s : σ) :
    (call.perform sources).run c s =
      match call.written c with
      | .error fault => ((.error fault, c), s)
      | .ok c' => (Configuration.reconfigure sources).run c' s := by
  cases call with
  | setFeature name value =>
      simp only [perform, written, Configuration.setFeature]
      cases Key.feature? name with
      | none => rfl
      | some f => rfl
  | setProperty name value =>
      simp only [perform, written, Configuration.setProperty]
      cases Key.find? name with
      | none => rfl
      | some key =>
          cases key with
          | setting t =>
              simp only
              cases Configuration.convert t value with
              | error fault => rfl
              | ok v => rfl
          | feature f =>
              simp only
              cases value.asBool with
              | error fault => rfl
              | ok b => rfl
  | setPolicy policy => rfl
  | reconfigure => rfl

end Call

namespace Configuration

variable {σ : Type} {sources : Sources (StateM σ)} {c c' : Configuration} {s s' : σ}

/-- A fresh configuration holds what was resolved for it, written to the initial policy. -/
theorem of_fresh (h : (fresh sources).run s = (.ok c, s')) :
    c.overrides = .none ∧ Gives (resolve sources .none .initial) c.resolution ∧
      c.resolution.applyTo .initial = .ok () c.policy := by
  have hgives : Gives (fresh sources) c := ⟨s, s', h⟩
  unfold fresh at hgives
  obtain ⟨r, hr, hgives⟩ := gives_bind hgives
  split at hgives
  · next fault p hp =>
      have := answers_pure hgives
      cases this
  · next p hp =>
      rw [gives_pure hgives]
      exact ⟨rfl, gives_adapt hr, hp⟩

/-- Resolution comes first; if that succeeds the policy is written, and a policy that could not be
written to its end keeps what was. -/
theorem reconfigure_eq (sources : Sources (StateM σ)) (c : Configuration) (s : σ) :
    (reconfigure sources).run c s =
      match (resolve sources c.overrides c.policy).run s with
      | (.error fault, s') => ((.error (.value fault), c), s')
      | (.ok r, s') =>
          match r.applyTo c.policy with
          | .error fault policy => ((.error (.value fault), { c with policy }), s')
          | .ok () policy => ((.ok (), { c with policy, resolution := r }), s') := by
  have hrun : (reconfigure sources).run c s =
      (adopt c ((resolve sources c.overrides c.policy).run s).1 : Configured (StateM σ) Unit).run c
        ((resolve sources c.overrides c.policy).run s).2 := rfl
  rw [hrun]
  rcases (resolve sources c.overrides c.policy).run s with ⟨_ | r, s'⟩
  · rfl
  · simp only [adopt]
    cases r.applyTo c.policy with
    | error fault policy => rfl
    | ok done policy => rfl

theorem overrides_of_reconfigure {result : Except Fault Unit}
    (h : (reconfigure sources).run c s = ((result, c'), s')) : c'.overrides = c.overrides := by
  rw [reconfigure_eq] at h
  split at h
  · cases h
    rfl
  · split at h
    · cases h
      rfl
    · cases h
      rfl

/-- A configuration that a caller can bring about, by calls that succeed or fail, over sources that
may have changed between any two of them. -/
inductive Reachable (sources : Sources (StateM σ)) : Configuration → Prop where
  | fresh {c : Configuration} {s s' : σ} :
      (fresh sources).run s = (.ok c, s') → Reachable sources c
  | call {c c' : Configuration} {call : Call} {result : Except Fault Unit} {s s' : σ} :
      Reachable sources c →
      (Call.perform sources call).run c s = ((result, c'), s') → Reachable sources c'

/-- A configuration just after a call that succeeded. -/
inductive JustConfigured (sources : Sources (StateM σ)) : Configuration → Prop where
  | fresh {c : Configuration} {s s' : σ} :
      (fresh sources).run s = (.ok c, s') → JustConfigured sources c
  | call {c c' : Configuration} {call : Call} {s s' : σ} : Reachable sources c →
      (Call.perform sources call).run c s = ((.ok (), c'), s') → JustConfigured sources c'

/-- Every value that the caller has set is kept as it was converted. -/
def Converted (o : Overrides) : Prop := ∀ s v, o.settings s = some v → convert s v = .ok v

theorem convert_of_convert {s : Setting} {v w : PropertyValue} (h : convert s v = .ok w) :
    convert s w = .ok w := by
  cases s with
  | limit k =>
      simp only [convert] at h ⊢
      cases hv : v.asLimit with
      | error fault =>
          rw [hv] at h
          cases h
      | ok n =>
          rw [hv] at h
          cases h
          rfl
  | access a =>
      simp only [convert] at h ⊢
      cases hv : v.asText with
      | error fault =>
          rw [hv] at h
          cases h
      | ok text =>
          rw [hv] at h
          cases h
          rw [PropertyValue.asText_ofText]
          rfl

theorem converted_putSetting {o : Overrides} {s : Setting} {v w : PropertyValue}
    (ho : Converted o) (hw : convert s v = .ok w) : Converted (o.putSetting s w) := by
  intro t u hu
  by_cases hts : t = s
  · subst hts
    have huw : w = u := by simpa [Overrides.putSetting] using hu
    rw [← huw]
    exact convert_of_convert hw
  · apply ho
    simpa [Overrides.putSetting, hts] using hu

theorem converted_written {call : Call} (hc : Converted c.overrides)
    (h : call.written c = .ok c') : Converted c'.overrides := by
  cases call with
  | setFeature name value =>
      simp only [Call.written] at h
      split at h
      · cases h
      · cases h
        exact hc
  | setProperty name value =>
      simp only [Call.written] at h
      split at h
      · cases h
      · split at h
        · cases h
        · next hv =>
            cases h
            exact converted_putSetting hc hv
      · split at h
        · cases h
        · cases h
          exact hc
  | setPolicy policy =>
      cases h
      exact hc
  | reconfigure =>
      cases h
      exact hc

theorem converted_perform {call : Call} {result : Except Fault Unit}
    (hc : Converted c.overrides)
    (h : (call.perform sources).run c s = ((result, c'), s')) : Converted c'.overrides := by
  rw [Call.perform_eq] at h
  split at h
  · cases h
    exact hc
  · next hwritten =>
      rw [overrides_of_reconfigure h]
      exact converted_written hc hwritten

theorem Reachable.converted (h : Reachable sources c) : Converted c.overrides := by
  induction h with
  | fresh h =>
      rw [(of_fresh h).1]
      intro t v hv
      cases hv
  | call _ h ih => exact converted_perform ih h

/-- After a call that succeeded, the live policy is what the resolution made of an earlier one. -/
theorem JustConfigured.resolved (h : JustConfigured sources c) :
    Converted c.overrides ∧ ∃ p, Gives (resolve sources c.overrides p) c.resolution ∧
      c.resolution.applyTo p = .ok () c.policy := by
  cases h with
  | fresh h =>
      obtain ⟨hoverrides, hgives, happly⟩ := of_fresh h
      refine ⟨(Reachable.fresh h).converted, .initial, ?_, happly⟩
      rw [hoverrides]
      exact hgives
  | call hreach h =>
      refine ⟨converted_perform hreach.converted h, ?_⟩
      rw [Call.perform_eq] at h
      split at h
      · cases h
      · next mid _ =>
          rw [reconfigure_eq] at h
          split at h
          · cases h
          · next hr =>
              split at h
              · cases h
              · next p hp =>
                  cases h
                  exact ⟨mid.policy, ⟨_, _, hr⟩, hp⟩

end Configuration

end XmlBounds
