import Mathlib.Data.List.Pairwise
import Mathlib.Data.List.Perm.Basic
import XmlBounds.Proofs.Configuration.Outcomes
import XmlBounds.Proofs.Resolution.Unchanging

/-!
# The order of calls

Each call that succeeds resolves everything anew and writes to the policy that the next resolution
reads. All the same only what the calls have written counts in the end: writes to different keys
change places, and of those to one key the last stays. What a resolution adds to the policy between
them is no one's, and is replaced by the next.
-/

namespace XmlBounds

/-! ## Writes -/

namespace Overrides

variable {t u : Setting} {f g : Feature}

theorem putSetting_comm (o : Overrides) (h : t ≠ u) (v x : PropertyValue) :
    (o.putSetting t v).putSetting u x = (o.putSetting u x).putSetting t v := by
  unfold putSetting
  congr 1
  funext i
  by_cases hu : i = u
  · have ht : i ≠ t := fun ht => h (ht.symm.trans hu)
    simp [hu, h.symm]
  · simp [hu]

theorem putSetting_putSetting (o : Overrides) (t : Setting) (v x : PropertyValue) :
    (o.putSetting t v).putSetting t x = o.putSetting t x := by
  unfold putSetting
  congr 1
  funext i
  by_cases hi : i = t <;> simp [hi]

theorem putFeature_comm (o : Overrides) (h : f ≠ g) (b d : Bool) :
    (o.putFeature f b).putFeature g d = (o.putFeature g d).putFeature f b := by
  unfold putFeature
  congr 1
  funext i
  by_cases hg : i = g
  · simp [hg, h.symm]
  · simp [hg]

theorem putFeature_putFeature (o : Overrides) (f : Feature) (b d : Bool) :
    (o.putFeature f b).putFeature f d = o.putFeature f d := by
  unfold putFeature
  congr 1
  funext i
  by_cases hi : i = f <;> simp [hi]

end Overrides

namespace Policy

theorem disown_comm (p : Policy) (t u : Setting) :
    (p.disown t).disown u = (p.disown u).disown t := by
  apply ext_value
  · simp
  · intro i
    by_cases hu : i = u <;> by_cases ht : i = t <;> simp [hu, ht]

theorem disown_disown (p : Policy) (t : Setting) : (p.disown t).disown t = p.disown t := by
  apply ext_value
  · simp
  · intro i
    by_cases hi : i = t <;> simp [hi]

end Policy

namespace Write

variable {w w' : Write}

theorem apply_comm (c : Configuration) (h : w.key ≠ w'.key) :
    w'.apply (w.apply c) = w.apply (w'.apply c) := by
  cases w with
  | setting t v =>
      cases w' with
      | feature f b => rfl
      | setting u x =>
          have hne : t ≠ u := fun heq => h (by rw [heq]; rfl)
          simp only [apply, c.overrides.putSetting_comm hne v x, c.policy.disown_comm t u]
  | feature f b =>
      cases w' with
      | setting u x => rfl
      | feature g d =>
          have hne : f ≠ g := fun heq => h (by rw [heq]; rfl)
          simp only [apply, c.overrides.putFeature_comm hne b d]

theorem apply_same (c : Configuration) (h : w.key = w'.key) :
    w'.apply (w.apply c) = w'.apply c := by
  cases w with
  | setting t v =>
      cases w' with
      | feature f b => cases h
      | setting u x =>
          cases h
          simp only [apply, Overrides.putSetting_putSetting, Policy.disown_disown]
  | feature f b =>
      cases w' with
      | setting u x => cases h
      | feature g d =>
          cases h
          simp only [apply, Overrides.putFeature_putFeature]

/-- Of the writes to each key the last. -/
def lasts (ws : List Write) : List Write := ws.pwFilter fun w w' => w.key ≠ w'.key

example : lasts [.feature .secureProcessing true, .setting (.limit .maxOccurs) (.int 3),
      .feature .secureProcessing false] =
    [.setting (.limit .maxOccurs) (.int 3), .feature .secureProcessing false] := by decide

/-- A write that another to its key comes after makes no difference. -/
theorem foldl_apply_of_later {ws : List Write} (h : ∃ w' ∈ ws, w.key = w'.key)
    (c : Configuration) : ws.foldl apply (w.apply c) = ws.foldl apply c := by
  induction ws generalizing c with
  | nil =>
      obtain ⟨w', hmem, _⟩ := h
      cases hmem
  | cons x rest ih =>
      simp only [List.foldl_cons]
      by_cases hx : w.key = x.key
      · rw [apply_same c hx]
      · -- The write moves on past one to another key, towards the one that comes after it.
        rw [apply_comm c hx]
        apply ih
        obtain ⟨w', hmem, hkey⟩ := h
        refine ⟨w', (List.mem_cons.mp hmem).resolve_left ?_, hkey⟩
        rintro rfl
        exact hx hkey

theorem foldl_lasts (ws : List Write) (c : Configuration) :
    (lasts ws).foldl apply c = ws.foldl apply c := by
  induction ws generalizing c with
  | nil => rfl
  | cons w rest ih =>
      by_cases hlast : ∀ b ∈ lasts rest, w.key ≠ b.key
      · have hkeeps : lasts (w :: rest) = w :: lasts rest := List.pwFilter_cons_of_pos hlast
        rw [hkeeps]
        exact ih (w.apply c)
      · have hdrops : lasts (w :: rest) = lasts rest := List.pwFilter_cons_of_neg hlast
        have hlater : ∃ w' ∈ rest, w.key = w'.key := by
          push Not at hlast
          obtain ⟨w', hmem, hkey⟩ := hlast
          exact ⟨w', List.pwFilter_subset rest hmem, hkey⟩
        rw [hdrops, ih c]
        exact (foldl_apply_of_later hlater c).symm

theorem foldl_of_perm_lasts {ws ws' : List Write} (h : (lasts ws).Perm ws') (c : Configuration) :
    ws.foldl apply c = ws'.foldl apply c := by
  have hdistinct : (lasts ws).Pairwise fun w w' => w.key ≠ w'.key := List.pairwise_pwFilter ws
  have : Std.Symm fun w w' : Write => w.key ≠ w'.key := ⟨fun _ _ => Ne.symm⟩
  rw [← foldl_lasts]
  apply h.foldl_eq'
  intro x hx y hy c
  by_cases heq : x = y
  · rw [heq]
  · exact apply_comm c (hdistinct.forall hx hy heq)

end Write

/-! ## Calls in a row -/

namespace Call

variable {σ : Type} {sources : Sources (StateM σ)} {c c' c'' : Configuration} {s s' s'' : σ}
  {result : Except Fault Unit} {results : List (Except Fault Unit)} {calls : List Call}

/-- Carries calls out in order, and goes on after those that fail. -/
def performAll (sources : Sources (StateM σ)) :
    List Call → StateT Configuration (StateM σ) (List (Except Fault Unit))
  | [] => return []
  | call :: calls => do
      let result ← (call.perform sources).run
      return result :: (← performAll sources calls)

/-- What the call wrote, if this was its result. -/
def wrote (call : Call) : Except Fault Unit → Option Write
  | .ok () => call.write?
  | .error _ => none

/-- What those of the calls wrote that succeeded. -/
def record (calls : List Call) (results : List (Except Fault Unit)) : List Write :=
  (calls.zip results).filterMap fun (call, result) => call.wrote result

theorem performAll_cons {call : Call}
    (hfirst : (call.perform sources).run c s = ((result, c'), s'))
    (hrest : (performAll sources calls).run c' s' = ((results, c''), s'')) :
    (performAll sources (call :: calls)).run c s = ((result :: results, c''), s'') := by
  have hsteps : (performAll sources (call :: calls)).run c s =
      match (call.perform sources).run c s with
      | ((result, c'), s') =>
          match (performAll sources calls).run c' s' with
          | ((results, c''), s'') => ((result :: results, c''), s'') := rfl
  simp only [hsteps, hfirst, hrest]

theorem exists_of_performAll {call : Call}
    (h : (performAll sources (call :: calls)).run c s = ((results, c''), s'')) :
    ∃ result rest c' s', results = result :: rest ∧
      (call.perform sources).run c s = ((result, c'), s') ∧
      (performAll sources calls).run c' s' = ((rest, c''), s'') := by
  rcases hfirst : (call.perform sources).run c s with ⟨⟨result, c'⟩, s'⟩
  rcases hrest : (performAll sources calls).run c' s' with ⟨⟨rest, d⟩, t⟩
  rw [performAll_cons hfirst hrest] at h
  cases h
  exact ⟨result, rest, c', s', rfl, rfl, hrest⟩

theorem record_cons (call : Call) (result : Except Fault Unit) (calls : List Call)
    (results : List (Except Fault Unit)) :
    record (call :: calls) (result :: results) =
      (call.wrote result).toList ++ record calls results := by
  cases h : call.wrote result <;> simp [record, h]

theorem wrote_of_perform {call : Call} (hc : Configuration.Converted c.overrides)
    (h : (call.perform sources).run c s = ((result, c'), s')) :
    call.wrote result = call.write? := by
  rcases Configuration.perform_cases hc h with ⟨fault, hfault, rfl, _⟩ | ⟨_, _, _, rfl, _⟩
  · exact (write?_of_refused hfault).symm
  · rfl

/-- A call that would write does not fail, and one that fails would not write. -/
theorem record_of_performAll (hc : Configuration.Converted c.overrides)
    (h : (performAll sources calls).run c s = ((results, c'), s')) :
    record calls results = calls.filterMap write? := by
  induction calls generalizing c s results with
  | nil =>
      cases h
      rfl
  | cons call calls ih =>
      obtain ⟨result, rest, mid, t, rfl, hfirst, hrest⟩ := exists_of_performAll h
      have hmid := Configuration.converted_perform hc hfirst
      rw [record_cons, wrote_of_perform hc hfirst, ih hmid hrest]
      cases hwrite : call.write? <;> simp [hwrite]

theorem ok_of_performAll (hc : Configuration.Converted c.overrides)
    (hwrites : ∀ call ∈ calls, call.write? ≠ none)
    (h : (performAll sources calls).run c s = ((results, c'), s')) :
    results = calls.map fun _ => .ok () := by
  induction calls generalizing c s results with
  | nil =>
      cases h
      rfl
  | cons call calls ih =>
      obtain ⟨result, rest, mid, t, rfl, hfirst, hrest⟩ := exists_of_performAll h
      have hresult : result = .ok () := by
        rcases Configuration.perform_cases hc hfirst with ⟨_, hfault, _⟩ | ⟨_, _, _, hok, _⟩
        · exact absurd (write?_of_refused hfault) (hwrites call List.mem_cons_self)
        · exact hok
      have hothers := ih (Configuration.converted_perform hc hfirst)
        (fun other hmem => hwrites other (List.mem_cons_of_mem call hmem)) hrest
      rw [hresult, hothers]
      rfl

end Call

/-! ## Configurations alike -/

namespace Configuration

/-- The configurations differ in nothing but what was resolved: in the last resolution, and in what
the policy has for the settings that the caller does not own. -/
structure Alike (c c' : Configuration) : Prop where
  overrides : c'.overrides = c.overrides
  policy : c.policy.OwnsAlike c'.policy
  resolver : c'.resolver = c.resolver
  reporter : c'.reporter = c.reporter
  ledger : c'.ledger = c.ledger

variable {σ : Type} {sources : Sources (StateM σ)} {c c' : Configuration}
  {file process : String → Option String} {s s' : σ}

namespace Alike

theorem refl (c : Configuration) : c.Alike c := ⟨rfl, .refl _, rfl, rfl, rfl⟩

theorem symm (h : c.Alike c') : c'.Alike c :=
  ⟨h.overrides.symm, h.policy.symm, h.resolver.symm, h.reporter.symm, h.ledger.symm⟩

theorem trans {c'' : Configuration} (h : c.Alike c') (h' : c'.Alike c'') : c.Alike c'' :=
  ⟨h'.overrides.trans h.overrides, h.policy.trans h'.policy, h'.resolver.trans h.resolver,
    h'.reporter.trans h.reporter, h'.ledger.trans h.ledger⟩

theorem apply (h : c.Alike c') (w : Write) : (w.apply c).Alike (w.apply c') := by
  obtain ⟨hoverrides, hpolicy, hresolver, hreporter, hledger⟩ := h
  cases w with
  | setting t v =>
      refine ⟨?_, hpolicy.disown t, hresolver, hreporter, hledger⟩
      simp only [Write.apply, hoverrides]
  | feature f b =>
      refine ⟨?_, hpolicy, hresolver, hreporter, hledger⟩
      simp only [Write.apply, hoverrides]

theorem foldl (h : c.Alike c') (ws : List Write) :
    (ws.foldl Write.apply c).Alike (ws.foldl Write.apply c') := by
  induction ws generalizing c c' with
  | nil => exact h
  | cons w rest ih => exact ih (h.apply w)

end Alike

theorem Settles.alike (h : Settles sources c s c' s') : c.Alike c' := by
  cases h with
  | @intro r p _ hrun happly =>
      obtain ⟨hframe, howner⟩ := Resolution.frame_of_applyAll happly
      refine ⟨rfl, ⟨howner, ?_⟩, rfl, rfl, rfl⟩
      intro t howned
      exact hframe t (.inr ((resolvesTo_of_resolve ⟨s, s', hrun⟩ t).origin_iff.mpr howned))

theorem Settles.unchanging (h : Settles sources c s c' s')
    (hs : sources.Unchanging file process s) : sources.Unchanging file process s' := by
  cases h with
  | intro hrun _ =>
      have hforetold : Foretold (sources.Unchanging file process)
          (resolve sources c.overrides c.policy).run := foretold_resolve _ _
      obtain ⟨_, hanswer⟩ := hforetold
      have hafter := (hanswer s hs).2
      have hend : ((resolve sources c.overrides c.policy).run s).2 = s' := by rw [hrun]
      rw [← hend]
      exact hafter

/-- Over sources that do not change, configurations that are alike are settled alike. -/
theorem Settles.unique {d d' : Configuration} {t t' : σ} (halike : c.Alike d)
    (hs : sources.Unchanging file process s) (ht : sources.Unchanging file process t)
    (h : Settles sources c s c' s') (h' : Settles sources d t d' t') : c' = d' := by
  have hforetold : Foretold (sources.Unchanging file process)
      (resolve sources c.overrides c.policy).run := foretold_resolve _ _
  obtain ⟨answer, hanswer⟩ := hforetold
  cases h with
  | @intro r p _ hrun happly =>
      cases h' with
      | @intro r' p' _ hrun' happly' =>
          rw [halike.overrides, resolve_congr halike.policy] at hrun'
          have hr : .ok r = answer := by
            rw [← (hanswer s hs).1, hrun]
          have hr' : .ok r' = answer := by
            rw [← (hanswer t ht).1, hrun']
          cases hr.trans hr'.symm
          -- What the policies differ in is not the caller's, so it is written anew on both.
          have howned : ∀ u, (r.setting u).origin = .callerPolicy → c.policy.isOwned u = true :=
            fun u => (resolvesTo_of_resolve ⟨s, s', hrun⟩ u).origin_iff.mp
          rw [eq_of_applyTo halike.policy howned happly happly']
          simp only [halike.overrides, halike.resolver, halike.reporter, halike.ledger]

/-- What the calls wrote leads from the one configuration to the other, but for what was resolved on
the way. -/
structure LeadsTo (sources : Sources (StateM σ)) (file process : String → Option String)
    (c : Configuration) (ws : List Write) (c' : Configuration) (s' : σ) : Prop where
  alike : (ws.foldl Write.apply c).Alike c'
  converted : Converted c'.overrides
  unchanging : sources.Unchanging file process s'

theorem leadsTo_perform {call : Call} {result : Except Fault Unit} (hc : Converted c.overrides)
    (hs : sources.Unchanging file process s) (hcall : ∀ p, call ≠ .setPolicy p)
    (h : (call.perform sources).run c s = ((result, c'), s')) :
    LeadsTo sources file process c (call.wrote result).toList c' s' := by
  have hconv := converted_perform hc h
  rcases perform_cases hc h with ⟨fault, _, rfl, rfl, rfl⟩ | ⟨mid, hmid, _, rfl, hsettles⟩
  · exact ⟨.refl _, hconv, hs⟩
  · refine ⟨?_, hconv, hsettles.unchanging hs⟩
    cases Call.writes_of_written hmid with
    | @key _ w hwrite =>
        have hwrote : call.wrote (.ok ()) = some w := hwrite
        rw [hwrote]
        exact hsettles.alike
    | policy => exact absurd rfl (hcall _)
    | nothing => exact hsettles.alike

theorem leadsTo_performAll {calls : List Call} {results : List (Except Fault Unit)}
    (hc : Converted c.overrides) (hs : sources.Unchanging file process s)
    (hcalls : ∀ call ∈ calls, ∀ p, call ≠ .setPolicy p)
    (h : (Call.performAll sources calls).run c s = ((results, c'), s')) :
    LeadsTo sources file process c (Call.record calls results) c' s' := by
  induction calls generalizing c s results with
  | nil =>
      cases h
      exact ⟨.refl _, hc, hs⟩
  | cons call calls ih =>
      obtain ⟨result, rest, mid, t, rfl, hfirst, hrest⟩ := Call.exists_of_performAll h
      have hmid := leadsTo_perform hc hs (hcalls call List.mem_cons_self) hfirst
      have hend := ih hmid.converted hmid.unchanging
        (fun other hmem => hcalls other (List.mem_cons_of_mem call hmem)) hrest
      refine ⟨?_, hend.converted, hend.unchanging⟩
      rw [Call.record_cons, List.foldl_append]
      exact (hmid.alike.foldl _).trans hend.alike

/-- Over sources that do not change, calls that set features and properties come, once everything is
resolved anew, to what those calls alone come to that make the last write to each key, under
whatever names and in whatever order. -/
theorem exists_reconfigure_replayed {calls replay : List Call}
    {results : List (Except Fault Unit)} {c₁ : Configuration} {s₁ : σ} (hc : Attained sources c)
    (hs : sources.Unchanging file process s) (hs' : sources.Unchanging file process s')
    (hcalls : ∀ call ∈ calls, ∀ p, call ≠ .setPolicy p)
    (hrun : (Call.performAll sources calls).run c s = ((results, c₁), s₁))
    (hreplay : ((Write.lasts (Call.record calls results)).map some).Perm
      (replay.map Call.write?)) :
    ∃ c₂ s₂ c' t₁ t₂,
      (Call.performAll sources replay).run c s' = ((replay.map fun _ => .ok (), c₂), s₂) ∧
      (reconfigure sources).run c₁ s₁ = ((.ok (), c'), t₁) ∧
      (reconfigure sources).run c₂ s₂ = ((.ok (), c'), t₂) := by
  have hwrites : ∀ call ∈ replay, call.write? ≠ none := by
    intro call hmem hnone
    have hsome := hreplay.mem_iff.mpr (List.mem_map_of_mem hmem)
    rw [hnone] at hsome
    obtain ⟨w, _, hw⟩ := List.mem_map.mp hsome
    cases hw
  have hsets : ∀ call ∈ replay, ∀ p, call ≠ .setPolicy p := by
    rintro call hmem p rfl
    exact hwrites _ hmem rfl
  rcases hrun₂ : (Call.performAll sources replay).run c s' with ⟨⟨results₂, c₂⟩, s₂⟩
  have h₁ := leadsTo_performAll hc.converted hs hcalls hrun
  have h₂ := leadsTo_performAll hc.converted hs' hsets hrun₂
  rw [Call.record_of_performAll hc.converted hrun₂] at h₂
  have hperm : (Write.lasts (Call.record calls results)).Perm (replay.filterMap Call.write?) := by
    have hsome := hreplay.filterMap id
    simpa [List.filterMap_map] using hsome
  -- Both rows are alike to the starting configuration with the same writes on it.
  have halike := h₁.alike.symm
  rw [Write.foldl_of_perm_lasts hperm] at halike
  obtain ⟨d₁, t₁, hend₁, hsettles₁⟩ := exists_settles h₁.converted sources s₁
  obtain ⟨d₂, t₂, hend₂, hsettles₂⟩ := exists_settles h₂.converted sources s₂
  have hsame := hsettles₁.unique (halike.trans h₂.alike) h₁.unchanging h₂.unchanging hsettles₂
  refine ⟨c₂, s₂, d₁, t₁, t₂, ?_, hend₁, ?_⟩
  · rw [Call.ok_of_performAll hc.converted hwrites hrun₂]
  · rw [hsame]
    exact hend₂

/-- An installation whose properties file has not been read yet. -/
def unread : Deployment :=
  ⟨.ofPath (some "xmlguard.properties"), ⟨.modifiedAt 1, some "jdk.xml.maxOccur=70"⟩, []⟩

def wavering : List Call := [
  .setFeature "http://apache.org/xml/features/secure-processing" false,
  .setProperty "jdk.xml.maxOccur" (.int 3),
  .setProperty "jdk.xml.maxOccur" (.text " 42 "),
  .setProperty "jdk.xml.maxOccur" (.bool true),
  .setFeature "http://apache.org/xml/features/secure-processing" true]

/-- The last writes of a caller who has wavered, under other names and in another order. -/
def decided : List Call := [
  .setProperty "http://javax.xml.XMLConstants/feature/secure-processing" (.text "TRUE"),
  .setProperty "http://www.oracle.com/xml/jaxp/properties/maxOccurLimit" (.int 42)]

theorem exists_reconfigure_decided : ∃ c results c₁ s₁ c₂ s₂ c' t₁ t₂,
    Attained (Deployment.sources .empty) c ∧
    (Call.performAll (Deployment.sources .empty) wavering).run c unread = ((results, c₁), s₁) ∧
    (Call.performAll (Deployment.sources .empty) decided).run c unread =
      (([.ok (), .ok ()], c₂), s₂) ∧
    (reconfigure (Deployment.sources .empty)).run c₁ s₁ = ((.ok (), c'), t₁) ∧
    (reconfigure (Deployment.sources .empty)).run c₂ s₂ = ((.ok (), c'), t₂) := by
  obtain ⟨c, s, hfresh, _⟩ := succeeds_fresh (Deployment.sources .empty) unread
  have hattained : Attained (Deployment.sources .empty) c := ⟨c, unread, s, [], [], hfresh, .nil c⟩
  have hunchanging := Deployment.unchanging (d := unread) rfl .empty
  have hsets : ∀ call ∈ wavering, ∀ p, call ≠ .setPolicy p := by simp [wavering]
  rcases hrun : (Call.performAll (Deployment.sources .empty) wavering).run c unread with
    ⟨⟨results, c₁⟩, s₁⟩
  have hrecord : Call.record wavering results = [.feature .secureProcessing false,
      .setting (.limit .maxOccurs) (.int 3), .setting (.limit .maxOccurs) (.int 42),
      .feature .secureProcessing true] := by
    rw [Call.record_of_performAll hattained.converted hrun]
    rfl
  have hlasts : ((Write.lasts (Call.record wavering results)).map some).Perm
      (decided.map Call.write?) := by
    rw [hrecord]
    exact .swap _ _ _
  obtain ⟨c₂, s₂, c', t₁, t₂, hreplay, hend₁, hend₂⟩ :=
    exists_reconfigure_replayed hattained hunchanging hunchanging hsets hrun hlasts
  exact ⟨c, results, c₁, s₁, c₂, s₂, c', t₁, t₂, hattained, hrun, hreplay, hend₁, hend₂⟩

end Configuration

end XmlBounds
