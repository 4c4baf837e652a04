import XmlBounds.Proofs.Configuration.Outcomes

/-!
# Whose a setting is

The caller may say what a setting is in two places, on the policy and as a property. The place that
was used last holds, and it holds until the other is used: nothing else that happens to a
configuration moves a setting from one to the other, or changes what every resolution records of it.
-/

namespace XmlBounds

/-- What a value that the caller has set as a property resolves to. -/
def Setting.normalized : Setting → PropertyValue → PropertyValue
  | .limit _, .int n => .int (Limit.normalize n).toInt32
  | _, v => v

/-- The act has nothing to do with the setting. A call may write another key, or be refused; a write
to the policy leaves the entry of the setting as it is. -/
inductive Act.Spares (t : Setting) : Act → Prop where
  | configure {call} : (∀ p, call ≠ .setPolicy p) →
      (∀ w, call.write? = some w → w.key ≠ .setting t) → Spares t (.configure call)
  | write {change} :
      (∀ p, (change p).isOwned t = p.isOwned t ∧ (change p).value t = p.value t) →
      Spares t (.write change)
  | aside {act} : (∀ call, act ≠ .configure call) → (∀ change, act ≠ .write change) → Spares t act

namespace Configuration

/-- What the caller says the setting is. -/
inductive CallerSaid (c : Configuration) (t : Setting) : Resolved PropertyValue → Prop where
  | policy : c.policy.isOwned t = true → CallerSaid c t ⟨c.policy.value t, .callerPolicy⟩
  | property {v} : c.policy.isOwned t = false → c.overrides.settings t = some v →
      CallerSaid c t ⟨t.normalized v, .callerProperty⟩

variable {σ : Type} {sources : Sources (StateM σ)} {c c' : Configuration} {t : Setting}
  {v w : Resolved PropertyValue} {s s' : σ}

namespace CallerSaid

theorem congr (h : c.CallerSaid t v) (howner : c'.policy.isOwned t = c.policy.isOwned t)
    (hvalue : c.policy.isOwned t = true → c'.policy.value t = c.policy.value t)
    (hset : c'.overrides.settings t = c.overrides.settings t) : c'.CallerSaid t v := by
  cases h with
  | policy howned =>
      rw [← hvalue howned]
      exact .policy (howner.trans howned)
  | property hfree hproperty => exact .property (howner.trans hfree) (hset.trans hproperty)

theorem eq_of_resolvesTo (h : c.CallerSaid t v) (hc : Converted c.overrides)
    (hw : ResolvesTo c.overrides c.policy t w) : w = v := by
  cases h with
  | policy howned =>
      cases hw with
      | owned _ => rfl
      | limitProperty hfree _ _ | listProperty hfree _ | limitSource hfree _ _ _
      | listSource hfree _ _ =>
          rw [howned] at hfree
          cases hfree
  | property hfree hset =>
      cases hw with
      | owned howned =>
          rw [hfree] at howned
          cases howned
      | limitProperty _ hset' hn =>
          rw [hset] at hset'
          cases hset'
          obtain ⟨m, rfl⟩ := hc.numeric _ _ hset
          cases hn
          rfl
      | listProperty _ hset' =>
          rw [hset] at hset'
          cases hset'
          rfl
      | limitSource _ hnone _ _ | listSource _ hnone _ =>
          rw [hset] at hnone
          cases hnone

theorem settles (h : c.CallerSaid t v) (hc : Converted c.overrides)
    (hsettles : Settles sources c s c' s') :
    c'.CallerSaid t v ∧ c'.resolution.setting t = v := by
  cases hsettles with
  | intro hrun happly =>
      have hresolved := h.eq_of_resolvesTo hc (resolvesTo_of_resolve ⟨s, s', hrun⟩ t)
      obtain ⟨hframe, howner⟩ := Resolution.frame_of_applyAll happly
      refine ⟨h.congr (howner t) ?_ rfl, hresolved⟩
      intro howned
      -- What the caller owns is recorded as his, so it is not written over.
      apply hframe
      right
      rw [hresolved]
      cases h with
      | policy _ => rfl
      | property hfree _ =>
          rw [howned] at hfree
          cases hfree

theorem apply (h : c.CallerSaid t v) {write : Write} (hkey : write.key ≠ .setting t) :
    (write.apply c).CallerSaid t v := by
  cases write with
  | setting u value =>
      have hne : t ≠ u := fun heq => hkey (by rw [heq]; rfl)
      apply h.congr
      · simp [Write.apply, hne]
      · intro _
        simp [Write.apply]
      · simp [Write.apply, Overrides.putSetting, hne]
  | feature f value => exact h.congr rfl (fun _ => rfl) rfl

theorem writes (h : c.CallerSaid t v) {call : Call} (hspare : (Act.configure call).Spares t)
    (hwrites : call.Writes c c') : c'.CallerSaid t v := by
  cases hspare with
  | aside hcall _ => exact absurd rfl (hcall call)
  | configure hpolicy hkey =>
      cases hwrites with
      | key hwrite => exact h.apply (hkey _ hwrite)
      | policy => exact absurd rfl (hpolicy _)
      | nothing => exact h

/-- An act that has nothing to do with the setting leaves what the caller says of it, and a
resolution that it makes records that. -/
theorem perform (h : c.CallerSaid t v) (hc : Converted c.overrides) {act : Act}
    (hspare : act.Spares t) {result : Except Fault Unit}
    (hact : (act.perform sources).run c s = ((result, c'), s')) :
    c'.CallerSaid t v ∧ ∀ r ∈ act.made result c', r.setting t = v := by
  cases Act.effect_of_perform hact with
  | configure hcall =>
      rcases perform_cases hc hcall with ⟨fault, _, rfl, rfl, rfl⟩ | ⟨mid, hmid, hconv, rfl, hend⟩
      · exact ⟨h, by simp [Act.made]⟩
      · have hwritten := h.writes hspare (Call.writes_of_written hmid)
        obtain ⟨hsaid, hresolved⟩ := hwritten.settles hconv hend
        exact ⟨hsaid, by simpa [Act.made] using hresolved⟩
  | @write change _ =>
      refine ⟨?_, by simp [Act.made]⟩
      cases hspare with
      | aside _ hwrite => exact absurd rfl (hwrite change)
      | write hsame =>
          obtain ⟨howner, hvalue⟩ := hsame c.policy
          exact h.congr howner (fun _ => hvalue) rfl
  | aside hcall _ hsame =>
      rw [Act.made_of_ne_configure hcall]
      refine ⟨?_, by simp⟩
      apply h.congr
      · rw [hsame.policy]
      · intro _
        rw [hsame.policy]
      · rw [hsame.overrides]

theorem run (h : c.CallerSaid t v) (hc : Converted c.overrides) {acts : List Act}
    {made : List Resolution} (hspare : ∀ act ∈ acts, act.Spares t)
    (hrun : Runs sources c acts made c') :
    c'.CallerSaid t v ∧ ∀ r ∈ made, r.setting t = v := by
  have hstep : ∀ act ∈ acts, ∀ {c c' : Configuration} {result : Except Fault Unit} {s s' : σ},
      Converted c.overrides ∧ c.CallerSaid t v →
      (act.perform sources).run c s = ((result, c'), s') →
      (Converted c'.overrides ∧ c'.CallerSaid t v) ∧
        ∀ r ∈ act.made result c', r.setting t = v := by
    intro act hmem c c' result s s' hbefore hact
    obtain ⟨hsaid, hmade⟩ := hbefore.2.perform hbefore.1 (hspare act hmem) hact
    exact ⟨⟨converted_act hbefore.1 hact, hsaid⟩, hmade⟩
  obtain ⟨⟨_, hsaid⟩, hmade⟩ := hrun.invariant hstep ⟨hc, h⟩
  exact ⟨hsaid, hmade⟩

theorem owned (h : c.CallerSaid t v) (horigin : v.origin = .callerPolicy) :
    c.policy.isOwned t = true ∧ c.policy.value t = v.value := by
  cases h with
  | policy howned => exact ⟨howned, rfl⟩
  | property _ _ => cases horigin

end CallerSaid

theorem callerSaid_of_setProperty {name : String} {value : PropertyValue}
    (hc : Converted c.overrides) (hname : Key.find? name = some (.setting t))
    (h : ((Call.setProperty name value).perform sources).run c s = ((.ok (), c'), s')) :
    ∃ kept, convert t value = .ok kept ∧ c'.overrides.settings t = some kept ∧
      c'.policy.isOwned t = false ∧
      c'.CallerSaid t ⟨t.normalized kept, .callerProperty⟩ ∧
      c'.resolution.setting t = ⟨t.normalized kept, .callerProperty⟩ := by
  rcases perform_cases hc h with ⟨fault, _, hresult, _⟩ | ⟨mid, hmid, hconv, _, hsettles⟩
  · cases hresult
  · simp only [Call.written, hname] at hmid
    split at hmid
    · cases hmid
    · next kept hkept =>
        cases hmid
        have hset : (c.overrides.putSetting t kept).settings t = some kept := by
          simp [Overrides.putSetting]
        have hfree : (c.policy.disown t).isOwned t = false := by simp
        have hsaid := (CallerSaid.property hfree hset).settles hconv hsettles
        cases hsettles with
        | intro _ happly =>
            have howner := (Resolution.frame_of_applyAll happly).2 t
            exact ⟨kept, hkept, hset, howner.trans hfree, hsaid⟩

/-- A setting that the caller owns on the policy keeps its value there, and every resolution records
it, as long as nothing has to do with the setting. The first property that the caller sets for it
takes it over, and is recorded in its turn until something else has to do with the setting. -/
theorem owned_until_set {acts : List Act} {made : List Resolution} {c₁ : Configuration}
    (hc : Attained sources c) (howned : c.policy.isOwned t = true)
    (hspare : ∀ act ∈ acts, act.Spares t) (hrun : Runs sources c acts made c₁) :
    (c₁.policy.isOwned t = true ∧ c₁.policy.value t = c.policy.value t ∧
      ∀ r ∈ made, r.setting t = ⟨c.policy.value t, .callerPolicy⟩) ∧
    ∀ {name : String} {value : PropertyValue} {c₂ : Configuration} {s s' : σ},
      Key.find? name = some (.setting t) →
      ((Call.setProperty name value).perform sources).run c₁ s = ((.ok (), c₂), s') →
      ∃ kept, convert t value = .ok kept ∧ c₂.overrides.settings t = some kept ∧
        c₂.policy.isOwned t = false ∧
        c₂.resolution.setting t = ⟨t.normalized kept, .callerProperty⟩ ∧
        ∀ {acts' : List Act} {made' : List Resolution} {c₃ : Configuration},
          (∀ act ∈ acts', act.Spares t) → Runs sources c₂ acts' made' c₃ →
          ∀ r ∈ made', r.setting t = ⟨t.normalized kept, .callerProperty⟩ := by
  obtain ⟨hsaid, hmade⟩ := (CallerSaid.policy howned).run hc.converted hspare hrun
  obtain ⟨howned₁, hvalue⟩ := hsaid.owned rfl
  refine ⟨⟨howned₁, hvalue, hmade⟩, ?_⟩
  intro name value c₂ s s' hname hset
  have hc₁ := (hc.run hrun).converted
  obtain ⟨kept, hkept, hoverride, hfree, hsaid₂, hresolved⟩ :=
    callerSaid_of_setProperty hc₁ hname hset
  refine ⟨kept, hkept, hoverride, hfree, hresolved, ?_⟩
  intro acts' made' c₃ hspare' hrun'
  have hact : ((Act.configure (.setProperty name value)).perform sources).run c₁ s =
      ((.ok (), c₂), s') := hset
  exact (hsaid₂.run (converted_act hc₁ hact) hspare' hrun').2

/-- The depth that is written to the policy is recorded when secure processing is turned off, until
it is set as a property. -/
theorem exists_owned_depth : ∃ c acts c₁ c₂, Attained silent c ∧
    c.policy.isOwned (.limit .elementDepth) = true ∧
    (∀ act ∈ acts, act.Spares (.limit .elementDepth)) ∧ Runs silent c acts [c₁.resolution] c₁ ∧
    c₁.resolution.setting (.limit .elementDepth) = ⟨.int 9, .callerPolicy⟩ ∧
    ((Call.setProperty "jdk.xml.maxElementDepth" (.text " 42 ")).perform silent).run c₁ () =
      ((.ok (), c₂), ()) ∧
    c₂.resolution.setting (.limit .elementDepth) = ⟨.int 42, .callerProperty⟩ := by
  obtain ⟨c, hattained, howned, hdepth⟩ := exists_attained_deep
  let off := Call.setFeature "http://apache.org/xml/features/secure-processing" false
  have hoff : off.written c = .ok ((Write.feature .secureProcessing false).apply c) := rfl
  have hname : ("jdk.xml.maxElementDepth", Key.setting (.limit .elementDepth)) ∈ Key.spellings := by
    decide
  have hkey := Key.find?_eq_some_iff.mpr hname
  have hconvert : convert (.limit .elementDepth) (.text " 42 ") = .ok (.int 42) := rfl
  have hspare : ∀ act ∈ [Act.configure off], act.Spares (.limit .elementDepth) := by
    intro act hact
    rw [List.mem_singleton.mp hact]
    refine .configure (by simp [off]) ?_
    intro w hw
    have hwrite : off.write? = some (.feature .secureProcessing false) := rfl
    rw [hwrite] at hw
    cases hw
    simp [Write.key]
  obtain ⟨c₁, s₁, hrun₁⟩ := exists_perform_ok hattained.converted hoff silent ()
  have hact : ((Act.configure off).perform silent).run c () = ((.ok (), c₁), s₁) := hrun₁
  have hruns : Runs silent c [.configure off] [c₁.resolution] c₁ := .cons hact (.nil c₁)
  have hset : (Call.setProperty "jdk.xml.maxElementDepth" (.text " 42 ")).written c₁ =
      .ok ((Write.setting (.limit .elementDepth) (.int 42)).apply c₁) := by
    simp only [Call.written, hkey, hconvert]
    rfl
  obtain ⟨c₂, s₂, hrun₂⟩ := exists_perform_ok (hattained.run hruns).converted hset silent ()
  obtain ⟨⟨_, _, hmade⟩, hlater⟩ := owned_until_set hattained howned hspare hruns
  obtain ⟨kept, hkept, _, _, hresolved, _⟩ := hlater hkey hrun₂
  refine ⟨c, _, c₁, c₂, hattained, howned, hspare, hruns, ?_, hrun₂, ?_⟩
  · rw [hmade _ List.mem_cons_self, hdepth]
  · rw [hconvert] at hkept
    cases hkept
    exact hresolved

end Configuration

end XmlBounds
