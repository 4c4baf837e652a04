import XmlBounds.Proofs.Configuration.Life
import XmlBounds.Proofs.Configuration.LivePolicy
import XmlBounds.Proofs.Resolution.Precedence
import XmlBounds.Proofs.Resolution.Writing

/-!
# What a call comes to

A call that is refused has not changed anything: its name stands for nothing, or its value does not
convert. Every other call succeeds. Resolution and the writing of what was resolved come after the
caller's wish is on record, and could leave it half done; they never fail, because only converted
values are ever recorded.
-/

namespace XmlBounds

/-! ## The names of keys -/

namespace Key

theorem nodup_spellings : (spellings.map (·.1)).Nodup := by decide +kernel

theorem lookup_eq_some_iff {l : List (String × Key)} (h : (l.map (·.1)).Nodup) {name : String}
    {key : Key} : l.lookup name = some key ↔ (name, key) ∈ l := by
  induction l with
  | nil => simp
  | cons entry l ih =>
      obtain ⟨first, k⟩ := entry
      obtain ⟨hfirst, hrest⟩ := List.nodup_cons.mp h
      by_cases hname : name = first
      · subst hname
        have hother : (name, key) ∉ l :=
          fun hmem => hfirst (List.mem_map.mpr ⟨(name, key), hmem, rfl⟩)
        simp [hother, eq_comm]
      · have hne : (name == first) = false := beq_eq_false_iff_ne.mpr hname
        simp [List.lookup_cons, hne, ih hrest, hname]

theorem find?_eq_some_iff {name : String} {key : Key} :
    find? name = some key ↔ (name, key) ∈ spellings := lookup_eq_some_iff nodup_spellings

theorem find?_eq_none_iff {name : String} :
    find? name = none ↔ ∀ key, (name, key) ∉ spellings := by
  simp only [← find?_eq_some_iff, Option.eq_none_iff_forall_ne_some, ne_eq]

theorem feature?_eq_some_iff {name : String} {f : Feature} :
    feature? name = some f ↔ find? name = some (.feature f) := by
  unfold feature?
  split
  · next g hg => simp [hg]
  · next hother =>
      constructor
      · intro h
        cases h
      · intro h
        exact absurd h (hother f)

theorem feature?_eq_none_iff {name : String} :
    feature? name = none ↔ ∀ f, (name, feature f) ∉ spellings := by
  simp only [← find?_eq_some_iff, ← feature?_eq_some_iff, Option.eq_none_iff_forall_ne_some, ne_eq]

end Key

/-! ## Why a call is refused -/

/-- The call is refused, and this is the fault. -/
inductive Call.Refused : Call → Fault → Prop where
  | noFeature {name value} : (∀ f, (name, Key.feature f) ∉ Key.spellings) →
      Refused (.setFeature name value) (.unknownProperty name)
  | unknown {name value} : (∀ key, (name, key) ∉ Key.spellings) →
      Refused (.setProperty name value) (.unknownProperty name)
  | noLimit {name k value why} : (name, Key.setting (.limit k)) ∈ Key.spellings →
      value.asLimit = .error why → Refused (.setProperty name value) (.value why)
  | noList {name a value} : (name, Key.setting (.access a)) ∈ Key.spellings →
      (∀ text, value ≠ .text text) → value ≠ .null →
      Refused (.setProperty name value) (.value (.expectedText value))
  | noSwitch {name f value why} : (name, Key.feature f) ∈ Key.spellings →
      value.asBool = .error why → Refused (.setProperty name value) (.value why)

namespace PropertyValue

theorem asText_eq_error_iff {v : PropertyValue} {why : ValueFault} :
    v.asText = .error why ↔
      (∀ text, v ≠ .text text) ∧ v ≠ .null ∧ why = .expectedText v := by
  cases v with
  | text s =>
      constructor
      · intro h
        cases h
      · intro h
        exact absurd rfl (h.1 s)
  | null =>
      constructor
      · intro h
        cases h
      · intro h
        exact absurd rfl h.2.1
  | int n | bool b => simp [asText, eq_comm]

end PropertyValue

namespace Configuration

theorem bind_pure_eq_error_iff {ε α β : Type} {x : Except ε α} {f : α → β} {why : ε} :
    (x >>= fun a => pure (f a)) = .error why ↔ x = .error why := by
  cases x with
  | error fault =>
      constructor
      · intro h
        cases h
        rfl
      · intro h
        cases h
        rfl
  | ok a =>
      constructor
      · intro h
        cases h
      · intro h
        cases h

theorem convert_limit_eq_error_iff {k : LimitKind} {v : PropertyValue} {why : ValueFault} :
    convert (.limit k) v = .error why ↔ v.asLimit = .error why := bind_pure_eq_error_iff

theorem convert_access_eq_error_iff {a : AccessList} {v : PropertyValue} {why : ValueFault} :
    convert (.access a) v = .error why ↔ v.asText = .error why := bind_pure_eq_error_iff

end Configuration

namespace Call

variable {c mid : Configuration} {fault : Fault}

theorem written_of_refused {call : Call} (h : call.Refused fault) :
    call.written c = .error fault := by
  cases h with
  | noFeature hname => simp [written, Key.feature?_eq_none_iff.mpr hname]
  | unknown hname => simp [written, Key.find?_eq_none_iff.mpr hname]
  | noLimit hname hvalue =>
      simp [written, Key.find?_eq_some_iff.mpr hname,
        Configuration.convert_limit_eq_error_iff.mpr hvalue]
  | noList hname htext hnull =>
      have hvalue := PropertyValue.asText_eq_error_iff.mpr ⟨htext, hnull, rfl⟩
      simp [written, Key.find?_eq_some_iff.mpr hname,
        Configuration.convert_access_eq_error_iff.mpr hvalue]
  | noSwitch hname hvalue => simp [written, Key.find?_eq_some_iff.mpr hname, hvalue]

theorem refused_of_written {call : Call} (h : call.written c = .error fault) :
    call.Refused fault := by
  cases call with
  | setFeature name value =>
      simp only [written] at h
      split at h
      · next hname =>
          cases h
          exact .noFeature (Key.feature?_eq_none_iff.mp hname)
      · cases h
  | setProperty name value =>
      simp only [written] at h
      split at h
      · next hname =>
          cases h
          exact .unknown (Key.find?_eq_none_iff.mp hname)
      · next t hname =>
          have hmem := Key.find?_eq_some_iff.mp hname
          split at h
          · next why hvalue =>
              cases h
              cases t with
              | limit k => exact .noLimit hmem (Configuration.convert_limit_eq_error_iff.mp hvalue)
              | access a =>
                  have hlist := Configuration.convert_access_eq_error_iff.mp hvalue
                  obtain ⟨htext, hnull, hwhy⟩ := PropertyValue.asText_eq_error_iff.mp hlist
                  rw [hwhy]
                  exact .noList hmem htext hnull
          · cases h
      · next f hname =>
          split at h
          · next why hvalue =>
              cases h
              exact .noSwitch (Key.find?_eq_some_iff.mp hname) hvalue
          · cases h
  | setPolicy policy => cases h
  | reconfigure => cases h

end Call

/-! ## What a call writes -/

/-- A write to what the caller has set. -/
inductive Write where
  | setting (t : Setting) (value : PropertyValue)
  | feature (f : Feature) (value : Bool)
  deriving DecidableEq, Repr

namespace Write

def key : Write → Key
  | setting t _ => .setting t
  | feature f _ => .feature f

/-- The configuration with the write on record. A property takes its setting from the policy. -/
def apply (c : Configuration) : Write → Configuration
  | setting t value =>
      { c with overrides := c.overrides.putSetting t value, policy := c.policy.disown t }
  | feature f value => { c with overrides := c.overrides.putFeature f value }

end Write

namespace Call

variable {c mid : Configuration}

/-- What the call writes if it is not refused: a converted value under a key. -/
def write? : Call → Option Write
  | setFeature name value => (Key.feature? name).map (.feature · value)
  | setProperty name value =>
      match Key.find? name with
      | none => none
      | some (.setting t) => (Configuration.convert t value).toOption.map (.setting t)
      | some (.feature f) => value.asBool.toOption.map (.feature f)
  | setPolicy _ | reconfigure => none

/-- What becomes of a configuration when the wish of a call is written to it. -/
inductive Writes (c : Configuration) : Call → Configuration → Prop where
  | key {call w} : call.write? = some w → Writes c call (w.apply c)
  | policy {p} : Writes c (.setPolicy p) { c with policy := p }
  | nothing : Writes c .reconfigure c

theorem writes_of_written {call : Call} (h : call.written c = .ok mid) : call.Writes c mid := by
  cases call with
  | setFeature name value =>
      simp only [written] at h
      split at h
      · cases h
      · next f hname =>
          cases h
          have hwrite : (setFeature name value).write? = some (.feature f value) := by
            simp [write?, hname]
          exact .key hwrite
  | setProperty name value =>
      simp only [written] at h
      split at h
      · cases h
      · next t hname =>
          split at h
          · cases h
          · next v hvalue =>
              cases h
              have hwrite : (setProperty name value).write? = some (.setting t v) := by
                simp [write?, hname, hvalue, Except.toOption]
              exact .key hwrite
      · next f hname =>
          split at h
          · cases h
          · next b hvalue =>
              cases h
              have hwrite : (setProperty name value).write? = some (.feature f b) := by
                simp [write?, hname, hvalue, Except.toOption]
              exact .key hwrite
  | setPolicy policy =>
      cases h
      exact .policy
  | reconfigure =>
      cases h
      exact .nothing

theorem write?_of_refused {call : Call} {fault : Fault} (h : call.Refused fault) :
    call.write? = none := by
  cases h with
  | noFeature hname => simp [write?, Key.feature?_eq_none_iff.mpr hname]
  | unknown hname => simp [write?, Key.find?_eq_none_iff.mpr hname]
  | noLimit hname hvalue =>
      simp [write?, Key.find?_eq_some_iff.mpr hname,
        Configuration.convert_limit_eq_error_iff.mpr hvalue, Except.toOption]
  | noList hname htext hnull =>
      have hvalue := PropertyValue.asText_eq_error_iff.mpr ⟨htext, hnull, rfl⟩
      simp [write?, Key.find?_eq_some_iff.mpr hname,
        Configuration.convert_access_eq_error_iff.mpr hvalue, Except.toOption]
  | noSwitch hname hvalue =>
      simp [write?, Key.find?_eq_some_iff.mpr hname, hvalue, Except.toOption]

end Call

/-! ## Resolution does not fail -/

theorem succeeds_adapt {σ ε ε' α : Type} {f : ε → ε'} {x : ExceptT ε (StateM σ) α} {P : α → Prop}
    (hx : Succeeds x P) : Succeeds (ExceptT.adapt f x) P := by
  intro s
  obtain ⟨a, t, hrun, ha⟩ := hx s
  have hadapt : (ExceptT.adapt f x).run s = ((x.run s).1.mapError f, (x.run s).2) := rfl
  rw [hadapt, hrun]
  exact ⟨a, t, rfl, ha⟩

namespace Configuration

variable {σ : Type} {sources : Sources (StateM σ)} {c c' : Configuration} {o : Overrides}
  {p : Policy} {t : Setting}

theorem Converted.numeric (h : Converted o) : o.Numeric := by
  intro k v hv
  have hconv := h _ _ hv
  simp only [convert] at hconv
  cases hlimit : v.asLimit with
  | error fault =>
      rw [hlimit] at hconv
      cases hconv
  | ok n =>
      rw [hlimit] at hconv
      cases hconv
      exact ⟨n, rfl⟩

theorem exists_keptAs {v : Resolved PropertyValue} (ho : Converted o) (h : ResolvesTo o p t v)
    (hwritten : v.origin ≠ .callerPolicy) : ∃ live, PropertyValue.KeptAs t v.value live := by
  cases h with
  | owned _ => exact absurd rfl hwritten
  | limitProperty _ _ _ | limitSource _ _ _ _ => exact ⟨_, .limit rfl⟩
  | @listProperty a w _ hset =>
      have hconv := ho _ _ hset
      simp only [convert] at hconv
      cases htext : w.asText with
      | error fault =>
          rw [htext] at hconv
          cases hconv
      | ok text => exact ⟨_, .list htext⟩
  | listSource _ _ _ => exact ⟨_, .list rfl⟩

theorem exists_applyResolved {v live : PropertyValue} (p : Policy)
    (h : PropertyValue.KeptAs t v live) : ∃ q, p.applyResolved t v = .ok q := by
  cases h with
  | limit hn =>
      simp only [Policy.applyResolved, hn]
      exact ⟨_, rfl⟩
  | list htext =>
      simp only [Policy.applyResolved, htext]
      exact ⟨_, rfl⟩

theorem exists_applyAll {r : Resolution} {settings : List Setting} (p : Policy)
    (h : ∀ t ∈ settings, (r.setting t).origin ≠ .callerPolicy →
      ∃ live, PropertyValue.KeptAs t (r.setting t).value live) :
    ∃ q, r.applyAll settings p = .ok () q := by
  induction settings generalizing p with
  | nil => exact ⟨p, rfl⟩
  | cons t rest ih =>
      have hrest := fun u hu => h u (List.mem_cons_of_mem t hu)
      rw [Resolution.applyAll_cons]
      split
      · exact ih p hrest
      · next hwritten =>
          obtain ⟨live, hlive⟩ := h t List.mem_cons_self hwritten
          obtain ⟨q, hq⟩ := exists_applyResolved p hlive
          rw [hq]
          exact ih q hrest

/-- Over converted properties every policy can be resolved, and take what was resolved. -/
theorem succeeds_resolve_applyTo (ho : Converted o) (sources : Sources (StateM σ)) (p : Policy) :
    Succeeds (resolve sources o p) fun r => ∃ q, r.applyTo p = .ok () q := by
  intro s
  obtain ⟨r, s', hrun, _⟩ := succeeds_resolve ho.numeric sources p s s
  -- A stored property was converted when it was set, so it converts again.
  have hkept : ∀ t ∈ Setting.all, (r.setting t).origin ≠ .callerPolicy →
      ∃ live, PropertyValue.KeptAs t (r.setting t).value live :=
    fun t _ => exists_keptAs ho (resolvesTo_of_resolve ⟨s, s', hrun⟩ t)
  exact ⟨r, s', hrun, exists_applyAll p hkept⟩

theorem succeeds_fresh (sources : Sources (StateM σ)) : Succeeds (fresh sources) fun _ => True := by
  have hnone : Converted Overrides.none := by
    intro t v hv
    cases hv
  refine succeeds_bind (succeeds_adapt (succeeds_resolve_applyTo hnone sources .initial)) ?_
  rintro r ⟨q, hq⟩
  rw [hq]
  exact succeeds_pure trivial

/-- Everything is resolved anew and written to the policy. -/
inductive Settles (sources : Sources (StateM σ)) (c : Configuration) (s : σ) :
    Configuration → σ → Prop where
  | intro {r p s'} : (resolve sources c.overrides c.policy).run s = (.ok r, s') →
      r.applyTo c.policy = .ok () p →
      Settles sources c s { c with policy := p, resolution := r } s'

theorem exists_settles (hc : Converted c.overrides) (sources : Sources (StateM σ)) (s : σ) :
    ∃ c' s', (reconfigure sources).run c s = ((.ok (), c'), s') ∧ Settles sources c s c' s' := by
  obtain ⟨r, s', hrun, p, happly⟩ := succeeds_resolve_applyTo hc sources c.policy s
  refine ⟨_, s', ?_, .intro hrun happly⟩
  simp only [reconfigure_eq, hrun, happly]

/-- A call is refused and changes nothing, or everything is settled after its wish was written. -/
theorem perform_cases {call : Call} {result : Except Fault Unit} {s s' : σ}
    (hc : Converted c.overrides)
    (h : (call.perform sources).run c s = ((result, c'), s')) :
    (∃ fault, call.Refused fault ∧ result = .error fault ∧ c' = c ∧ s' = s) ∨
      ∃ mid, call.written c = .ok mid ∧ Converted mid.overrides ∧ result = .ok () ∧
        Settles sources mid s c' s' := by
  rw [Call.perform_eq] at h
  split at h
  · next fault hfault =>
      cases h
      exact .inl ⟨fault, Call.refused_of_written hfault, rfl, rfl, rfl⟩
  · next mid hmid =>
      have hconv := converted_written hc hmid
      obtain ⟨d, t, hrun, hsettles⟩ := exists_settles hconv sources s
      rw [hrun] at h
      cases h
      exact .inr ⟨mid, hmid, hconv, rfl, hsettles⟩

theorem exists_perform_ok {call : Call} {mid : Configuration} (hc : Converted c.overrides)
    (h : call.written c = .ok mid) (sources : Sources (StateM σ)) (s : σ) :
    ∃ c' s', (call.perform sources).run c s = ((.ok (), c'), s') := by
  obtain ⟨c', s', hrun, _⟩ := exists_settles (converted_written hc h) sources s
  refine ⟨c', s', ?_⟩
  rw [Call.perform_eq, h]
  exact hrun

/-- A call on a configuration fails exactly if its name stands for nothing it can set or its value
does not convert, and then the configuration and the sources are as before. -/
theorem fails_iff_refused {call : Call} {result : Except Fault Unit} {s s' : σ}
    (hc : Attained sources c) (h : (call.perform sources).run c s = ((result, c'), s')) :
    (∀ fault, result = .error fault ↔ call.Refused fault) ∧
      (∀ fault, result = .error fault → c' = c ∧ s' = s) := by
  rcases perform_cases hc.converted h with ⟨why, hwhy, rfl, rfl, rfl⟩ | ⟨mid, hmid, _, rfl, _⟩
  · refine ⟨?_, fun _ _ => ⟨rfl, rfl⟩⟩
    intro fault
    constructor
    · intro h
      cases h
      exact hwhy
    · intro hfault
      have hsame := (Call.written_of_refused (c := c') hwhy).symm.trans
        (Call.written_of_refused hfault)
      cases hsame
      rfl
  · constructor
    · intro fault
      constructor
      · intro h
        cases h
      · intro hfault
        rw [Call.written_of_refused hfault] at hmid
        cases hmid
    · intro fault h
      cases h

theorem exists_attained_deep : ∃ c, Attained silent c ∧
    c.policy.isOwned (.limit .elementDepth) = true ∧
    c.policy.value (.limit .elementDepth) = .int 9 := by
  obtain ⟨first, s, hfresh, _⟩ := succeeds_fresh silent ()
  let deep : Policy → Policy := (·.setLimit .elementDepth 9)
  let c : Configuration := { first with policy := deep first.policy }
  have hwrite : ((Act.write deep).perform silent).run first () = ((.ok (), c), ()) := rfl
  have hattained : Attained silent c := ⟨first, (), s, _, _, hfresh, .cons hwrite (.nil c)⟩
  refine ⟨c, hattained, ?_, ?_⟩
  · simp only [c, deep, Policy.setLimit, Policy.isOwned, Policy.limitEntry_putLimit]
    rfl
  · simp only [c, deep, Policy.setLimit, Policy.value, Policy.limit, Policy.limitEntry_putLimit]
    rfl

/-- A truth value is no limit. The depth that is written to the policy before the call stays. -/
theorem exists_refused_occurs : ∃ c result c', Attained silent c ∧
    c.policy.value (.limit .elementDepth) = .int 9 ∧
    ((Call.setProperty "jdk.xml.maxOccur" (.bool true)).perform silent).run c () =
      ((result, c'), ()) ∧
    result = .error (.value (.expectedLimit (.bool true))) ∧ c' = c := by
  obtain ⟨c, hattained, _, hdepth⟩ := exists_attained_deep
  have hname : ("jdk.xml.maxOccur", Key.setting (.limit .maxOccurs)) ∈ Key.spellings := by decide
  have hrefused : (Call.setProperty "jdk.xml.maxOccur" (.bool true)).Refused
      (.value (.expectedLimit (.bool true))) := .noLimit hname rfl
  obtain ⟨hfault, hsame⟩ := fails_iff_refused (s := ()) hattained rfl
  have hresult := (hfault _).mpr hrefused
  exact ⟨c, _, _, hattained, hdepth, rfl, hresult, (hsame _ hresult).1⟩

end Configuration

end XmlBounds
