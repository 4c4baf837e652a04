import XmlBounds.Proofs.Resolution.Precedence

/-!
# The gates to external resources

Three features, two protocol lists and the ban on DOCTYPEs decide what may be brought in from
outside a document. What the caller has set holds. Of the rest secure processing decides: without it
everything is open and nobody outside the program is asked, and with it one switch opens or closes
the features, and the lists too where no source has one. To ask for secure processing therefore
never lets in what would have been kept out.
-/

namespace XmlBounds

def Feature.isExternal : Feature → Bool
  | loadExternalDtd | externalGeneralEntities | externalParameterEntities => true
  | secureProcessing | disallowDoctype => false

/-- The first text there is for the switch, the file's before the process's, reads `true` in any
case and between blanks. -/
def SwitchedOn (file process : Option String) : Prop :=
  ∃ text, file.or process = some text ∧ Text.lowered (Text.trimmed text) = "true"

def PropertyValue.LetsPass (v : PropertyValue) (systemId : Option String) : Prop :=
  ∃ list, v.asText = .ok list ∧ refusedProtocol systemId list accessAll = .ok none

/-- Two callers who may differ in whether they ask for secure processing, and in nothing else. -/
structure Overrides.AlikeButSecurity (o o' : Overrides) : Prop where
  settings : o'.settings = o.settings
  features : ∀ f, f ≠ .secureProcessing → o'.features f = o.features f

/-- What a protocol list is where the caller has none, and the file and the process have these
texts for it. -/
inductive ListOfSources (isOpen : Prop) (file process : Option String) : PropertyValue → Prop where
  | own {text} : file.or process = some text → ListOfSources isOpen file process (.text text)
  | opened : file.or process = none → isOpen →
      ListOfSources isOpen file process (.text accessAll)
  | closed : file.or process = none → ¬ isOpen →
      ListOfSources isOpen file process (.text accessNone)

namespace Resolution

/-- What the caller has set holds, and of the lists what stands on the caller's policy first. -/
structure FollowsCaller (r : Resolution) (o : Overrides) (p : Policy) : Prop where
  feature : ∀ f b, o.features f = some b → r.feature f = ⟨b, .callerProperty⟩
  policy : ∀ a, p.isOwned (.access a) = true →
    r.setting (.access a) = ⟨p.value (.access a), .callerPolicy⟩
  property : ∀ a v, p.isOwned (.access a) = false → o.settings (.access a) = some v →
    r.setting (.access a) = ⟨v, .callerProperty⟩

/-- Everything that the caller has not set stands open. -/
structure StandsOpen (r : Resolution) (o : Overrides) (p : Policy) : Prop where
  feature : ∀ f, f.isExternal = true → o.features f = none → r.isEnabled f = true
  list : ∀ a, p.isOwned (.access a) = false → o.settings (.access a) = none →
    (r.setting (.access a)).value = .text accessAll
  doctype : o.features .disallowDoctype = none → r.isEnabled .disallowDoctype = false

/-- What the caller has not set is as the sources have it. -/
structure FollowsSources {σ : Type} (r : Resolution) (sources : Sources (StateM σ))
    (o : Overrides) (p : Policy) : Prop where
  gates : ∃ file process, sources.Supplies resolveExternalEntities file process ∧
    (∀ f, f.isExternal = true → o.features f = none →
      (r.isEnabled f = true ↔ SwitchedOn file process)) ∧
    ∀ a, p.isOwned (.access a) = false → o.settings (.access a) = none →
      ∃ own own', sources.Supplies a.propertyName own own' ∧
        ListOfSources (SwitchedOn file process) own own' (r.setting (.access a)).value
  doctype : o.features .disallowDoctype = none → r.isEnabled .disallowDoctype = true

structure SameGates (r r' : Resolution) : Prop where
  feature : ∀ f, f ≠ .secureProcessing → r'.feature f = r.feature f
  list : ∀ a, r'.setting (.access a) = r.setting (.access a)

/-- The first resolution lets nothing in that the second does not let in. -/
structure Narrows (r' r : Resolution) : Prop where
  feature : ∀ f, f.isExternal = true → r'.isEnabled f = true → r.isEnabled f = true
  list : ∀ a, r'.setting (.access a) = r.setting (.access a) ∨
    (r.setting (.access a)).value = .text accessAll
  access : ∀ a systemId, (r'.setting (.access a)).value.LetsPass systemId →
    (r.setting (.access a)).value.LetsPass systemId
  doctype : r.isEnabled .disallowDoctype = true → r'.isEnabled .disallowDoctype = true

end Resolution

/-! ## What is asked, and what comes of it -/

section Asking

variable {σ : Type} {sources : Sources (StateM σ)} {o : Overrides} {p : Policy}
  {gate : Resolved Bool} {a : AccessList}

theorem supplies_of_candidates {name : String} {found : List (Resolved String)}
    (h : Answers (sources.candidates name) found) :
    ∃ file process, sources.Supplies name file process ∧
      found = (file.map (⟨·, .deploymentFile⟩)).toList ++
        (process.map (⟨·, .processProperty⟩)).toList := by
  obtain ⟨s, t, hst⟩ := h
  cases hst
  exact ⟨_, _, ⟨s, rfl, rfl⟩, rfl⟩

theorem lowered_true : Text.lowered "true" = "true" := by decide

theorem firstSwitch_iff (file process : Option String) :
    (Sources.firstSwitch false ((file.map (⟨·, .deploymentFile⟩)).toList ++
      (process.map (⟨·, .processProperty⟩)).toList)).value = true ↔ SwitchedOn file process := by
  have hreads : ∀ text, Text.sameIgnoringCase (Text.trimmed text) "true" = true ↔
      Text.lowered (Text.trimmed text) = "true" := by
    intro text
    rw [Text.sameIgnoringCase_iff, lowered_true]
  cases file with
  | some text => simp [Sources.firstSwitch, SwitchedOn, hreads]
  | none =>
      cases process with
      | some text => simp [Sources.firstSwitch, SwitchedOn, hreads]
      | none => simp [Sources.firstSwitch, SwitchedOn]

theorem gate_of_insecure (h : Answers (Resolve.gate sources false) gate) :
    gate = ⟨true, .secureProcessing⟩ := answers_pure h

theorem gate_of_secure (h : Answers (Resolve.gate sources true) gate) :
    ∃ file process, sources.Supplies resolveExternalEntities file process ∧
      (gate.value = true ↔ SwitchedOn file process) := by
  obtain ⟨switch, hswitch, h⟩ := answers_bind h
  obtain ⟨found, hfound, hfirst⟩ := answers_bind hswitch
  obtain ⟨file, process, hsupplies, rfl⟩ := supplies_of_candidates hfound
  refine ⟨file, process, hsupplies, ?_⟩
  rw [answers_pure h, answers_pure hfirst]
  exact firstSwitch_iff file process

/-- Where a protocol list comes from. -/
inductive ListFrom (sources : Sources (StateM σ)) (o : Overrides) (p : Policy)
    (gate : Resolved Bool) (a : AccessList) : Resolved PropertyValue → Prop where
  | policy : p.isOwned (.access a) = true →
      ListFrom sources o p gate a ⟨p.value (.access a), .callerPolicy⟩
  | property {v} : p.isOwned (.access a) = false → o.settings (.access a) = some v →
      ListFrom sources o p gate a ⟨v, .callerProperty⟩
  | insecure : p.isOwned (.access a) = false → o.settings (.access a) = none →
      o.isSecure = false →
      ListFrom sources o p gate a ⟨.text (Resolve.listOfGate gate.value), gate.origin⟩
  | source {file process text origin} : p.isOwned (.access a) = false →
      o.settings (.access a) = none → o.isSecure = true →
      sources.Supplies a.propertyName file process → file.or process = some text →
      ListFrom sources o p gate a ⟨.text text, origin⟩
  | gate {file process} : p.isOwned (.access a) = false → o.settings (.access a) = none →
      o.isSecure = true → sources.Supplies a.propertyName file process →
      file.or process = none →
      ListFrom sources o p gate a ⟨.text (Resolve.listOfGate gate.value), gate.origin⟩

theorem listFrom_of_access {v : Resolved PropertyValue}
    (h : Answers (Resolve.access sources o p gate a) v) : ListFrom sources o p gate a v := by
  unfold Resolve.access at h
  split at h
  · next howned =>
      rw [answers_pure h]
      exact .policy howned
  · next howned =>
      have hfree : p.isOwned (.access a) = false := by simpa [Policy.isOwned] using howned
      split at h
      · next w hset =>
          rw [answers_pure h]
          exact .property hfree hset
      · next hnone =>
          split at h
          · next hsecure =>
              obtain ⟨first, hfirst, h⟩ := answers_bind h
              obtain ⟨found, hfound, hfirst⟩ := answers_bind hfirst
              obtain ⟨file, process, hsupplies, rfl⟩ := supplies_of_candidates hfound
              rw [answers_pure h, answers_pure hfirst]
              cases file with
              | some text => exact .source hfree hnone hsecure hsupplies rfl
              | none =>
                  cases process with
                  | some text => exact .source hfree hnone hsecure hsupplies rfl
                  | none => exact .gate hfree hnone hsecure hsupplies rfl
          · next hsecure =>
              rw [answers_pure h]
              exact .insecure hfree hnone (by simpa using hsecure)

/-- A resolution has one gate behind all its features and lists. -/
theorem gate_of_resolve {r : Resolution} (h : Gives (resolve sources o p) r) :
    ∃ gate, Answers (Resolve.gate sources o.isSecure) gate ∧
      (∀ f, r.feature f = Resolve.feature o gate f) ∧
      ∀ a, ListFrom sources o p gate a (r.setting (.access a)) := by
  obtain ⟨limits, _, h⟩ := gives_bind h
  obtain ⟨gate, hgate, h⟩ := gives_bind h
  obtain ⟨lists, hlists, h⟩ := gives_bind h
  rw [gives_pure h]
  refine ⟨gate, gives_lift hgate, fun _ => rfl, fun a => ?_⟩
  exact listFrom_of_access (answers_lists (gives_lift hlists) a)

end Asking

/-! ## Features and lists behind a gate -/

section Behind

variable {σ : Type} {sources : Sources (StateM σ)} {o : Overrides} {p : Policy}
  {gate : Resolved Bool} {a : AccessList} {v : Resolved PropertyValue}

theorem feature_of_some {f : Feature} {b : Bool} (h : o.features f = some b) :
    Resolve.feature o gate f = ⟨b, .callerProperty⟩ := by simp [Resolve.feature, h]

theorem feature_of_external {f : Feature} (hf : f.isExternal = true) (h : o.features f = none) :
    Resolve.feature o gate f = gate := by
  cases f with
  | secureProcessing | disallowDoctype => cases hf
  | loadExternalDtd | externalGeneralEntities | externalParameterEntities =>
      simp [Resolve.feature, h]

theorem feature_of_doctype (h : o.features .disallowDoctype = none) :
    Resolve.feature o gate .disallowDoctype = ⟨o.isSecure, .secureProcessing⟩ := by
  simp [Resolve.feature, h]

theorem ListFrom.eq_policy (h : ListFrom sources o p gate a v)
    (howned : p.isOwned (.access a) = true) : v = ⟨p.value (.access a), .callerPolicy⟩ := by
  cases h with
  | policy _ => rfl
  | property hfree _ | insecure hfree _ _ | source hfree _ _ _ _ | gate hfree _ _ _ _ =>
      rw [howned] at hfree
      cases hfree

theorem ListFrom.eq_property {w : PropertyValue} (h : ListFrom sources o p gate a v)
    (hfree : p.isOwned (.access a) = false) (hset : o.settings (.access a) = some w) :
    v = ⟨w, .callerProperty⟩ := by
  cases h with
  | policy howned =>
      rw [hfree] at howned
      cases howned
  | property _ hset' =>
      rw [hset] at hset'
      cases hset'
      rfl
  | insecure _ hnone _ | source _ hnone _ _ _ | gate _ hnone _ _ _ =>
      rw [hset] at hnone
      cases hnone

theorem ListFrom.eq_of_insecure (h : ListFrom sources o p gate a v)
    (hfree : p.isOwned (.access a) = false) (hnone : o.settings (.access a) = none)
    (hinsecure : o.isSecure = false) :
    v = ⟨.text (Resolve.listOfGate gate.value), gate.origin⟩ := by
  cases h with
  | policy howned =>
      rw [hfree] at howned
      cases howned
  | property _ hset =>
      rw [hnone] at hset
      cases hset
  | insecure _ _ _ | gate _ _ _ _ _ => rfl
  | source _ _ hsecure _ _ =>
      rw [hinsecure] at hsecure
      cases hsecure

/-- Under secure processing a list that the caller does not have is the sources' own, or goes with
the gate. -/
theorem ListFrom.listOfSources {isOpen : Prop} (h : ListFrom sources o p gate a v)
    (hfree : p.isOwned (.access a) = false) (hnone : o.settings (.access a) = none)
    (hsecure : o.isSecure = true) (hgate : gate.value = true ↔ isOpen) :
    ∃ file process, sources.Supplies a.propertyName file process ∧
      ListOfSources isOpen file process v.value := by
  cases h with
  | policy howned =>
      rw [hfree] at howned
      cases howned
  | property _ hset =>
      rw [hnone] at hset
      cases hset
  | insecure _ _ hinsecure =>
      rw [hsecure] at hinsecure
      cases hinsecure
  | source _ _ _ hsupplies hown => exact ⟨_, _, hsupplies, .own hown⟩
  | gate _ _ _ hsupplies hown =>
      refine ⟨_, _, hsupplies, ?_⟩
      cases hvalue : gate.value with
      | true => exact .opened hown (hgate.mp hvalue)
      | false =>
          have hclosed : ¬ isOpen := by
            intro hopen
            have hon := hgate.mpr hopen
            rw [hvalue] at hon
            cases hon
          exact .closed hown hclosed

theorem letsPass_accessAll (systemId : Option String) :
    (PropertyValue.text accessAll).LetsPass systemId := by
  refine ⟨some accessAll, rfl, ?_⟩
  have hany : AllowList.parse (some accessAll) accessAll = .any := by decide
  cases systemId with
  | none => rfl
  | some id => simp [refusedProtocol, hany]

end Behind

/-! ## Resolutions compared -/

section Comparing

variable {σ σ' : Type} {sources : Sources (StateM σ)} {sources' : Sources (StateM σ')}
  {o o' : Overrides} {p : Policy} {r r' : Resolution}

theorem Overrides.AlikeButSecurity.numeric (h : o.AlikeButSecurity o') (ho : o.Numeric) :
    o'.Numeric := by
  intro k v hv
  rw [h.settings] at hv
  exact ho k v hv

theorem followsCaller_of_resolve (h : Gives (resolve sources o p) r) : r.FollowsCaller o p := by
  obtain ⟨gate, _, hfeature, hlist⟩ := gate_of_resolve h
  refine ⟨?_, fun a howned => (hlist a).eq_policy howned,
    fun a v hfree hset => (hlist a).eq_property hfree hset⟩
  intro f b hset
  rw [hfeature f, feature_of_some hset]

/-- Without secure processing the gate is open, whatever the sources. -/
theorem gate_of_resolve_insecure (h : Gives (resolve sources o p) r) (ho : o.isSecure = false) :
    (∀ f, r.feature f = Resolve.feature o ⟨true, .secureProcessing⟩ f) ∧
      ∀ a, p.isOwned (.access a) = false → o.settings (.access a) = none →
        r.setting (.access a) = ⟨.text accessAll, .secureProcessing⟩ := by
  obtain ⟨gate, hgate, hfeature, hlist⟩ := gate_of_resolve h
  rw [ho] at hgate
  obtain rfl := gate_of_insecure hgate
  exact ⟨hfeature, fun a hfree hnone => (hlist a).eq_of_insecure hfree hnone ho⟩

theorem standsOpen_of_resolve (h : Gives (resolve sources o p) r) (ho : o.isSecure = false) :
    r.StandsOpen o p := by
  obtain ⟨hfeature, hlist⟩ := gate_of_resolve_insecure h ho
  refine ⟨?_, ?_, ?_⟩
  · intro f hf hnone
    rw [Resolution.isEnabled, hfeature f, feature_of_external hf hnone]
  · intro a hfree hnone
    rw [hlist a hfree hnone]
  · intro hnone
    rw [Resolution.isEnabled, hfeature, feature_of_doctype hnone]
    exact ho

theorem followsSources_of_resolve (h : Gives (resolve sources o p) r) (ho : o.isSecure = true) :
    r.FollowsSources sources o p := by
  obtain ⟨gate, hgate, hfeature, hlist⟩ := gate_of_resolve h
  rw [ho] at hgate
  obtain ⟨file, process, hsupplies, hopen⟩ := gate_of_secure hgate
  refine ⟨⟨file, process, hsupplies, ?_, ?_⟩, ?_⟩
  · intro f hf hnone
    rw [Resolution.isEnabled, hfeature f, feature_of_external hf hnone]
    exact hopen
  · intro a hfree hnone
    exact (hlist a).listOfSources hfree hnone ho hopen
  · intro hnone
    rw [Resolution.isEnabled, hfeature, feature_of_doctype hnone]
    exact ho

/-- A list is the same for two callers alike in all but security, or stands open for the one who
does not ask for it. -/
theorem list_of_insecure (h : Gives (resolve sources o p) r) (h' : Gives (resolve sources' o' p) r')
    (halike : o.AlikeButSecurity o') (ho : o.isSecure = false) (a : AccessList) :
    r'.setting (.access a) = r.setting (.access a) ∨
      r.setting (.access a) = ⟨.text accessAll, .secureProcessing⟩ := by
  have hcaller := followsCaller_of_resolve h
  have hcaller' := followsCaller_of_resolve h'
  cases howned : p.isOwned (.access a) with
  | true =>
      left
      rw [hcaller.policy a howned, hcaller'.policy a howned]
  | false =>
      cases hset : o.settings (.access a) with
      | some v =>
          have hset' : o'.settings (.access a) = some v := by rw [halike.settings, hset]
          left
          rw [hcaller.property a v howned hset, hcaller'.property a v howned hset']
      | none => exact .inr ((gate_of_resolve_insecure h ho).2 a howned hset)

theorem sameGates_of_insecure (h : Gives (resolve sources o p) r)
    (h' : Gives (resolve sources' o' p) r') (halike : o.AlikeButSecurity o')
    (ho : o.isSecure = false) (ho' : o'.isSecure = false) : r.SameGates r' := by
  obtain ⟨hfeature, _⟩ := gate_of_resolve_insecure h ho
  obtain ⟨hfeature', hlist'⟩ := gate_of_resolve_insecure h' ho'
  constructor
  · intro f hf
    rw [hfeature f, hfeature' f]
    cases f with
    | secureProcessing => exact absurd rfl hf
    | disallowDoctype | loadExternalDtd | externalGeneralEntities | externalParameterEntities =>
        simp only [Resolve.feature, halike.features _ hf, ho, ho']
  · intro a
    rcases list_of_insecure h' h ⟨halike.settings.symm, fun f hf => (halike.features f hf).symm⟩
      ho' a with hsame | hopen'
    · exact hsame.symm
    · rcases list_of_insecure h h' halike ho a with hsame | hopen
      · exact hsame
      · rw [hopen, hopen']

theorem narrows_of_insecure (h : Gives (resolve sources o p) r)
    (h' : Gives (resolve sources' o' p) r') (halike : o.AlikeButSecurity o')
    (ho : o.isSecure = false) : r'.Narrows r := by
  have hopen := standsOpen_of_resolve h ho
  have hcaller := followsCaller_of_resolve h
  have hcaller' := followsCaller_of_resolve h'
  have hlists := list_of_insecure h h' halike ho
  refine ⟨?_, ?_, ?_, ?_⟩
  · intro f hf hon
    have hne : f ≠ .secureProcessing := by
      rintro rfl
      cases hf
    cases hset : o.features f with
    | none => exact hopen.feature f hf hset
    | some b =>
        have hset' : o'.features f = some b := by rw [halike.features f hne, hset]
        rw [Resolution.isEnabled, hcaller'.feature f b hset'] at hon
        rw [Resolution.isEnabled, hcaller.feature f b hset]
        exact hon
  · intro a
    rcases hlists a with hsame | hall
    · exact .inl hsame
    · right
      rw [hall]
  · intro a systemId hpass
    rcases hlists a with hsame | hall
    · rw [← hsame]
      exact hpass
    · rw [hall]
      exact letsPass_accessAll systemId
  · intro hon
    cases hset : o.features .disallowDoctype with
    | none =>
        rw [hopen.doctype hset] at hon
        cases hon
    | some b =>
        have hset' : o'.features .disallowDoctype = some b := by
          rw [halike.features _ (by decide), hset]
        rw [Resolution.isEnabled, hcaller.feature _ b hset] at hon
        rw [Resolution.isEnabled, hcaller'.feature _ b hset']
        exact hon

end Comparing

/-- If the limits that the caller has set are numbers, resolution succeeds. What the caller has set
holds; the rest stands open without secure processing, and follows the sources with it. Without it
other sources and other answers change nothing, and to ask for it narrows every gate, also while the
sources come to answer differently. -/
theorem exists_resolve_gates {σ : Type} {o : Overrides} (ho : o.Numeric)
    (sources : Sources (StateM σ)) (p : Policy) (s : σ) :
    ∃ r t, (resolve sources o p).run s = (.ok r, t) ∧ r.FollowsCaller o p ∧
      (o.isSecure = true → r.FollowsSources sources o p) ∧
      (o.isSecure = false → r.StandsOpen o p ∧
        ∀ {σ' : Type} (sources' : Sources (StateM σ')) (o' : Overrides) (s' : σ'),
          o.AlikeButSecurity o' →
          ∃ r' t', (resolve sources' o' p).run s' = (.ok r', t') ∧
            (o'.isSecure = false → r.SameGates r') ∧ r'.Narrows r) := by
  obtain ⟨r, t, hrun, _⟩ := succeeds_resolve ho sources p s s
  have h : Gives (resolve sources o p) r := ⟨s, t, hrun⟩
  refine ⟨r, t, hrun, followsCaller_of_resolve h, followsSources_of_resolve h, ?_⟩
  intro hinsecure
  refine ⟨standsOpen_of_resolve h hinsecure, ?_⟩
  intro σ' sources' o' s' halike
  obtain ⟨r', t', hrun', _⟩ := succeeds_resolve (halike.numeric ho) sources' p s' s'
  have h' : Gives (resolve sources' o' p) r' := ⟨s', t', hrun'⟩
  exact ⟨r', t', hrun', sameGates_of_insecure h h' halike hinsecure,
    narrows_of_insecure h h' halike hinsecure⟩

/-- Sources of which the process switches the gates on, and the file has a list for schemas. -/
def schemasFromFiles : Sources (StateM Unit) :=
  .ofProperties (Properties.empty.insert "javax.xml.accessExternalSchema" "file,jar")
    (Properties.empty.insert "jdk.xml.resolveExternalEntities" " True ")

def withoutEntities : Overrides := Overrides.none.putFeature .externalGeneralEntities false

def withoutSecurity : Overrides := withoutEntities.putFeature .secureProcessing false

/-- A policy whose caller has DTDs come from one protocol only. -/
def dtdsByHttps : Policy := Policy.initial.setAccess .externalDtd (some "https")

theorem alike_withoutSecurity : withoutSecurity.AlikeButSecurity withoutEntities := by
  refine ⟨rfl, ?_⟩
  intro f hf
  simp [withoutSecurity, Overrides.putFeature, hf]

/-- The switch and the list of the file count only for the caller who processes securely; the list
on the policy counts for both. -/
theorem exists_resolve_schemasFromFiles :
    (withoutSecurity.Numeric ∧ withoutSecurity.isSecure = false ∧
      withoutSecurity.AlikeButSecurity withoutEntities ∧ ∃ r t,
        (resolve schemasFromFiles withoutSecurity dtdsByHttps).run () = (.ok r, t) ∧
        (r.setting (.access .externalSchema)).value = .text "all" ∧
        r.setting (.access .externalDtd) = ⟨.text "https", .callerPolicy⟩ ∧ ∃ r' t',
          (resolve schemasFromFiles withoutEntities dtdsByHttps).run () = (.ok r', t') ∧
          r'.Narrows r) ∧
    (withoutEntities.Numeric ∧ withoutEntities.isSecure = true ∧ ∃ r t,
      (resolve schemasFromFiles withoutEntities dtdsByHttps).run () = (.ok r, t) ∧
      r.isEnabled .loadExternalDtd = true ∧
      r.feature .externalGeneralEntities = ⟨false, .callerProperty⟩ ∧
      (r.setting (.access .externalSchema)).value = .text "file,jar") := by
  have hnumeric : withoutEntities.Numeric := Overrides.numeric_none
  have hnumeric' : withoutSecurity.Numeric := Overrides.numeric_none
  constructor
  · obtain ⟨r, t, hrun, hcaller, _, hopen⟩ :=
      exists_resolve_gates hnumeric' schemasFromFiles dtdsByHttps ()
    obtain ⟨hstands, hothers⟩ := hopen rfl
    obtain ⟨r', t', hrun', _, hnarrows⟩ :=
      hothers schemasFromFiles withoutEntities () alike_withoutSecurity
    exact ⟨hnumeric', rfl, alike_withoutSecurity, r, t, hrun, hstands.list _ rfl rfl,
      hcaller.policy _ rfl, r', t', hrun', hnarrows⟩
  · obtain ⟨r, t, hrun, hcaller, hsources, _⟩ :=
      exists_resolve_gates hnumeric schemasFromFiles dtdsByHttps ()
    obtain ⟨file, process, hsupplies, hfeatures, hlists⟩ := (hsources rfl).gates
    obtain ⟨rfl, rfl⟩ := hsupplies.eq_of_steady (Sources.steady_ofProperties _ _ _)
    have hon : SwitchedOn none (some " True ") := ⟨" True ", rfl, by rfl⟩
    refine ⟨hnumeric, rfl, r, t, hrun, (hfeatures _ rfl rfl).mpr hon,
      hcaller.feature _ _ rfl, ?_⟩
    obtain ⟨own, own', hown, hlist⟩ := hlists .externalSchema rfl rfl
    obtain ⟨rfl, rfl⟩ := hown.eq_of_steady (Sources.steady_ofProperties _ _ _)
    generalize (r.setting (.access .externalSchema)).value = v at hlist
    cases hlist with
    | own h =>
        cases h
        rfl
    | opened h _ | closed h _ => cases h

end XmlBounds
