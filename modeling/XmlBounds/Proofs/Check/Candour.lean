import XmlBounds.Proofs.Check.Plain

/-!
# No violation goes by

A check that finds a violation hands it to the reporter and stops, with the reporter's fault if it
has one and else with the violation. So the reporter is called once at most, a check that called it
fails, and no violation is failed with that was not reported: unless it is the reporter itself that
answers with another one, or the resolver.
-/

namespace XmlBounds

/-- The resolver never answers with a violation. -/
def EntityResolver.RaisesNothing (resolve : EntityResolver) : Prop :=
  ∀ journal id d, resolve journal id ≠ .error (.fatal d)

theorem EntityResolver.RaisesNothing.isViolation {resolve : EntityResolver} {journal : List Entry}
    {id : ResourceId} {fault : Fault} (h : resolve.RaisesNothing)
    (hfault : resolve journal id = .error fault) : fault.isViolation = false := by
  cases fault with
  | fatal d => exact absurd hfault (h journal id d)
  | _ => rfl

/-- Either nothing is reported, and no violation is failed with; or one is reported, and what it
comes to is failed with. -/
def candid (reporter : Reporter) : Outcomes Ledger where
  success l l' := l'.reports = l.reports
  failure fault l l' :=
    (l'.reports = l.reports ∧ fault.isViolation = false) ∨
      ∃ d, l'.reports = l.reports ++ [⟨d, reporter.records⟩] ∧ fault = reporter.verdict d

instance {reporter : Reporter} : (candid reporter).Composes where
  refl _ := rfl
  trans h h' := h'.trans h
  stop _ h := .inl ⟨rfl, h⟩
  after {fault s t u} h h' := by
    have hsame : t.reports = s.reports := h
    rcases h' with ⟨hquiet, hfault⟩ | ⟨d, hreported, hfault⟩
    · exact .inl ⟨hquiet.trans hsame, hfault⟩
    · exact .inr ⟨d, by rw [hreported, hsame], hfault⟩

theorem Reporter.NeverInterrupts.isInterruption_verdict {reporter : Reporter}
    (h : reporter.NeverInterrupts) (d : Diagnostic) :
    (reporter.verdict d).isInterruption = false := by
  unfold verdict
  split
  · rfl
  · next hrespond => exact h d _ hrespond

theorem success_of_isInterruption {reporter : Reporter} (hreporter : reporter.NeverInterrupts)
    {fault : Fault} {l l' : Ledger} (hinterruption : fault.isInterruption = true)
    (h : (candid reporter).failure fault l l') : (candid reporter).success l l' := by
  rcases h with ⟨hreports, -⟩ | ⟨d, -, rfl⟩
  · exact hreports
  · rw [hreporter.isInterruption_verdict] at hinterruption
    cases hinterruption

theorem covers_candid (ctx : CheckContext) (hreporter : ctx.reporter.NeverInterrupts)
    (hresolver : ∀ resolve, ctx.resolver = some resolve → resolve.RaisesNothing) :
    ((candid ctx.reporter).along fun p : Pass => p.ledger).judgement.Covers ctx := by
  have hsteps : (candid ctx.reporter).judgement.CoversSteps ctx := by
    refine Outcomes.coversSteps id (fun l _ => .inr ⟨_, rfl, rfl⟩) ?_
      (success_of_isInterruption hreporter)
    intro resolve journal id fault l hresolve hfault
    exact .inl ⟨rfl, (hresolver resolve hresolve).isViolation hfault⟩
  exact hsteps.covers Outcomes.liftsTo fun d => Outcomes.always_raise fun l => .inr ⟨d, rfl, rfl⟩

theorem Reporter.respond_of_verdict {reporter : Reporter} {d d' : Diagnostic}
    (h : reporter.verdict d = .fatal d') : d = d' ∨ reporter.respond d = .error (.fatal d') := by
  unfold verdict at h
  split at h
  · cases h
    exact .inl rfl
  · next hrespond =>
      rw [hrespond, h]
      exact .inr rfl

/-- A check calls the reporter at most once. If it does, it fails, with the reporter's fault or else
with what was reported; and a violation that it fails with was reported, or is what the reporter
answered with. -/
theorem reported_of_checkText {files : Files} {text : String} {r r' : DocumentReader}
    {result : Except Fault CheckReport}
    (hreporter : r.configuration.reporter.NeverInterrupts)
    (hresolver : ∀ resolve, r.configuration.resolver = some resolve → resolve.RaisesNothing)
    (h : DocumentReader.checkText files text r = (result, r')) :
    ∃ reported : Option Diagnostic,
      r'.configuration.ledger.reports = r.configuration.ledger.reports ++
        reported.toList.map (⟨·, r.configuration.reporter.records⟩) ∧
      (∀ d ∈ reported,
        (∀ fault, r.configuration.reporter.respond d = .error fault → result = .error fault) ∧
        (r.configuration.reporter.respond d = .ok () → result = .error (.fatal d))) ∧
      ∀ d, result = .error (.fatal d) → d ∈ reported ∨
        ∃ d' ∈ reported, r.configuration.reporter.respond d' = .error (.fatal d) := by
  have hcandid := DocumentReader.outcome_of_checkText (O := candid r.configuration.reporter)
    (covers_candid (r.context files) hreporter hresolver) h
  cases result with
  | ok report =>
      have hreports : r'.configuration.ledger.reports = r.configuration.ledger.reports :=
        hcandid.1 report rfl
      exact ⟨none, by simp [hreports], nofun, nofun⟩
  | error fault =>
      rcases hcandid.2 fault rfl with ⟨hreports, hfault⟩ | ⟨d, hreports, rfl⟩
      · refine ⟨none, hreports.trans (List.append_nil _).symm, nofun, ?_⟩
        rintro d hd
        cases hd
        cases hfault
      · refine ⟨some d, hreports, ?_, ?_⟩
        · rintro _ ⟨⟩
          constructor
          · intro fault hrespond
            rw [Reporter.verdict, hrespond]
          · intro hrespond
            rw [Reporter.verdict, hrespond]
        · intro d' hd'
          rcases Reporter.respond_of_verdict (Except.error.inj hd') with rfl | hrespond
          · exact .inl rfl
          · exact .inr ⟨d, rfl, hrespond⟩

/-- A reader whose reporter cannot write down what it is given. External DTDs may be loaded, but
only from the web. -/
def DocumentReader.unheard : DocumentReader where
  systemId := none
  configuration := {
    (DocumentReader.plain (fun f => f = .loadExternalDtd)
      (some fun _ _ => .error (.io ⟨.notFound, none⟩))).configuration with
    policy := Policy.initial.setAccess .externalDtd (some "http")
    reporter := ⟨fun _ => .error (.io ⟨.brokenPipe, none⟩), true⟩ }

/-- What the reporter could not write down counts as reported all the same, and stops the check. -/
theorem reported_unheard :
    let checked := DocumentReader.checkText Plain.noFiles
      "<!DOCTYPE a SYSTEM \"d.dtd\"><a/>" .unheard
    ∃ d, checked.1 = .error (.io ⟨.brokenPipe, none⟩) ∧
      checked.2.configuration.ledger.reports = [⟨d, true⟩] ∧ d.key = .accessExternalDtd := by
  intro checked
  have hreports : checked.2.configuration.ledger.reports.map (·.diagnostic.key) =
      [.accessExternalDtd] := by decide +kernel
  have hresolver : ∀ resolve, DocumentReader.unheard.configuration.resolver = some resolve →
      resolve.RaisesNothing := by
    rintro resolve ⟨⟩ journal id d hanswer
    cases hanswer
  have hchecked : DocumentReader.checkText Plain.noFiles "<!DOCTYPE a SYSTEM \"d.dtd\"><a/>"
      .unheard = (checked.1, checked.2) := rfl
  have hreporter : DocumentReader.unheard.configuration.reporter.NeverInterrupts := by
    rintro d fault hrespond
    cases hrespond
    rfl
  obtain ⟨reported, hgrown, hanswer, _⟩ := reported_of_checkText hreporter hresolver hchecked
  have hgrown : checked.2.configuration.ledger.reports =
      reported.toList.map (⟨·, true⟩) := hgrown
  rw [hgrown] at hreports
  cases reported with
  | none => cases hreports
  | some d =>
      have hfault : DocumentReader.unheard.configuration.reporter.respond d =
          .error (.io ⟨.brokenPipe, none⟩) := rfl
      have hkey : d.key = .accessExternalDtd := by simpa using hreports
      exact ⟨d, (hanswer d (Option.mem_some_self d)).1 _ hfault, hgrown, hkey⟩

end XmlBounds
