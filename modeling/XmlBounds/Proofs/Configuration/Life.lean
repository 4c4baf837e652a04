import XmlBounds.Check.Reader
import XmlBounds.Proofs.Configuration.Calls

/-!
# The life of a configuration

Between its calls a configuration serves the checks of documents, its hooks are exchanged, and
whoever holds a handle to its policy may write to that. None of this touches what the caller has set
through calls, and no resolution is made on the way.
-/

namespace XmlBounds

/-- What may be done with a configuration. -/
inductive Act where
  | configure (call : Call)
  /-- Writes to the live policy through a handle to it. -/
  | write (change : Policy → Policy)
  | useResolver (resolver : Option EntityResolver)
  | useReporter (reporter : Reporter)
  | startParse
  /-- Checks a text with a reader that has the system identifier. -/
  | checkText (files : Files) (systemId : Option String) (text : String)
  | checkFile (files : Files) (systemId : Option String) (path : String)
  | checkAccess (kind : ResourceKind) (systemId : Option String)
  | report (d : Diagnostic)
  | resolveEntity (files : Files) (id : ResourceId)

namespace Configuration

variable {σ α : Type}

/-- Carries out what asks no property source. -/
def alone (x : StateM Configuration (Except Fault α)) : Configured (StateM σ) Unit :=
  ExceptT.mk fun c => pure ((x c).1.map fun _ => (), (x c).2)

/-- Lends the configuration to a reader. -/
def reading (systemId : Option String) (x : StateM DocumentReader (Except Fault α)) :
    StateM Configuration (Except Fault α) := fun c =>
  ((x ⟨c, systemId⟩).1, (x ⟨c, systemId⟩).2.configuration)

/-- What the caller has set, what was resolved from it and the live policy are the same. -/
structure SameSettings (c c' : Configuration) : Prop where
  overrides : c'.overrides = c.overrides
  resolution : c'.resolution = c.resolution
  policy : c'.policy = c.policy

theorem sameSettings_accounted (x : Accounted α) (c : Configuration) :
    c.SameSettings (accounted x c).2 := by
  unfold accounted
  split
  · exact ⟨rfl, rfl, rfl⟩
  · exact ⟨rfl, rfl, rfl⟩

theorem sameSettings_checkText (files : Files) (text : String) (r : DocumentReader) :
    r.configuration.SameSettings (DocumentReader.checkText files text r).2.configuration := by
  have hstart := sameSettings_accounted
    (XmlBounds.checkText (r.configuration.startParse.context files r.systemId) text)
    r.configuration.startParse
  exact ⟨hstart.overrides, hstart.resolution, hstart.policy⟩

theorem sameSettings_checkFile (files : Files) (path : String) (r : DocumentReader) :
    r.configuration.SameSettings (DocumentReader.checkFile files path r).2.configuration := by
  unfold DocumentReader.checkFile
  split
  · exact ⟨rfl, rfl, rfl⟩
  · next text id _ => exact sameSettings_checkText files text { r with systemId := some id }

end Configuration

namespace Act

variable {σ : Type} {sources : Sources (StateM σ)} {c c' : Configuration} {s s' : σ}

def perform (sources : Sources (StateM σ)) : Act → Configured (StateM σ) Unit
  | configure call => call.perform sources
  | write change => modify fun c => { c with policy := change c.policy }
  | useResolver resolver => modify fun c => { c with resolver }
  | useReporter reporter => modify fun c => { c with reporter }
  | startParse => modify Configuration.startParse
  | checkText files systemId text =>
      Configuration.alone (Configuration.reading systemId (DocumentReader.checkText files text))
  | checkFile files systemId path =>
      Configuration.alone (Configuration.reading systemId (DocumentReader.checkFile files path))
  | checkAccess kind systemId =>
      Configuration.alone (Configuration.checkExternalAccess kind systemId)
  | report d => Configuration.alone (Configuration.report d)
  | resolveEntity files id => Configuration.alone (Configuration.resolveEntity files id)

/-- The resolutions that the act has made, if it came to the result and the configuration: a call
that succeeds makes one. -/
def made : Act → Except Fault Unit → Configuration → List Resolution
  | configure _, .ok (), after => [after.resolution]
  | _, _, _ => []

/-- What an act makes of a configuration: what a call makes of it, or a write to its policy, or
nothing that has to do with its settings. -/
inductive Effect (sources : Sources (StateM σ)) (c : Configuration) (s : σ) :
    Act → Except Fault Unit → Configuration → Prop where
  | configure {call result c' s'} : (call.perform sources).run c s = ((result, c'), s') →
      Effect sources c s (.configure call) result c'
  | write {change result} :
      Effect sources c s (.write change) result { c with policy := change c.policy }
  | aside {act result c'} : (∀ call, act ≠ .configure call) → (∀ change, act ≠ .write change) →
      c.SameSettings c' → Effect sources c s act result c'

theorem effect_of_perform {act : Act} {result : Except Fault Unit}
    (h : (act.perform sources).run c s = ((result, c'), s')) :
    Effect sources c s act result c' := by
  cases act with
  | configure call => exact .configure h
  | write change =>
      cases h
      exact .write
  | useResolver resolver | useReporter reporter | startParse =>
      cases h
      exact .aside (by simp) (by simp) ⟨rfl, rfl, rfl⟩
  | checkText files systemId text =>
      cases h
      have hsame := Configuration.sameSettings_checkText files text ⟨c, systemId⟩
      exact .aside (by simp) (by simp) hsame
  | checkFile files systemId path =>
      cases h
      have hsame := Configuration.sameSettings_checkFile files path ⟨c, systemId⟩
      exact .aside (by simp) (by simp) hsame
  | checkAccess kind systemId =>
      cases h
      exact .aside (by simp) (by simp) (Configuration.sameSettings_accounted _ c)
  | report d =>
      cases h
      exact .aside (by simp) (by simp) (Configuration.sameSettings_accounted _ c)
  | resolveEntity files id =>
      cases h
      exact .aside (by simp) (by simp) (Configuration.sameSettings_accounted _ c)

theorem made_of_ne_configure {act : Act} (h : ∀ call, act ≠ .configure call)
    (result : Except Fault Unit) (after : Configuration) : act.made result after = [] := by
  cases act with
  | configure call => exact absurd rfl (h call)
  | _ => rfl

end Act

namespace Configuration

variable {σ : Type} {sources : Sources (StateM σ)} {c c' : Configuration}

/-- The acts, in order, lead from the one configuration to the other, over sources that may have
changed between any two of them. The resolutions are those made on the way. -/
inductive Runs (sources : Sources (StateM σ)) :
    Configuration → List Act → List Resolution → Configuration → Prop where
  | nil (c : Configuration) : Runs sources c [] [] c
  | cons {c c' c'' : Configuration} {act : Act} {acts : List Act} {made : List Resolution}
      {result : Except Fault Unit} {s s' : σ} :
      (act.perform sources).run c s = ((result, c'), s') → Runs sources c' acts made c'' →
      Runs sources c (act :: acts) (act.made result c' ++ made) c''

/-- The configuration can come about. -/
def Attained (sources : Sources (StateM σ)) (c : Configuration) : Prop :=
  ∃ first s s' acts made, (fresh sources).run s = (.ok first, s') ∧
    Runs sources first acts made c

theorem Runs.append {c'' : Configuration} {acts acts' : List Act} {made made' : List Resolution}
    (h : Runs sources c acts made c') (h' : Runs sources c' acts' made' c'') :
    Runs sources c (acts ++ acts') (made ++ made') c'' := by
  induction h with
  | nil c => exact h'
  | cons hact _ ih =>
      rw [List.append_assoc]
      exact .cons hact (ih h')

theorem Attained.run {acts : List Act} {made : List Resolution} (h : Attained sources c)
    (hrun : Runs sources c acts made c') : Attained sources c' := by
  obtain ⟨first, s, s', acts₀, made₀, hfresh, hfirst⟩ := h
  exact ⟨first, s, s', _, _, hfresh, hfirst.append hrun⟩

/-- What each act of a run keeps holds at its end, and what holds of each resolution that an act
makes holds of all those of the run. -/
theorem Runs.invariant {P : Configuration → Prop} {Q : Resolution → Prop} {acts : List Act}
    {made : List Resolution} (h : Runs sources c acts made c')
    (hstep : ∀ act ∈ acts, ∀ {c c' : Configuration} {result : Except Fault Unit} {s s' : σ}, P c →
      (act.perform sources).run c s = ((result, c'), s') →
      P c' ∧ ∀ r ∈ act.made result c', Q r)
    (hc : P c) : P c' ∧ ∀ r ∈ made, Q r := by
  induction h with
  | nil c => exact ⟨hc, by simp⟩
  | cons hact _ ih =>
      obtain ⟨hmid, hfirst⟩ := hstep _ List.mem_cons_self hc hact
      obtain ⟨hend, hrest⟩ := ih (fun act hmem => hstep act (List.mem_cons_of_mem _ hmem)) hmid
      refine ⟨hend, ?_⟩
      intro r hr
      rcases List.mem_append.mp hr with hr | hr
      · exact hfirst r hr
      · exact hrest r hr

theorem converted_act {act : Act} {result : Except Fault Unit} {s s' : σ}
    (hc : Converted c.overrides)
    (h : (act.perform sources).run c s = ((result, c'), s')) : Converted c'.overrides := by
  cases Act.effect_of_perform h with
  | configure hcall => exact converted_perform hc hcall
  | write => exact hc
  | aside _ _ hsame =>
      rw [hsame.overrides]
      exact hc

/-- However a configuration came about, the caller's properties on it are converted ones. -/
theorem Attained.converted (h : Attained sources c) : Converted c.overrides := by
  obtain ⟨first, s, s', acts, made, hfresh, hrun⟩ := h
  have hkept : ∀ act ∈ acts, ∀ {c c' : Configuration} {result : Except Fault Unit} {s s' : σ},
      Converted c.overrides → (act.perform sources).run c s = ((result, c'), s') →
      Converted c'.overrides ∧ ∀ r ∈ act.made result c', True := by
    intro act _ c c' result s s' hc hact
    exact ⟨converted_act hc hact, fun _ _ => trivial⟩
  exact (hrun.invariant hkept (Reachable.fresh hfresh).converted).1

end Configuration

end XmlBounds
