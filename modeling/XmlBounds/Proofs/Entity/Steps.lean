import XmlBounds.Proofs.Entity.Fetching
import XmlBounds.Proofs.Judgement

/-!
# The steps of a fetch

Whatever a pass does about entities and external resources, it raises diagnostics, writes to the
ledger and asks the installed resolver. What can be said of these steps can be said of the
monitoring of declarations and of a whole fetch. None of them speaks of recursion, nor of what an
element says about occurrences.
-/

namespace XmlBounds

/-- What was reported meanwhile is of other kinds. -/
def Ledger.SilentOn (key : MessageKey) (l l' : Ledger) : Prop :=
  ∃ new, l'.reports = l.reports ++ new ∧ ∀ report ∈ new, report.diagnostic.key ≠ key

namespace Ledger.SilentOn

variable {key : MessageKey} {l l' l'' : Ledger}

theorem of_eq (h : l'.reports = l.reports) : l.SilentOn key l' :=
  ⟨[], by rw [h, List.append_nil], by simp⟩

theorem trans (h : l.SilentOn key l') (h' : l'.SilentOn key l'') : l.SilentOn key l'' := by
  obtain ⟨older, hreports, hold⟩ := h
  obtain ⟨newer, hreports', hnew⟩ := h'
  refine ⟨older ++ newer, by rw [hreports', hreports, List.append_assoc], ?_⟩
  intro report hmem
  rcases List.mem_append.mp hmem with hmem | hmem
  · exact hold report hmem
  · exact hnew report hmem

theorem of_report {report : Report} (h : report.diagnostic.key ≠ key) (l : Ledger) :
    l.SilentOn key { l with reports := l.reports ++ [report] } :=
  ⟨[report], rfl, List.forall_mem_singleton.mpr h⟩

end Ledger.SilentOn

/-- What the steps of monitoring and fetching may be about. -/
def MessageKey.IsOfStep (key : MessageKey) : Prop := key ≠ .recursiveReference ∧ key ≠ .maxOccurs

instance : DecidablePred MessageKey.IsOfStep := fun _ => inferInstanceAs (Decidable (_ ∧ _))

theorem Policy.key_checkEntitySize {policy : Policy} {size total : Nat} {isParameter : Bool} :
    ∀ d ∈ policy.checkEntitySize size total isParameter, d.key.IsOfStep := by
  intro d hd
  have hkey (k : LimitKind) (key : MessageKey) (observed : Nat)
      (hmem : d ∈ if policy.exceeds k observed then [Diagnostic.fatal key [policy.limitArg k]]
        else []) : d.key = key := by
    split at hmem
    · rw [List.mem_singleton.mp hmem]
      rfl
    · cases hmem
  rcases List.mem_append.mp hd with htotal | hsize
  · rw [hkey _ _ _ htotal]
    decide
  · split at hsize
    · rw [hkey _ _ _ hsize]
      decide
    · rw [hkey _ _ _ hsize]
      decide

theorem ResourceKind.isOfStep_refusal (kind : ResourceKind) : kind.refusal.IsOfStep := by
  cases kind <;> decide

theorem isViolation_ofProtocol (fault : ProtocolFault) :
    (Fault.ofProtocol fault).isViolation = false := by cases fault <;> rfl

theorem isViolation_of_localPath {systemId : String} {fault : Fault}
    (h : localPath systemId = .error fault) : fault.isViolation = false := by
  unfold localPath at h
  split at h
  · split at h
    · split at h
      · cases h
      · cases h
        rfl
    · cases h
      rfl
  · cases h

namespace Judgement

/-- The steps on the ledger of which monitoring and fetching are made are judged so. -/
structure CoversSteps (J : Judgement Ledger) (ctx : CheckContext) : Prop where
  raise : ∀ {α : Type} {d : Diagnostic}, d.key.IsOfStep →
    J.Always (Accounted.raise ctx.reporter d : Accounted α)
  note : ∀ e, J.Always (Accounted.note e)
  count : ∀ amount, J.Always (Accounted.count amount)
  /-- What is judged so may be interrupted and taken up again. -/
  takeUp : ∀ {x : Accounted Unit}, J.Always x → J.Always x.takenUp
  /-- The installed resolver answers alike on ledgers that are alike. -/
  answer : ∀ {resolve l l'} id, ctx.resolver = some resolve → J.alike l l' →
    resolve l'.journal id = resolve l.journal id
  /-- The installed resolver may fail as it does. -/
  failing : ∀ {α : Type} {resolve l id fault}, ctx.resolver = some resolve →
    resolve l.journal id = .error fault → J.Applies (throw fault : Accounted α) l

namespace CoversSteps

variable {J : Judgement Ledger} [J.Composes] {ctx : CheckContext}

theorem raiseFirst (hJ : J.CoversSteps ctx) {found : List Diagnostic}
    (hfound : ∀ d ∈ found, d.key.IsOfStep) :
    J.Always (Accounted.raiseFirst ctx.reporter found) := by
  cases found with
  | nil => exact always_pure ()
  | cons d rest => exact hJ.raise (hfound d List.mem_cons_self)

theorem countEntity (hJ : J.CoversSteps ctx) (name : String) (amount size : Nat) :
    J.Always (XmlBounds.countEntity ctx.policy ctx.reporter name amount size) :=
  (hJ.count amount).bind fun _ => (hJ.note _).bind fun _ =>
    hJ.raiseFirst Policy.key_checkEntitySize

theorem sizeMonitor (hJ : J.CoversSteps ctx) (e : Dtd.Event) :
    J.Always (XmlBounds.sizeMonitor ctx.policy ctx.reporter e) := by
  cases e with
  | internalEntity name text =>
      exact (hJ.note _).bind fun _ => (hJ.countEntity _ _ _).bind fun _ => always_pure _
  | _ => exact always_pure _

theorem checkAccess (hJ : J.CoversSteps ctx) (kind : ResourceKind) (systemId : Option String) :
    J.Always (XmlBounds.checkAccess ctx.policy ctx.reporter kind systemId) := by
  unfold XmlBounds.checkAccess
  split
  · next fault _ =>
      exact (hJ.note _).bind fun _ => always_throw _ (isViolation_ofProtocol fault)
  · exact hJ.note _
  · exact (hJ.note _).bind fun _ => hJ.raise kind.isOfStep_refusal

theorem openFile (files : Files) (path : LocalPath) :
    J.Always (XmlBounds.openFile files path) := by
  unfold XmlBounds.openFile
  split
  · exact always_pure _
  · exact always_throw _

theorem openSource (hJ : J.CoversSteps ctx) (files : Files) (id : ResourceId)
    (source : InputSource ByteStream) : J.Always (XmlBounds.openSource files id source) := by
  unfold XmlBounds.openSource
  split
  · exact always_pure _
  · split
    · exact always_throw _
    · split
      · next hpath => exact always_throw _ (isViolation_of_localPath hpath)
      · exact (hJ.note _).bind fun _ => (openFile files _).bind fun _ => always_pure _

/-- A source is opened; nothing is done for no source. -/
theorem acceptSource (hJ : J.CoversSteps ctx) (files : Files) (id : ResourceId)
    (source : Option (InputSource ByteStream)) : J.Always (acceptAnswer files id (.ok source)) := by
  cases source with
  | none => exact always_pure _
  | some source => exact (hJ.openSource files id source).bind fun _ => always_pure _

theorem resolveInstalled (hJ : J.CoversSteps ctx) (id : ResourceId) :
    J.Always (resolveMonitored ctx.resolver ctx.files id) := by
  cases hresolver : ctx.resolver with
  | none => exact always_pure _
  | some resolve =>
      refine (hJ.note _).bind fun _ l => ?_
      refine Composes.read ?_ ?_
      · intro l' halike
        rw [hJ.answer id hresolver halike]
      · cases hanswer : resolve l.journal id with
        | error fault => exact hJ.failing hresolver hanswer
        | ok source => exact hJ.acceptSource ctx.files id source l

theorem resolveFallback (hJ : J.CoversSteps ctx) (directory : String) (id : ResourceId) :
    J.Always (resolveMonitored (some (systemIdResolver directory)) ctx.files id) :=
  (hJ.note _).bind fun _ => always_read (fun _ _ _ => rfl) fun _ =>
    hJ.acceptSource ctx.files id _

theorem resolveResource (hJ : J.CoversSteps ctx) (id : ResourceId) :
    J.Always (XmlBounds.resolveResource ctx id) := by
  refine (hJ.resolveInstalled id).bind fun answer => ?_
  cases answer with
  | some source => exact always_pure _
  | none =>
      refine (hJ.resolveFallback _ id).bind fun answer => ?_
      cases answer with
      | some source => exact always_pure _
      | none => exact always_throw _

theorem readRest (hJ : J.CoversSteps ctx) (got : List UInt8) (s : MonitoredStream) :
    J.Always (MonitoredStream.readRest ctx.policy ctx.reporter got s) := by
  rw [MonitoredStream.readRest_eq]
  split
  · exact always_throw _
  · exact always_pure _
  · next b chunk inner hread =>
      -- There is less to read after each read that gives something.
      have hshorter := MonitoredStream.length_lt_of_read hread
      exact (hJ.takeUp (hJ.countEntity _ _ _)).bind fun _ => readRest hJ _ _
termination_by s.inner.content.length

theorem readAll (hJ : J.CoversSteps ctx) (stream : Stream) :
    J.Always (stream.readAll ctx.policy ctx.reporter) := by
  cases stream with
  | plain s =>
      simp only [Stream.readAll]
      split
      · exact always_pure _
      · exact always_throw _
  | monitored s =>
      exact (hJ.readRest [] s).bind fun _ => (hJ.note _).bind fun _ => always_pure _

theorem readText (hJ : J.CoversSteps ctx) (source : InputSource Stream) :
    J.Always (source.readText ctx.policy ctx.reporter) := by
  unfold InputSource.readText
  split
  · refine (hJ.readAll _).bind fun bytes => ?_
    split
    · exact always_pure _
    · exact always_throw _
  · refine (hJ.readAll _).bind fun bytes => ?_
    split
    · exact always_pure _
    · exact always_throw _
  · exact always_pure _

theorem fetch (hJ : J.CoversSteps ctx) (kind : ResourceKind) (id : ResourceId) :
    J.Always (XmlBounds.fetch ctx kind id) :=
  (hJ.checkAccess _ _).bind fun _ => (hJ.resolveResource _).bind fun _ =>
    (hJ.readText _).bind fun _ => always_pure _

end CoversSteps

end Judgement

/-- What a violation comes to: the reporter's fault if it has one, else the violation. -/
def Reporter.verdict (reporter : Reporter) (d : Diagnostic) : Fault :=
  match reporter.respond d with
  | .ok () => .fatal d
  | .error fault => fault

namespace Outcomes

variable {O : Outcomes Ledger} {ctx : CheckContext}

theorem always_raise {d : Diagnostic} {α : Type}
    (h : ∀ l : Ledger, O.failure (ctx.reporter.verdict d) l
      { l with reports := l.reports ++ [⟨d, ctx.reporter.records⟩] }) :
    O.judgement.Always (Accounted.raise ctx.reporter d : Accounted α) := by
  intro l
  constructor
  · intro a t hx
    rw [Accounted.raise_apply] at hx
    cases hx
  · intro fault t hx
    rw [Accounted.raise_apply] at hx
    cases hx
    exact h l

/-- What comes of an interruption that is no failure any more is a success. -/
theorem always_takenUp {x : Accounted Unit}
    (hinterrupted : ∀ {fault l l'}, fault.isInterruption = true → O.failure fault l l' →
      O.success l l')
    (h : O.judgement.Always x) : O.judgement.Always x.takenUp := by
  intro l
  constructor
  · intro done l' hx
    rcases Accounted.ok_of_takenUp hx with ⟨_, hok⟩ | ⟨_, fault, hinterruption, herror⟩
    · exact (h l).1 hok
    · exact hinterrupted hinterruption ((h l).2 herror)
  · intro fault l' hx
    exact (h l).2 (Accounted.error_of_takenUp hx)

/-- Outcomes that look at the reports and the fault only. -/
theorem coversSteps [O.Composes]
    (hsilent : ∀ {l l' : Ledger}, l'.reports = l.reports → O.success l l')
    (hraise : ∀ {d : Diagnostic} (l : Ledger), d.key.IsOfStep →
      O.failure (ctx.reporter.verdict d) l
        { l with reports := l.reports ++ [⟨d, ctx.reporter.records⟩] })
    (hfailing : ∀ {resolve journal id fault} (l : Ledger), ctx.resolver = some resolve →
      resolve journal id = .error fault → O.failure fault l l)
    (hinterrupted : ∀ {fault l l'}, fault.isInterruption = true → O.failure fault l l' →
      O.success l l') :
    O.judgement.CoversSteps ctx where
  raise hd := always_raise fun l => hraise l hd
  note e := always_modify fun _ => hsilent rfl
  count amount := Judgement.Always.bind (always_modify fun _ => hsilent rfl) fun _ =>
    Judgement.always_read (fun _ _ halike => by rw [halike]) fun _ => Judgement.always_pure _
  takeUp := always_takenUp hinterrupted
  answer id _ halike := by rw [halike]
  failing hresolver hfault := applies_throw (hfailing _ hresolver hfault)

end Outcomes

end XmlBounds
