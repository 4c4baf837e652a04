import XmlBounds.Proofs.Check.Plain

/-!
# Looser limits

A limit only ever decides whether a check goes on or fails. What is scanned, fetched, declared and
counted on the way hangs on no limit; so a document that passes still passes when the limits are
raised, with the same report.
-/

namespace XmlBounds

/-! ## Successes that carry over -/

section CarriesOver

variable {σ α β : Type} {x y : EStateM Fault σ α} {f g : α → EStateM Fault σ β}

/-- Where the first computation succeeds, the second comes to the same. -/
structure CarriesOver (x y : EStateM Fault σ α) : Prop where
  of_ok : ∀ {s a t}, x s = .ok a t → y s = .ok a t

theorem CarriesOver.refl (x : EStateM Fault σ α) : CarriesOver x x := ⟨id⟩

theorem CarriesOver.throw (fault : Fault) (y : EStateM Fault σ α) :
    CarriesOver (throw fault) y where
  of_ok h := by cases h

theorem CarriesOver.bind (hx : CarriesOver x y) (hf : ∀ a, CarriesOver (f a) (g a)) :
    CarriesOver (x >>= f) (y >>= g) where
  of_ok h := by
    obtain ⟨a, mid, hfirst, hrest⟩ := ok_of_bind h
    exact (bind_of_ok (hx.of_ok hfirst)).trans ((hf a).of_ok hrest)

/-- What is done next need only be compared. -/
theorem CarriesOver.next (x : EStateM Fault σ α) (hf : ∀ a, CarriesOver (f a) (g a)) :
    CarriesOver (x >>= f) (x >>= g) := (CarriesOver.refl x).bind hf

end CarriesOver

theorem Accounted.carriesOver_raiseFirst {reporter : Reporter} {found found' : List Diagnostic}
    (h : found = [] → found' = []) :
    CarriesOver (raiseFirst reporter found) (raiseFirst reporter found') where
  of_ok {s a t} hok := by
    cases found with
    | nil =>
        rw [h rfl]
        exact hok
    | cons d rest =>
        simp only [raiseFirst, raise_apply] at hok
        cases hok

theorem Checked.carriesOver_accounted {α : Type} {x y : Accounted α} (h : CarriesOver x y) :
    CarriesOver (accounted x) (accounted y) where
  of_ok {p a q} hok := by
    obtain ⟨hx, hq⟩ := ok_of_accounted hok
    rw [hq]
    simp only [accounted, Accounted.within, h.of_ok hx]

theorem Checked.carriesOver_raiseIf {ctx ctx' : CheckContext} {found found' : Option Diagnostic}
    (h : found = none → found' = none) :
    CarriesOver (raiseIf ctx found) (raiseIf ctx' found') where
  of_ok {p a q} hok := by
    obtain ⟨hnone, rfl⟩ := eq_none_of_raiseIf hok
    rw [h hnone]
    rfl

/-! ## Limits -/

namespace Policy

/-- The second policy has the same protocol lists, and no limit that is stricter. -/
structure LoosensTo (p p' : Policy) : Prop where
  limit : ∀ k, (p.limit k).toNat ≤ (p'.limit k).toNat
  access : ∀ a, p'.access a = p.access a

namespace LoosensTo

variable {p p' : Policy} {k : LimitKind} {observed : Nat}

theorem exceeds (h : p.LoosensTo p') (hexceeds : p'.exceeds k observed = true) :
    p.exceeds k observed = true := by
  rw [exceeds_iff] at hexceeds ⊢
  exact Nat.lt_of_le_of_lt (h.limit k) hexceeds

/-- A check of a quantity that finds nothing finds nothing with looser limits. -/
theorem found {α : Type} {nothing x x' : α} (h : p.LoosensTo p') (hx : x ≠ nothing)
    (hfound : (if p.exceeds k observed then x else nothing) = nothing) :
    (if p'.exceeds k observed then x' else nothing) = nothing := by
  split
  · next hexceeds =>
      rw [if_pos (h.exceeds hexceeds)] at hfound
      exact absurd hfound hx
  · rfl

theorem checkOccursText (h : p.LoosensTo p') {value : String}
    (hfound : p.checkOccursText value = none) : p'.checkOccursText value = none := by
  unfold Policy.checkOccursText at hfound ⊢
  split
  · rfl
  · next hnumber =>
      rw [if_neg hnumber] at hfound
      cases hread : Text.readNat 10 18446744073709551615 value.toList with
      | error fault => rfl
      | ok n =>
          simp only [hread] at hfound
          exact h.found (Option.some_ne_none _) hfound

theorem checkEntitySize (h : p.LoosensTo p') {size total : Nat} {isParameter : Bool}
    (hfound : p.checkEntitySize size total isParameter = []) :
    p'.checkEntitySize size total isParameter = [] := by
  obtain ⟨htotal, hsize⟩ := List.append_eq_nil_iff.mp hfound
  refine List.append_eq_nil_iff.mpr ⟨h.found (List.cons_ne_nil _ _) htotal, ?_⟩
  cases isParameter with
  | true => exact h.found (List.cons_ne_nil _ _) hsize
  | false => exact h.found (List.cons_ne_nil _ _) hsize

end LoosensTo

end Policy

/-- The same context with another policy. -/
def CheckContext.under (ctx : CheckContext) (policy : Policy) : CheckContext :=
  { ctx with policy }

/-- The policy loosens the limits of a check, whose reporter is none that interrupts. -/
structure CheckContext.LoosensTo (ctx : CheckContext) (p' : Policy) : Prop where
  policy : ctx.policy.LoosensTo p'
  reporter : ctx.reporter.NeverInterrupts

/-! ## Steps -/

section Steps

variable {ctx : CheckContext} {p' : Policy}

theorem carriesOver_countEntity (h : ctx.LoosensTo p') (name : String) (amount size : Nat) :
    CarriesOver (countEntity ctx.policy ctx.reporter name amount size)
      (countEntity p' ctx.reporter name amount size) :=
  .next _ fun _ => .next _ fun _ => Accounted.carriesOver_raiseFirst h.policy.checkEntitySize

theorem carriesOver_takenUp (h : ctx.LoosensTo p') (name : String) (amount size : Nat) :
    CarriesOver (countEntity ctx.policy ctx.reporter name amount size).takenUp
      (countEntity p' ctx.reporter name amount size).takenUp := by
  rw [takenUp_countEntity h.reporter, takenUp_countEntity h.reporter]
  exact (carriesOver_countEntity h _ _ _).bind fun _ => .refl _

theorem carriesOver_sizeMonitor (h : ctx.LoosensTo p') (e : Dtd.Event) :
    CarriesOver (sizeMonitor ctx.policy ctx.reporter e) (sizeMonitor p' ctx.reporter e) := by
  cases e with
  | internalEntity name text =>
      exact .next _ fun _ => (carriesOver_countEntity h _ _ _).bind fun _ => .refl _
  | _ => exact .refl _

theorem carriesOver_readRest (h : ctx.LoosensTo p') (got : List UInt8)
    (s : MonitoredStream) :
    CarriesOver (MonitoredStream.readRest ctx.policy ctx.reporter got s)
      (MonitoredStream.readRest p' ctx.reporter got s) := by
  rw [MonitoredStream.readRest_eq, MonitoredStream.readRest_eq p']
  split
  · exact .refl _
  · exact .refl _
  · next b chunk inner hread =>
      -- There is less to read after each read that gives something.
      have hshorter := MonitoredStream.length_lt_of_read hread
      exact (carriesOver_takenUp h _ _ _).bind fun _ => carriesOver_readRest h _ _
termination_by s.inner.content.length

theorem carriesOver_readAll (h : ctx.LoosensTo p') (stream : Stream) :
    CarriesOver (stream.readAll ctx.policy ctx.reporter) (stream.readAll p' ctx.reporter) := by
  cases stream with
  | plain s => exact .refl _
  | monitored s => exact (carriesOver_readRest h [] s).bind fun _ => .refl _

theorem carriesOver_readText (h : ctx.LoosensTo p') (source : InputSource Stream) :
    CarriesOver (source.readText ctx.policy ctx.reporter)
      (source.readText p' ctx.reporter) := by
  unfold InputSource.readText
  split
  · exact (carriesOver_readAll h _).bind fun _ => .refl _
  · exact (carriesOver_readAll h _).bind fun _ => .refl _
  · exact .refl _

theorem carriesOver_fetch (h : ctx.LoosensTo p') (kind : ResourceKind) (id : ResourceId) :
    CarriesOver (fetch ctx kind id) (fetch (ctx.under p') kind id) := by
  have haccess : checkAccess p' ctx.reporter kind (id.expanded ctx.files.directory) =
      checkAccess ctx.policy ctx.reporter kind (id.expanded ctx.files.directory) := by
    unfold checkAccess
    rw [h.policy.access]
  have hfetch : fetch (ctx.under p') kind id = (do
      checkAccess ctx.policy ctx.reporter kind (id.expanded ctx.files.directory)
      let source ← resolveResource ctx id
      let text ← source.readText p' ctx.reporter
      return (text, source.systemId.or (id.expanded ctx.files.directory))) := by
    rw [← haccess]
    rfl
  rw [hfetch]
  exact .next _ fun _ => .next _ fun source => (carriesOver_readText h source).bind fun _ => .refl _

end Steps

namespace Checked

section Pass

variable {ctx : CheckContext} {p' : Policy}

theorem carriesOver_dispatch (h : ctx.LoosensTo p') (e : Dtd.Event) :
    CarriesOver (dispatch ctx e) (dispatch (ctx.under p') e) := by
  refine CarriesOver.bind (carriesOver_accounted ?_) fun _ => .refl _
  rw [Contract.deliver_monitored, Contract.deliver_monitored]
  exact carriesOver_sizeMonitor h e

theorem carriesOver_countExpansion (h : ctx.LoosensTo p') (kind : ReferenceKind)
    (name : String) (d : Dtd.EntityDecl) :
    CarriesOver (countExpansion ctx kind name d) (countExpansion (ctx.under p') kind name d) :=
  .next _ fun _ => .next _ fun _ =>
    (carriesOver_raiseIf (h.policy.found (Option.some_ne_none _))).bind fun _ => .refl _

theorem carriesOver_fetchEntity (h : ctx.LoosensTo p') (kind : ReferenceKind)
    (name : String) (d : Dtd.EntityDecl) (publicId : Option String) (systemId : String)
    (base : Option String) :
    CarriesOver (fetchEntity ctx kind name d publicId systemId base)
      (fetchEntity (ctx.under p') kind name d publicId systemId base) :=
  (carriesOver_countExpansion h _ _ _).bind fun _ => carriesOver_accounted (carriesOver_fetch h _ _)

/-! ## References -/

theorem carriesOver_replacement (h : ctx.LoosensTo p') (name : String)
    (d : Dtd.EntityDecl) :
    CarriesOver (replacement ctx name d) (replacement (ctx.under p') name d) := by
  unfold replacement
  split
  · exact (carriesOver_countExpansion h _ _ _).bind fun _ => .refl _
  · exact (carriesOver_fetchEntity h _ _ _ _ _ _).bind fun _ => .refl _
  · exact .refl _

theorem carriesOver_expandAll (h : ctx.LoosensTo p') (table : Dtd.EntityTable)
    (opened : List String) (refs : List Reference) :
    CarriesOver (expandAll ctx table opened refs) (expandAll (ctx.under p') table opened refs) := by
  induction opened, refs using expandAll.induct table with
  | case1 opened =>
      rw [expandAll, expandAll]
      exact .refl _
  | case2 opened text rest =>
      rw [expandAll]
      exact .throw _ _
  | case3 opened name rest inner outer =>
      rw [expandAll_named, expandAll_named]
      refine CarriesOver.bind ?_ fun _ => outer
      unfold expandReference
      split
      · exact .refl _
      · split
        · exact .refl _
        · next d hd =>
            have hsame : isLeftAlone (ctx.under p') d = isLeftAlone ctx d := rfl
            rw [hsame]
            split
            · exact .refl _
            · split
              · exact .refl _
              · next ho =>
                  exact (carriesOver_replacement h name d).bind fun text => inner d hd ho text

theorem carriesOver_expandText (h : ctx.LoosensTo p') (text : String) :
    CarriesOver (expandText ctx text) (expandText (ctx.under p') text) :=
  .next _ fun _ => carriesOver_expandAll h _ _ _

/-! ## Declarations -/

theorem carriesOver_includedText (h : ctx.LoosensTo p') (name : String)
    (d : Dtd.EntityDecl) :
    CarriesOver (includedText ctx name d) (includedText (ctx.under p') name d) := by
  unfold includedText
  split
  · exact (carriesOver_countExpansion h _ _ _).bind fun _ => .refl _
  · have hsame : (ctx.under p').isEnabled = ctx.isEnabled := rfl
    rw [hsame]
    split
    · exact (carriesOver_fetchEntity h _ _ _ _ _ _).bind fun _ => .refl _
    · exact .refl _
  · exact .refl _

theorem carriesOver_step (h : ctx.LoosensTo p') (opened : List String) (e : Dtd.Event) :
    CarriesOver (step ctx opened e) (step (ctx.under p') opened e) := by
  refine (carriesOver_dispatch h e).bind fun _ => ?_
  split
  · unfold included
    split
    · exact .refl _
    · refine .next _ fun pass => ?_
      split
      · exact .refl _
      · exact carriesOver_includedText h _ _
  · exact .refl _

theorem carriesOver_runFrames (h : ctx.LoosensTo p') (frames : List Frame) :
    CarriesOver (runFrames ctx frames) (runFrames (ctx.under p') frames) := by
  refine ⟨fun {pass done after} hok => ?_⟩
  -- The induction is on the first run: the other stands at each step where the first one does.
  induction frames, pass using runFrames.induct ctx with
  | case1 pass =>
      rw [runFrames_nil] at hok ⊢
      exact hok
  | case2 pass entity outer ih =>
      rw [runFrames_leave] at hok ⊢
      exact ih hok
  | case3 pass entity e events outer fault mid hs =>
      rw [runFrames_step, bind_of_error hs] at hok
      cases hok
  | case4 pass entity e events outer mid hs ih =>
      rw [runFrames_step, bind_of_ok hs] at hok
      rw [runFrames_step, bind_of_ok ((carriesOver_step h _ _).of_ok hs)]
      exact ih hok
  | case5 pass entity e events outer inner mid hs ih =>
      rw [runFrames_step, bind_of_ok hs] at hok
      rw [runFrames_step, bind_of_ok ((carriesOver_step h _ _).of_ok hs)]
      exact ih hok

theorem carriesOver_runSubset (h : ctx.LoosensTo p') (text : String)
    (base : Option String) :
    CarriesOver (runSubset ctx text base) (runSubset (ctx.under p') text base) :=
  .next _ fun _ => carriesOver_runFrames h _

theorem carriesOver_runInternalSubset (h : ctx.LoosensTo p') (subset : Option String) :
    CarriesOver (runInternalSubset ctx subset) (runInternalSubset (ctx.under p') subset) := by
  cases subset with
  | none => exact .refl _
  | some text => exact carriesOver_runSubset h text _

theorem carriesOver_runExternalSubset (h : ctx.LoosensTo p')
    (publicId systemId : Option String) :
    CarriesOver (runExternalSubset ctx publicId systemId)
      (runExternalSubset (ctx.under p') publicId systemId) := by
  cases systemId with
  | none => exact .refl _
  | some systemId =>
      have hsame : (ctx.under p').isEnabled = ctx.isEnabled := rfl
      simp only [runExternalSubset, hsame]
      split
      · exact (carriesOver_accounted (carriesOver_fetch h _ _)).bind fun _ =>
          carriesOver_runSubset h _ _
      · exact .refl _

theorem carriesOver_checkDoctype (h : ctx.LoosensTo p') (content : String) :
    CarriesOver (checkDoctype ctx content) (checkDoctype (ctx.under p') content) := by
  have hsame : (ctx.under p').isEnabled = ctx.isEnabled := rfl
  unfold checkDoctype
  rw [hsame]
  split
  · exact .refl _
  · split
    · exact .refl _
    · exact .next _ fun _ =>
        (carriesOver_dispatch h _).bind fun _ =>
        (carriesOver_runInternalSubset h _).bind fun _ =>
        (carriesOver_runExternalSubset h _ _).bind fun _ => carriesOver_dispatch h _

/-! ## Elements -/

theorem carriesOver_expandValues (h : ctx.LoosensTo p')
    (attributes : List Markup.Attribute) :
    CarriesOver (expandValues ctx attributes) (expandValues (ctx.under p') attributes) := by
  induction attributes with
  | nil => exact .refl _
  | cons a rest ih => exact (carriesOver_expandText h _).bind fun _ => ih

theorem carriesOver_checkOccurs (h : ctx.LoosensTo p') (name : String)
    (attributes : List Markup.Attribute) :
    CarriesOver (checkOccurs ctx name attributes)
      (checkOccurs (ctx.under p') name attributes) := by
  unfold checkOccurs
  split
  · exact .refl _
  · refine .next _ fun pass => ?_
    split
    · exact carriesOver_raiseIf h.policy.checkOccursText
    · exact .refl _

theorem carriesOver_startElement (h : ctx.LoosensTo p') (tag : Markup.Tag) (depth : Nat) :
    CarriesOver (startElement ctx tag depth) (startElement (ctx.under p') tag depth) := by
  have hcount : CarriesOver (countElement ctx tag.name depth)
      (countElement (ctx.under p') tag.name depth) :=
    .next _ fun _ => carriesOver_raiseIf (h.policy.found (Option.some_ne_none _))
  exact hcount.bind fun _ => (carriesOver_expandValues h _).bind fun _ => .next _ fun _ =>
    (carriesOver_raiseIf (h.policy.found (Option.some_ne_none _))).bind fun _ => .next _ fun _ =>
      carriesOver_checkOccurs h _ _

theorem carriesOver_checkToken (h : ctx.LoosensTo p') (t : Markup.Token) :
    CarriesOver (checkToken ctx t) (checkToken (ctx.under p') t) := by
  cases t with
  | text content => exact carriesOver_expandText h content
  | doctype content => exact carriesOver_checkDoctype h content
  | startTag tag => exact .next _ fun _ => .next _ fun _ => carriesOver_startElement h _ _
  | emptyTag tag =>
      exact .next _ fun _ => (carriesOver_startElement h _ _).bind fun _ => .refl _
  | endTag => exact .refl _
  | ignored => exact .refl _

theorem carriesOver_checkDocument (h : ctx.LoosensTo p') (document : Markup.Document) :
    CarriesOver (checkDocument ctx document) (checkDocument (ctx.under p') document) := by
  refine CarriesOver.bind ?_ fun _ => .refl _
  induction document.tokens with
  | nil => exact .refl _
  | cons t rest ih => exact (carriesOver_checkToken h t).bind fun _ => ih

end Pass

end Checked

/-! ## Documents -/

/-- The second configuration has looser limits, and whatever else a check goes by is the same. -/
structure Configuration.LoosensTo (c c' : Configuration) : Prop where
  policy : c.policy.LoosensTo c'.policy
  isEnabled : ∀ f, c'.isEnabled f = c.isEnabled f
  resolver : c'.resolver = c.resolver
  reporter : c'.reporter = c.reporter
  ledger : c'.ledger = c.ledger

theorem Configuration.LoosensTo.context_eq {c c' : Configuration} (h : c.LoosensTo c')
    (files : Files) (systemId : Option String) :
    c'.context files systemId = (c.context files systemId).under c'.policy := by
  have hfeatures : c'.isEnabled = c.isEnabled := funext h.isEnabled
  simp only [context, CheckContext.under, hfeatures, h.resolver, h.reporter]

namespace DocumentReader

/-- A document that passes a check still passes when limits are raised, with the same report, and
the check leaves the same account behind, if violations are not reported to one who interrupts. -/
theorem checkText_of_loosensTo {files : Files} {text : String} {c c' : Configuration}
    {systemId : Option String} {report : CheckReport} {r : DocumentReader}
    (hlimits : c.LoosensTo c') (hreporter : c.reporter.NeverInterrupts)
    (h : checkText files text ⟨c, systemId⟩ = (.ok report, r)) :
    ∃ r', checkText files text ⟨c', systemId⟩ = (.ok report, r') ∧
      r'.configuration.ledger = r.configuration.ledger := by
  obtain ⟨pass, hpass, rfl, hledger⟩ := of_checkText h
  have hstart : c'.startParse.ledger = c.startParse.ledger := by
    simp only [Configuration.startParse, hlimits.ledger]
  have hcontext : (DocumentReader.mk c' systemId).context files =
      ((DocumentReader.mk c systemId).context files).under c'.policy :=
    hlimits.context_eq files systemId
  have hpolicy : ((DocumentReader.mk c systemId).context files).LoosensTo c'.policy :=
    ⟨hlimits.policy, hreporter⟩
  have hloose := (Checked.carriesOver_checkDocument hpolicy _).of_ok hpass
  have hcheck := checkText_eq files text ⟨c', systemId⟩
  rw [hcontext, hstart, hloose] at hcheck
  exact ⟨_, hcheck, hledger.symm⟩

/-- A document that passes within the initial limits passes without limits. -/
theorem checkText_unlimited :
    ∃ r', checkText Plain.noFiles "<!DOCTYPE a [<!ENTITY e 'x'>]><a>&e;</a>"
        ⟨{ (plain (fun _ => false) none).configuration with policy := .unlimited }, none⟩ =
      (.ok (Plain.expandedPass "e").report, r') := by
  have hread : Markup.read "<!DOCTYPE a [<!ENTITY e 'x'>]><a>&e;</a>" =
      ⟨[.doctype "a [<!ENTITY e 'x'>]", .startTag ⟨"a", []⟩, .text "&e;", .endTag], none⟩ := by
    decide +kernel
  obtain ⟨r, hcheck, _⟩ := Plain.checkText_plain "<!ENTITY e 'x'>" "e" hread
    (by decide +kernel) (by decide +kernel) (by decide +kernel) (by decide +kernel)
    (by decide +kernel)
  have hpolicy : Policy.initial.LoosensTo .unlimited :=
    ⟨fun k => by cases k <;> decide, fun a => by cases a <;> decide⟩
  have hlimits : (plain (fun _ => false) none).configuration.LoosensTo
      { (plain (fun _ => false) none).configuration with policy := .unlimited } :=
    ⟨hpolicy, fun _ => rfl, rfl, rfl, rfl⟩
  obtain ⟨r', hloose, _⟩ := checkText_of_loosensTo hlimits
    (Reporter.neverInterrupts_failOnFatal false) hcheck
  exact ⟨r', hloose⟩

/-- Text that is dropped since it is too much is read where it is not, and what it refers to is
expanded. -/
theorem not_forall_same_report :
    ¬ ∀ (files : Files) (text : String) (c c' : Configuration) (systemId : Option String)
        (report : CheckReport) (r : DocumentReader), c.LoosensTo c' →
      checkText files text ⟨c, systemId⟩ = (.ok report, r) →
        ∃ r', checkText files text ⟨c', systemId⟩ = (.ok report, r') := by
  intro h
  obtain ⟨report, r, hstrict, _, honce⟩ : ∃ report r, checkText Plain.noFiles
      Interrupting.text (Interrupting.reader Interrupting.strict) = (.ok report, r) ∧
        report.entityText = 3 ∧ report.expansions = 1 :=
    Interrupting.exists_checkText (by decide +kernel)
  obtain ⟨report', r', hloose, _, htwice⟩ : ∃ report r', checkText Plain.noFiles
      Interrupting.text (Interrupting.reader .initial) = (.ok report, r') ∧
        report.entityText = 3 ∧ report.expansions = 2 :=
    Interrupting.exists_checkText (by decide +kernel)
  have hlimits : (Interrupting.reader Interrupting.strict).configuration.LoosensTo
      (Interrupting.reader .initial).configuration :=
    ⟨⟨fun k => by cases k <;> decide, fun a => by cases a <;> rfl⟩, fun _ => rfl, rfl, rfl, rfl⟩
  obtain ⟨_, hsame⟩ := h _ _ _ _ none report r hlimits hstrict
  cases hloose.symm.trans hsame
  rw [honce] at htwice
  cases htwice

end DocumentReader

end XmlBounds
