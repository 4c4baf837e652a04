import XmlBounds.Entity.Source
import XmlBounds.Proofs.Ledger.Growth

/-!
# Entities within their sizes

Entity text that is counted goes into the journal. If the count is accepted, the entity is within
the limit for its kind, and the total within its own.
-/

namespace XmlBounds

namespace Policy

/-- The largest size of an entity of the name. -/
def sizeLimit (policy : Policy) (name : String) : Nat :=
  if Dtd.isParameterName name then (policy.limit .parameterEntitySize).toNat
  else (policy.limit .generalEntitySize).toNat

theorem le_of_checkEntitySize {policy : Policy} {size total : Nat} {name : String}
    (h : policy.checkEntitySize size total (Dtd.isParameterName name) = []) :
    size ≤ policy.sizeLimit name ∧ total ≤ (policy.limit .totalEntitySize).toNat := by
  have hboth := List.append_eq_nil_iff.mp h
  have htotal : total ≤ (policy.limit .totalEntitySize).toNat := by
    simpa using hboth.1
  refine ⟨?_, htotal⟩
  have hsize := hboth.2
  unfold sizeLimit
  split at hsize
  · next hp => simpa [hp] using hsize
  · next hp => simpa [hp] using hsize

end Policy

section Counting

variable {policy : Policy} {reporter : Reporter} {name : String} {amount size : Nat}
  {l l' : Ledger}

theorem countEntity_apply :
    countEntity policy reporter name amount size l =
      Accounted.raiseFirst reporter
        (policy.checkEntitySize size (l.total.add amount).toNat (Dtd.isParameterName name))
        { l with total := l.total.add amount, journal := .counted name amount :: l.journal } := rfl

theorem grows_counted : l.Grows
    { l with total := l.total.add amount, journal := .counted name amount :: l.journal }
    [.counted name amount] where
  journal := rfl
  total := by simp [Entry.amounts, Entry.amount]

theorem of_countEntity (h : countEntity policy reporter name amount size l = .ok () l') :
    l.Grows l' [.counted name amount] ∧ size ≤ policy.sizeLimit name ∧
      l'.total.toNat ≤ (policy.limit .totalEntitySize).toNat := by
  rw [countEntity_apply] at h
  cases hfound : policy.checkEntitySize size (l.total.add amount).toNat
    (Dtd.isParameterName name) with
  | nil =>
      rw [hfound] at h
      cases h
      exact ⟨grows_counted, Policy.le_of_checkEntitySize hfound⟩
  | cons d rest =>
      rw [hfound] at h
      simp only [Accounted.raiseFirst, Accounted.raise_apply] at h
      cases h

theorem grows_of_countEntity {fault : Fault}
    (h : countEntity policy reporter name amount size l = .error fault l') :
    l.Grows l' [.counted name amount] := by
  rw [countEntity_apply] at h
  cases hfound : policy.checkEntitySize size (l.total.add amount).toNat
    (Dtd.isParameterName name) with
  | nil =>
      rw [hfound] at h
      cases h
  | cons d rest =>
      rw [hfound] at h
      simp only [Accounted.raiseFirst, Accounted.raise_apply] at h
      cases h
      exact ⟨grows_counted.journal, grows_counted.total⟩

/-- The reporter never answers with an interruption. -/
def Reporter.NeverInterrupts (reporter : Reporter) : Prop :=
  ∀ d fault, reporter.respond d = .error fault → fault.isInterruption = false

theorem Reporter.neverInterrupts_failOnFatal (records : Bool) :
    NeverInterrupts ⟨failOnFatal, records⟩ := by
  intro d fault h
  simp only [failOnFatal] at h
  split at h <;> cases h
  rfl

theorem isInterruption_of_countEntity (hreporter : reporter.NeverInterrupts) {fault : Fault}
    (h : countEntity policy reporter name amount size l = .error fault l') :
    fault.isInterruption = false := by
  rw [countEntity_apply] at h
  cases hfound : policy.checkEntitySize size (l.total.add amount).toNat
    (Dtd.isParameterName name) with
  | nil =>
      rw [hfound] at h
      cases h
  | cons d rest =>
      rw [hfound] at h
      simp only [Accounted.raiseFirst, Accounted.raise_apply] at h
      cases hrespond : reporter.respond d with
      | ok done =>
          rw [hrespond] at h
          cases h
          rfl
      | error answer =>
          rw [hrespond] at h
          cases h
          exact hreporter d _ hrespond

/-- Without interruptions there is nothing to take up again. -/
theorem takenUp_countEntity (hreporter : reporter.NeverInterrupts) :
    (countEntity policy reporter name amount size).takenUp =
      countEntity policy reporter name amount size >>= fun _ => pure true := by
  funext l
  simp only [Accounted.takenUp, Bind.bind, EStateM.bind]
  cases hcount : countEntity policy reporter name amount size l with
  | ok done l' => rfl
  | error fault l' => simp [isInterruption_of_countEntity hreporter hcount]

theorem bounds_countEntity :
    (Contract.bounds (policy.limit .totalEntitySize).toNat).Holds
      (countEntity policy reporter name amount size) where
  of_ok h _ := (of_countEntity h).2.2
  of_error _ := trivial

end Counting

/-- What the monitor adds to the journal for the declaration of an internal entity. -/
inductive Declares : List Entry → Prop where
  | nothing : Declares []
  | entity {name text : String} :
      Declares [.counted name text.length, .declared name text]

/-- The declarations of internal entities are within the limits for their kinds. -/
def DeclaresWithin (policy : Policy) (new : List Entry) : Prop :=
  ∀ name text, .declared name text ∈ new → text.length ≤ policy.sizeLimit name

section Monitoring

variable {policy : Policy} {reporter : Reporter} {l l' : Ledger}

theorem sizeMonitor_internal (policy : Policy) (reporter : Reporter) (name text : String)
    (l : Ledger) :
    sizeMonitor policy reporter (.internalEntity name text) l =
      (countEntity policy reporter name text.length text.length >>= fun _ =>
        pure (some (.internalEntity name text)))
        { l with journal := .declared name text :: l.journal } := rfl

theorem grows_declared {name text : String}
    (h : Ledger.Grows { l with journal := .declared name text :: l.journal } l'
      [.counted name text.length]) :
    l.Grows l' [.counted name text.length, .declared name text] where
  journal := h.journal
  total := h.total

theorem of_sizeMonitor {e : Dtd.Event} {out : Option Dtd.Event}
    (h : sizeMonitor policy reporter e l = .ok out l') :
    (l' = l ∨ l'.total.toNat ≤ (policy.limit .totalEntitySize).toNat) ∧
      ∃ new, l.Grows l' new ∧ Declares new ∧ DeclaresWithin policy new := by
  have hsame : l' = l → (l' = l ∨ l'.total.toNat ≤ (policy.limit .totalEntitySize).toNat) ∧
      ∃ new, l.Grows l' new ∧ Declares new ∧ DeclaresWithin policy new := by
    rintro rfl
    exact ⟨.inl rfl, [], .refl l', .nothing, by simp [DeclaresWithin]⟩
  cases e with
  | internalEntity name text =>
      rw [sizeMonitor_internal] at h
      obtain ⟨_, mid, hcount, hpure⟩ := ok_of_bind h
      cases hpure
      obtain ⟨hgrows, hsize, htotal⟩ := of_countEntity hcount
      refine ⟨.inr htotal, _, grows_declared hgrows, .entity, ?_⟩
      intro n t hmem
      have heq : n = name ∧ t = text := by simpa using hmem
      rw [heq.1, heq.2]
      exact hsize
  | _ =>
      cases h
      exact hsame rfl

theorem grows_of_sizeMonitor {e : Dtd.Event} {fault : Fault}
    (h : sizeMonitor policy reporter e l = .error fault l') :
    ∃ new, l.Grows l' new ∧ Declares new := by
  cases e with
  | internalEntity name text =>
      rw [sizeMonitor_internal] at h
      rcases error_of_bind h with hcount | ⟨_, mid, _, hpure⟩
      · exact ⟨_, grows_declared (grows_of_countEntity hcount), .entity⟩
      · cases hpure
  | _ => cases h

theorem bounds_sizeMonitor (e : Dtd.Event) :
    (Contract.bounds (policy.limit .totalEntitySize).toNat).Holds
      (sizeMonitor policy reporter e) where
  of_ok h hl := by
    rcases (of_sizeMonitor h).1 with rfl | htotal
    · exact hl
    · exact htotal
  of_error _ := trivial

theorem holds_sizeMonitor (e : Dtd.Event) :
    (Contract.writes (fun new => Declares new ∧ DeclaresWithin policy new) Declares).Holds
      (sizeMonitor policy reporter e) where
  of_ok h := (of_sizeMonitor h).2
  of_error h := grows_of_sizeMonitor h

end Monitoring

end XmlBounds
