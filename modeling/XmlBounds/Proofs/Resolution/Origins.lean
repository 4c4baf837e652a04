import XmlBounds.Proofs.Resolution.Answers

/-!
# Values by their origin

Every resolved setting has one of five origins, told apart by who owns the setting and by what the
caller has set.
-/

namespace XmlBounds

/-- What a setting may resolve to. -/
inductive ResolvesTo (o : Overrides) (p : Policy) : Setting → Resolved PropertyValue → Prop where
  | owned {s} : p.isOwned s = true → ResolvesTo o p s ⟨p.value s, .callerPolicy⟩
  | limitProperty {k v n} : p.isOwned (.limit k) = false → o.settings (.limit k) = some v →
      v.asLimit = .ok n →
      ResolvesTo o p (.limit k) ⟨.int (Limit.normalize n).toInt32, .callerProperty⟩
  | listProperty {a v} : p.isOwned (.access a) = false → o.settings (.access a) = some v →
      ResolvesTo o p (.access a) ⟨v, .callerProperty⟩
  | limitSource {k n origin} : p.isOwned (.limit k) = false → o.settings (.limit k) = none →
      0 < n → origin.isCallers = false → ResolvesTo o p (.limit k) ⟨.int n, origin⟩
  | listSource {a text origin} : p.isOwned (.access a) = false →
      o.settings (.access a) = none → origin.isCallers = false →
      ResolvesTo o p (.access a) ⟨.text text, origin⟩

variable {σ : Type} {sources : Sources (StateM σ)} {o : Overrides} {p : Policy}

theorem defaultLimit_pos (k : LimitKind) : 0 < defaultLimit k := by
  cases k <;> decide

theorem resolvesTo_of_limit {k : LimitKind} {v : Resolved PropertyValue}
    (h : Gives (Resolve.limit sources o p k) v) : ResolvesTo o p (.limit k) v := by
  unfold Resolve.limit at h
  split at h
  · next howned =>
      rw [gives_pure h]
      exact .owned howned
  · next howned =>
      have hfree : p.isOwned (.limit k) = false := by simpa [Policy.isOwned] using howned
      split at h
      · next w hw =>
          obtain ⟨n, hn, h⟩ := gives_bind h
          rw [gives_pure h]
          refine .limitProperty hfree hw ?_
          have hanswer : Except.ok n = w.asLimit := answers_pure hn
          exact hanswer.symm
      · next hnone =>
          obtain ⟨found, hfound, h⟩ := gives_bind h
          rw [gives_pure h]
          obtain ⟨candidates, hcandidates, hfirst⟩ := answers_bind (gives_lift hfound)
          rw [answers_pure hfirst]
          have hcallers := Sources.isCallers_of_mem_candidates hcandidates
          obtain ⟨hpos, horigin⟩ := Sources.firstLimit_spec (defaultLimit_pos k) hcallers
          exact .limitSource hfree hnone hpos horigin

theorem isCallers_of_gate {isSecure : Bool} {gate : Resolved Bool}
    (h : Answers (Resolve.gate sources isSecure) gate) : gate.origin.isCallers = false := by
  unfold Resolve.gate at h
  split at h
  · obtain ⟨switch, hswitch, h⟩ := answers_bind h
    obtain ⟨candidates, hcandidates, hfirst⟩ := answers_bind hswitch
    rw [answers_pure h]
    simp only
    split
    · rw [answers_pure hfirst]
      exact Sources.isCallers_firstSwitch (Sources.isCallers_of_mem_candidates hcandidates)
    · rfl
  · rw [answers_pure h]
    rfl

theorem resolvesTo_of_access {gate : Resolved Bool} {a : AccessList} {v : Resolved PropertyValue}
    (hgate : gate.origin.isCallers = false)
    (h : Answers (Resolve.access sources o p gate a) v) : ResolvesTo o p (.access a) v := by
  unfold Resolve.access at h
  split at h
  · next howned =>
      rw [answers_pure h]
      exact .owned howned
  · next howned =>
      have hfree : p.isOwned (.access a) = false := by simpa [Policy.isOwned] using howned
      split at h
      · next w hw =>
          rw [answers_pure h]
          exact .listProperty hfree hw
      · next hnone =>
          split at h
          · obtain ⟨found, hfound, h⟩ := answers_bind h
            obtain ⟨candidates, hcandidates, hfirst⟩ := answers_bind hfound
            rw [answers_pure h]
            split
            · rw [answers_pure hfirst]
              have hcallers := Sources.isCallers_of_mem_candidates hcandidates
              exact .listSource hfree hnone (Sources.isCallers_firstText hcallers)
            · exact .listSource hfree hnone hgate
          · rw [answers_pure h]
            exact .listSource hfree hnone hgate

/-- A resolution gives each setting a value of one of these origins. -/
theorem resolvesTo_of_resolve {r : Resolution} (h : Gives (resolve sources o p) r)
    (s : Setting) : ResolvesTo o p s (r.setting s) := by
  unfold resolve at h
  obtain ⟨limits, hlimits, h⟩ := gives_bind h
  obtain ⟨gate, hgate, h⟩ := gives_bind h
  obtain ⟨lists, hlists, h⟩ := gives_bind h
  rw [gives_pure h]
  cases s with
  | limit k => exact resolvesTo_of_limit (gives_limits hlimits k)
  | access a =>
      have hcallers := isCallers_of_gate (gives_lift hgate)
      exact resolvesTo_of_access hcallers (answers_lists (gives_lift hlists) a)

end XmlBounds
