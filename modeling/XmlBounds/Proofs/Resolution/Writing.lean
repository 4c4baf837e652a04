import XmlBounds.Proofs.Resolution.Origins

/-!
# Writing a resolution into a policy

What a policy keeps of a value that is written to it differs from the value in one case only: a
limit of zero is kept as no limit.
-/

namespace XmlBounds

namespace Limit

theorem toInt32_normalize_of_pos {n : Int32} (h : 0 < n) : (normalize n).toInt32 = n := by
  have hpos : 0 < n.toInt := by simpa using Int32.lt_iff_toInt_lt.mp h
  apply Int32.toInt_inj.mp
  rw [toInt_toInt32, toNat_normalize_of_pos hpos]
  omega

theorem normalize_eq_zero_iff {n : Int32} : normalize n = zero ↔ n < 0 := by
  have hsign : n < 0 ↔ n.toInt < 0 := Int32.lt_iff_toInt_lt
  rw [hsign]
  constructor
  · intro h
    rcases Int.lt_trichotomy n.toInt 0 with hneg | hzero | hpos
    · exact hneg
    · have hn : n = 0 := Int32.toInt_inj.mp hzero
      rw [hn] at h
      cases h
    · have hnat := toNat_normalize_of_pos hpos
      rw [h] at hnat
      have : n.toInt.toNat = 0 := hnat.symm
      omega
  · exact normalize_of_neg

end Limit

namespace Policy

variable {p q : Policy} {v : PropertyValue}

@[simp] theorem value_putLimit (p : Policy) (k : LimitKind) (e : Owned Limit) (t : Setting) :
    (p.putLimit k e).value t = if t = .limit k then .int e.value.toInt32 else p.value t := by
  cases t with
  | limit j => by_cases h : j = k <;> simp [value, limit, h]
  | access a => simp [value, access]

@[simp] theorem isOwned_putLimit (p : Policy) (k : LimitKind) (e : Owned Limit) (t : Setting) :
    (p.putLimit k e).isOwned t = if t = .limit k then e.isOwned else p.isOwned t := by
  cases t with
  | limit j => by_cases h : j = k <;> simp [isOwned, h]
  | access a => simp [isOwned]

@[simp] theorem value_putAccess (p : Policy) (a : AccessList) (e : Owned (Option String))
    (t : Setting) :
    (p.putAccess a e).value t = if t = .access a then .ofText e.value else p.value t := by
  cases t with
  | limit k => simp [value, limit]
  | access b => by_cases h : b = a <;> simp [value, access, h]

@[simp] theorem isOwned_putAccess (p : Policy) (a : AccessList) (e : Owned (Option String))
    (t : Setting) :
    (p.putAccess a e).isOwned t = if t = .access a then e.isOwned else p.isOwned t := by
  cases t with
  | limit k => simp [isOwned]
  | access b => by_cases h : b = a <;> simp [isOwned, h]

theorem applyResolved_limit {k : LimitKind} (h : p.applyResolved (.limit k) v = .ok q) :
    ∃ n, v.asLimit = .ok n ∧ q = p.putLimit k ⟨.normalize n, (p.limitEntry k).isOwned⟩ := by
  simp only [applyResolved] at h
  cases hv : v.asLimit with
  | error fault =>
      rw [hv] at h
      cases h
  | ok n =>
      rw [hv] at h
      cases h
      exact ⟨n, rfl, rfl⟩

theorem applyResolved_access {a : AccessList} (h : p.applyResolved (.access a) v = .ok q) :
    ∃ text, v.asText = .ok text ∧ q = p.putAccess a ⟨text, (p.accessEntry a).isOwned⟩ := by
  simp only [applyResolved] at h
  cases hv : v.asText with
  | error fault =>
      rw [hv] at h
      cases h
  | ok text =>
      rw [hv] at h
      cases h
      exact ⟨text, rfl, rfl⟩

/-- Writing a setting leaves the values of the others, and whose they all are. -/
theorem frame_of_applyResolved {s : Setting} (h : p.applyResolved s v = .ok q) :
    (∀ t, t ≠ s → q.value t = p.value t) ∧ ∀ t, q.isOwned t = p.isOwned t := by
  cases s with
  | limit k =>
      obtain ⟨n, _, rfl⟩ := applyResolved_limit h
      refine ⟨fun t ht => by simp [ht], ?_⟩
      intro t
      rw [isOwned_putLimit]
      split
      · next ht => rw [ht, isOwned]
      · rfl
  | access a =>
      obtain ⟨text, _, rfl⟩ := applyResolved_access h
      refine ⟨fun t ht => by simp [ht], ?_⟩
      intro t
      rw [isOwned_putAccess]
      split
      · next ht => rw [ht, isOwned]
      · rfl

@[simp] theorem isOwned_disown (p : Policy) (t u : Setting) :
    (p.disown t).isOwned u = if u = t then false else p.isOwned u := by
  cases t with
  | limit k => rw [disown, isOwned_putLimit]
  | access a => rw [disown, isOwned_putAccess]

@[simp] theorem value_disown (p : Policy) (t u : Setting) : (p.disown t).value u = p.value u := by
  cases t with
  | limit k =>
      rw [disown, value_putLimit]
      split
      · next hu => rw [hu, value]
      · rfl
  | access a =>
      rw [disown, value_putAccess]
      split
      · next hu => rw [hu, value]
      · rfl

end Policy

namespace PropertyValue

/-- What a policy keeps of the value, if it can keep anything of it. -/
inductive KeptAs : Setting → PropertyValue → PropertyValue → Prop where
  | limit {k v n} : asLimit v = .ok n → KeptAs (.limit k) v (.int (Limit.normalize n).toInt32)
  | list {a v text} : asText v = .ok text → KeptAs (.access a) v (.ofText text)

theorem keptAs_of_applyResolved {p q : Policy} {s : Setting} {v : PropertyValue}
    (h : p.applyResolved s v = .ok q) : KeptAs s v (q.value s) := by
  cases s with
  | limit k =>
      obtain ⟨n, hn, rfl⟩ := Policy.applyResolved_limit h
      have hvalue : (p.putLimit k ⟨.normalize n, (p.limitEntry k).isOwned⟩).value (.limit k) =
          .int (Limit.normalize n).toInt32 := by
        simp [Policy.value, Policy.limit]
      rw [hvalue]
      exact .limit hn
  | access a =>
      obtain ⟨text, ht, rfl⟩ := Policy.applyResolved_access h
      have hvalue : (p.putAccess a ⟨text, (p.accessEntry a).isOwned⟩).value (.access a) =
          .ofText text := by
        simp [Policy.value, Policy.access]
      rw [hvalue]
      exact .list ht

theorem keptAs_int {k : LimitKind} {n : Int32} {w : PropertyValue}
    (h : KeptAs (.limit k) (.int n) w) : w = .int (Limit.normalize n).toInt32 := by
  cases h with
  | limit hn =>
      cases hn
      rfl

theorem eq_of_keptAs_access {a : AccessList} {v w : PropertyValue}
    (h : KeptAs (.access a) v w) : w = v := by
  cases h with
  | list ht =>
      cases v with
      | text s =>
          cases ht
          rfl
      | null =>
          cases ht
          rfl
      | int n => cases ht
      | bool b => cases ht

end PropertyValue

namespace Resolution

variable {r : Resolution} {p q : Policy} {s : Setting} {settings : List Setting}

theorem applyAll_cons (r : Resolution) (s : Setting) (rest : List Setting) (p : Policy) :
    r.applyAll (s :: rest) p =
      if (r.setting s).origin = .callerPolicy then r.applyAll rest p
      else
        match p.applyResolved s (r.setting s).value with
        | .error fault => .error fault p
        | .ok q => r.applyAll rest q := by
  have hlook : r.applyAll (s :: rest) p =
      (if (r.setting s).origin = .callerPolicy then r.applyAll rest
        else
          match p.applyResolved s (r.setting s).value with
          | .error fault => throw fault
          | .ok q => set q >>= fun _ => r.applyAll rest) p := rfl
  rw [hlook]
  split
  · rfl
  · cases p.applyResolved s (r.setting s).value with
    | error fault => rfl
    | ok q => rfl

/-- Writing leaves alone what is not to be written, and whose each setting is. -/
theorem frame_of_applyAll (h : r.applyAll settings p = .ok () q) :
    (∀ t, t ∉ settings ∨ (r.setting t).origin = .callerPolicy → q.value t = p.value t) ∧
      ∀ t, q.isOwned t = p.isOwned t := by
  induction settings generalizing p with
  | nil =>
      cases h
      exact ⟨fun _ _ => rfl, fun _ => rfl⟩
  | cons s rest ih =>
      rw [applyAll_cons] at h
      split at h
      · obtain ⟨hvalue, hwho⟩ := ih h
        refine ⟨?_, hwho⟩
        intro t ht
        apply hvalue
        rcases ht with ht | ht
        · exact .inl fun hmem => ht (List.mem_cons_of_mem s hmem)
        · exact .inr ht
      · next hwritten =>
          split at h
          · cases h
          · next mid hmid =>
              obtain ⟨hvalue, hwho⟩ := ih h
              obtain ⟨hothers, howner⟩ := Policy.frame_of_applyResolved hmid
              constructor
              · intro t ht
                have hne : t ≠ s := by
                  rintro rfl
                  rcases ht with ht | ht
                  · exact ht List.mem_cons_self
                  · exact hwritten ht
                have hrest : t ∉ rest ∨ (r.setting t).origin = .callerPolicy := by
                  rcases ht with ht | ht
                  · exact .inl fun hmem => ht (List.mem_cons_of_mem s hmem)
                  · exact .inr ht
                rw [hvalue t hrest, hothers t hne]
              · intro t
                rw [hwho t, howner t]

/-- Each setting that is to be written is kept as the policy keeps its resolved value. -/
theorem keptAs_of_applyAll (h : r.applyAll settings p = .ok () q) (hs : s ∈ settings)
    (hwritten : (r.setting s).origin ≠ .callerPolicy) :
    PropertyValue.KeptAs s (r.setting s).value (q.value s) := by
  induction settings generalizing p with
  | nil => cases hs
  | cons t rest ih =>
      rw [applyAll_cons] at h
      by_cases hrest : s ∈ rest
      · split at h
        · exact ih h hrest
        · split at h
          · cases h
          · exact ih h hrest
      · have hst : s = t := (List.mem_cons.mp hs).resolve_right hrest
        subst hst
        rw [if_neg hwritten] at h
        split at h
        · cases h
        · next mid hmid =>
            rw [(frame_of_applyAll h).1 s (.inl hrest)]
            exact PropertyValue.keptAs_of_applyResolved hmid

end Resolution

end XmlBounds
