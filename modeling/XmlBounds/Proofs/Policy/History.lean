import Mathlib.Data.List.Induction
import XmlBounds.Proofs.Resolution.Unchanging

/-!
# The history of a policy

What a policy holds is told by what was done to it. A setting has the value that was last written to
it, and it is the caller's if he has written it since it was last taken from him. Whatever has to do
with one setting leaves the others alone.
-/

namespace XmlBounds

/-- What a policy keeps of a value that is written to a setting. A limit is read as a number: a
positive one is kept, zero lifts the limit, and a negative one refuses the first use. A protocol
list is kept as it is. -/
inductive PropertyValue.StoredAs : Setting → PropertyValue → PropertyValue → Prop where
  | positive {k v n} : asLimit v = .ok n → 0 < n → StoredAs (.limit k) v (.int n)
  | zero {k v} : asLimit v = .ok 0 → StoredAs (.limit k) v (.int 2147483647)
  | negative {k v n} : asLimit v = .ok n → n < 0 → StoredAs (.limit k) v (.int 0)
  | list {a v text} : asText v = .ok text → StoredAs (.access a) v (ofText text)

namespace PropertyValue

variable {t : Setting} {v w w' : PropertyValue}

theorem StoredAs.keptAs (h : v.StoredAs t w) : v.KeptAs t w := by
  cases h with
  | positive hn hpos =>
      have hkept := Limit.toInt32_normalize_of_pos hpos
      rw [← hkept]
      exact .limit hn
  | zero hn => exact .limit hn
  | @negative k v n hn hneg =>
      have hzero := Limit.normalize_eq_zero_iff.mpr hneg
      have hkept : v.KeptAs (.limit k) (.int (Limit.normalize n).toInt32) := .limit hn
      rw [hzero] at hkept
      exact hkept
  | list htext => exact .list htext

theorem KeptAs.storedAs (h : v.KeptAs t w) : v.StoredAs t w := by
  cases h with
  | @limit k v n hn =>
      rcases Int.lt_trichotomy n.toInt 0 with hneg | hzero | hpos
      · rw [Limit.normalize_of_neg hneg]
        exact .negative hn (Int32.lt_iff_toInt_lt.mpr hneg)
      · have hzero : n = 0 := Int32.toInt_inj.mp hzero
        subst hzero
        exact .zero hn
      · have hpos : 0 < n := Int32.lt_iff_toInt_lt.mpr hpos
        rw [Limit.toInt32_normalize_of_pos hpos]
        exact .positive hn hpos
  | list htext => exact .list htext

theorem StoredAs.unique (h : v.StoredAs t w) (h' : v.StoredAs t w') : w = w' :=
  h.keptAs.unique h'.keptAs

end PropertyValue

/-! ## One step -/

/-- What can be done to a policy. -/
inductive PolicyStep where
  /-- By the setter of the limit. -/
  | setLimit (k : LimitKind) (n : Int32)
  /-- By the setter of the protocol list. -/
  | setAccess (a : AccessList) (list : Option String)
  | setNumber (t : Setting) (n : Int32)
  | setValue (t : Setting) (v : PropertyValue)
  | applyResolved (t : Setting) (v : PropertyValue)
  | disown (t : Setting)
  | disownAll

namespace PolicyStep

/-- The setting that the step is to write, and the value that it brings. -/
def carried? : PolicyStep → Option (Setting × PropertyValue)
  | setLimit k n => some (.limit k, .int n)
  | setAccess a list => some (.access a, .ofText list)
  | setNumber t n => some (t, .int n)
  | setValue t v => some (t, v)
  | applyResolved t v => some (t, v)
  | disown _ => none
  | disownAll => none

/-- The step is one of the caller's, which the write of a resolved value is not. -/
def isCallers : PolicyStep → Bool
  | applyResolved _ _ => false
  | _ => true

/-- The step leaves the value in the setting. -/
def Stores (step : PolicyStep) (t : Setting) (w : PropertyValue) : Prop :=
  ∃ v, step.carried? = some (t, v) ∧ v.StoredAs t w

/-- The step makes the setting the caller's. -/
def Claims (step : PolicyStep) (t : Setting) : Prop :=
  step.isCallers = true ∧ ∃ w, step.Stores t w

/-- The step takes the setting from the caller. -/
inductive Frees : PolicyStep → Setting → Prop where
  | one {t} : Frees (disown t) t
  | all {t} : Frees disownAll t

/-- Does a step. -/
def perform (p : Policy) : PolicyStep → Except ValueFault Policy
  | setLimit k n => .ok (Policy.limitSetter k p n)
  | setAccess a list => .ok (Policy.accessSetter a p list)
  | setNumber t n => .ok (p.setNumber t n)
  | setValue t v => p.setValue t v
  | applyResolved t v => p.applyResolved t v
  | disown t => .ok (p.disown t)
  | disownAll => .ok p.disownAll

end PolicyStep

namespace Policy

/-- The policy after a step, which has done nothing if it has failed. -/
def next (p : Policy) (step : PolicyStep) : Policy :=
  match step.perform p with
  | .ok q => q
  | .error _ => p

/-- The policy after a sequence of steps. -/
def after (p : Policy) (steps : List PolicyStep) : Policy := steps.foldl next p

/-- The policies differ in one setting at most, which has the value and owner in the second. -/
structure Replaces (p : Policy) (t : Setting) (w : PropertyValue) (isOwned : Bool) (q : Policy) :
    Prop where
  value : ∀ u, q.value u = if u = t then w else p.value u
  owner : ∀ u, q.isOwned u = if u = t then isOwned else p.isOwned u

theorem replaces_putLimit (p : Policy) (k : LimitKind) (l : Limit) (isOwned : Bool) :
    p.Replaces (.limit k) (.int l.toInt32) isOwned (p.putLimit k ⟨l, isOwned⟩) :=
  ⟨value_putLimit p k _, isOwned_putLimit p k _⟩

theorem replaces_putAccess (p : Policy) (a : AccessList) (list : Option String) (isOwned : Bool) :
    p.Replaces (.access a) (.ofText list) isOwned (p.putAccess a ⟨list, isOwned⟩) :=
  ⟨value_putAccess p a _, isOwned_putAccess p a _⟩

/-- A write keeps the value that it brings, or fails on it. -/
inductive Written (p : Policy) (t : Setting) (v : PropertyValue) (isOwned : Bool) :
    Except ValueFault Policy → Prop where
  | stored {w q} : v.StoredAs t w → p.Replaces t w isOwned q → Written p t v isOwned (.ok q)
  | refused {fault} : (∀ w, ¬ v.StoredAs t w) → Written p t v isOwned (.error fault)

theorem written_limit (p : Policy) (k : LimitKind) (v : PropertyValue) (isOwned : Bool) :
    p.Written (.limit k) v isOwned
      (v.asLimit.map fun n => p.putLimit k ⟨.normalize n, isOwned⟩) := by
  cases hv : v.asLimit with
  | ok n => exact .stored (PropertyValue.KeptAs.limit hv).storedAs (replaces_putLimit ..)
  | error fault =>
      apply Written.refused
      intro w hw
      cases hw.keptAs with
      | limit hn =>
          rw [hv] at hn
          cases hn

theorem written_access (p : Policy) (a : AccessList) (v : PropertyValue) (isOwned : Bool) :
    p.Written (.access a) v isOwned
      (v.asText.map fun text => p.putAccess a ⟨text, isOwned⟩) := by
  cases hv : v.asText with
  | ok text => exact .stored (.list hv) (replaces_putAccess ..)
  | error fault =>
      apply Written.refused
      intro w hw
      cases hw with
      | list htext =>
          rw [hv] at htext
          cases htext

theorem written_setValue (p : Policy) (t : Setting) (v : PropertyValue) :
    p.Written t v true (p.setValue t v) := by
  cases t with
  | limit k => exact p.written_limit k v true
  | access a => exact p.written_access a v true

theorem written_applyResolved (p : Policy) (t : Setting) (v : PropertyValue) :
    p.Written t v (p.isOwned t) (p.applyResolved t v) := by
  cases t with
  | limit k => exact p.written_limit k v _
  | access a => exact p.written_access a v _

/-- What a step does: it writes one setting, or takes settings from the caller, or does nothing. -/
inductive Effect (p : Policy) (step : PolicyStep) (q : Policy) : Prop where
  | stored {t v w} : step.carried? = some (t, v) → v.StoredAs t w →
      p.Replaces t w (step.isCallers || p.isOwned t) q → Effect p step q
  | refused {t v} : step.carried? = some (t, v) → (∀ w, ¬ v.StoredAs t w) → q = p →
      Effect p step q
  | freed : step.carried? = none → (∀ t, q.value t = p.value t) →
      (∀ t, step.Frees t → q.isOwned t = false) →
      (∀ t, ¬ step.Frees t → q.isOwned t = p.isOwned t) → Effect p step q

section Next

variable {p : Policy} {step : PolicyStep} {t : Setting} {v w : PropertyValue}

theorem effect_of_written (hcarried : step.carried? = some (t, v))
    (h : p.Written t v (step.isCallers || p.isOwned t) (step.perform p)) :
    p.Effect step (p.next step) := by
  unfold next
  generalize step.perform p = result at h
  cases h with
  | stored hstored hreplaces => exact .stored hcarried hstored hreplaces
  | refused hrefused => exact .refused hcarried hrefused rfl

theorem value_disownAll (p : Policy) (t : Setting) : p.disownAll.value t = p.value t := by
  have hfold (settings : List Setting) (q : Policy) :
      (settings.foldl disown q).value t = q.value t := by
    induction settings generalizing q with
    | nil => rfl
    | cons s settings ih => rw [List.foldl_cons, ih, value_disown]
  exact hfold Setting.all p

theorem isOwned_disownAll (p : Policy) (t : Setting) : p.disownAll.isOwned t = false := by
  have hfold (settings : List Setting) (q : Policy) (h : t ∈ settings ∨ q.isOwned t = false) :
      (settings.foldl disown q).isOwned t = false := by
    induction settings generalizing q with
    | nil => exact h.resolve_left List.not_mem_nil
    | cons s settings ih =>
        apply ih
        rw [isOwned_disown]
        by_cases hs : t = s
        · exact .inr (if_pos hs)
        · rw [if_neg hs]
          exact h.imp_left fun hmem => (List.mem_cons.mp hmem).resolve_left hs
  exact hfold Setting.all p (.inl (Setting.mem_all t))

theorem effect_next (p : Policy) (step : PolicyStep) : p.Effect step (p.next step) := by
  cases step with
  | setLimit k n =>
      apply effect_of_written rfl
      rw [PolicyStep.perform, limitSetter_eq]
      exact p.written_limit k (.int n) true
  | setAccess a list =>
      apply effect_of_written rfl
      have hwritten := p.written_access a (.ofText list) true
      rw [PropertyValue.asText_ofText] at hwritten
      rw [PolicyStep.perform, accessSetter_eq]
      exact hwritten
  | setNumber t n =>
      cases t with
      | limit k => exact effect_of_written rfl (p.written_limit k (.int n) true)
      | access a =>
          -- A number is no protocol list, so there is nothing that could be stored.
          refine .refused rfl ?_ rfl
          intro w hw
          cases hw with
          | list htext => cases htext
  | setValue t v => exact effect_of_written rfl (p.written_setValue t v)
  | applyResolved t v => exact effect_of_written rfl (p.written_applyResolved t v)
  | disown u =>
      refine .freed rfl (p.value_disown u) ?_ ?_
      · rintro _ ⟨⟩
        exact (p.isOwned_disown u u).trans (if_pos rfl)
      · intro t ht
        apply (p.isOwned_disown u t).trans
        apply if_neg
        rintro rfl
        exact ht .one
  | disownAll =>
      refine .freed rfl p.value_disownAll ?_ ?_
      · intro t _
        exact p.isOwned_disownAll t
      · intro t ht
        exact absurd .all ht

theorem not_frees_of_carried? {c : Setting × PropertyValue} (h : step.carried? = some c) :
    ¬ step.Frees t := by
  rintro ⟨⟩ <;> cases h

theorem value_next_of_stores (h : step.Stores t w) : (p.next step).value t = w := by
  obtain ⟨v, hcarried, hstored⟩ := h
  cases p.effect_next step with
  | stored hcarried' hstored' hreplaces =>
      rw [hcarried] at hcarried'
      cases hcarried'
      rw [hreplaces.value, if_pos rfl]
      exact hstored'.unique hstored
  | refused hcarried' hrefused _ =>
      rw [hcarried] at hcarried'
      cases hcarried'
      exact absurd hstored (hrefused w)
  | freed hnone _ _ _ =>
      rw [hcarried] at hnone
      cases hnone

theorem value_next_of_not_stores (h : ∀ w, ¬ step.Stores t w) :
    (p.next step).value t = p.value t := by
  cases p.effect_next step with
  | @stored u v w hcarried hstored hreplaces =>
      have hne : t ≠ u := by
        rintro rfl
        exact h w ⟨v, hcarried, hstored⟩
      rw [hreplaces.value, if_neg hne]
  | refused _ _ hsame => rw [hsame]
  | freed _ hvalue _ _ => exact hvalue t

theorem isOwned_next_of_claims (h : step.Claims t) : (p.next step).isOwned t = true := by
  obtain ⟨hcallers, w, v, hcarried, hstored⟩ := h
  cases p.effect_next step with
  | stored hcarried' _ hreplaces =>
      rw [hcarried] at hcarried'
      cases hcarried'
      rw [hreplaces.owner, if_pos rfl, hcallers, Bool.true_or]
  | refused hcarried' hrefused _ =>
      rw [hcarried] at hcarried'
      cases hcarried'
      exact absurd hstored (hrefused w)
  | freed hnone _ _ _ =>
      rw [hcarried] at hnone
      cases hnone

theorem isOwned_next_of_frees (h : step.Frees t) : (p.next step).isOwned t = false := by
  cases p.effect_next step with
  | stored hcarried _ _ => exact absurd h (not_frees_of_carried? hcarried)
  | refused hcarried _ _ => exact absurd h (not_frees_of_carried? hcarried)
  | freed _ _ hfreed _ => exact hfreed t h

theorem isOwned_next_of_neither (hclaims : ¬ step.Claims t) (hfrees : ¬ step.Frees t) :
    (p.next step).isOwned t = p.isOwned t := by
  cases p.effect_next step with
  | @stored u v w hcarried hstored hreplaces =>
      rw [hreplaces.owner]
      split
      · next hu =>
          subst hu
          have hresolved : step.isCallers = false := by
            apply Bool.eq_false_iff.mpr
            intro hcallers
            exact hclaims ⟨hcallers, w, v, hcarried, hstored⟩
          rw [hresolved, Bool.false_or]
      · rfl
  | refused _ _ hsame => rw [hsame]
  | freed _ _ _ howner => exact howner t hfrees

end Next

/-! ## All steps -/

/-- The value is the one that was stored in the setting last, or the first one if none was. -/
inductive LastStored (t : Setting) (first : PropertyValue) :
    List PolicyStep → PropertyValue → Prop where
  | first {steps} : (∀ step ∈ steps, ∀ w, ¬ step.Stores t w) → LastStored t first steps first
  | stored {earlier step later w} : step.Stores t w → (∀ s ∈ later, ∀ u, ¬ s.Stores t u) →
      LastStored t first (earlier ++ step :: later) w

/-- The caller has written the setting, and it was not taken from him since. -/
def IsClaimed (t : Setting) (steps : List PolicyStep) : Prop :=
  ∃ earlier step later, steps = earlier ++ step :: later ∧ step.Claims t ∧
    ∀ s ∈ later, ¬ s.Frees t

section After

variable {start : Policy} {steps : List PolicyStep} {step : PolicyStep} {t : Setting}
  {v w : PropertyValue}

@[simp] theorem after_nil (start : Policy) : start.after [] = start := rfl

@[simp] theorem after_concat (start : Policy) (steps : List PolicyStep) (step : PolicyStep) :
    start.after (steps ++ [step]) = (start.after steps).next step :=
  List.foldl_append

theorem LastStored.concat (h : LastStored t v steps w) (hstep : ∀ u, ¬ step.Stores t u) :
    LastStored t v (steps ++ [step]) w := by
  cases h with
  | first hnone =>
      apply LastStored.first
      intro s hs
      rcases List.mem_append.mp hs with hs | hs
      · exact hnone s hs
      · rw [List.mem_singleton.mp hs]
        exact hstep
  | @stored earlier last later w hlast hlater =>
      rw [List.append_assoc, List.cons_append]
      apply LastStored.stored hlast
      intro s hs
      rcases List.mem_append.mp hs with hs | hs
      · exact hlater s hs
      · rw [List.mem_singleton.mp hs]
        exact hstep

theorem isClaimed_concat (t : Setting) (steps : List PolicyStep) (step : PolicyStep) :
    IsClaimed t (steps ++ [step]) ↔ step.Claims t ∨ IsClaimed t steps ∧ ¬ step.Frees t := by
  constructor
  · rintro ⟨earlier, last, later, heq, hlast, hlater⟩
    rcases List.eq_nil_or_concat later with rfl | ⟨later, final, rfl⟩
    · obtain ⟨_, hstep⟩ := List.append_inj' heq rfl
      cases hstep
      exact .inl hlast
    · have hsplit : steps ++ [step] = (earlier ++ last :: later) ++ [final] := by simpa using heq
      obtain ⟨hsteps, hfinal⟩ := List.append_inj' hsplit rfl
      cases hfinal
      refine .inr ⟨⟨earlier, last, later, hsteps, hlast, ?_⟩, ?_⟩
      · intro s hs
        exact hlater s (by simp [hs])
      · exact hlater step (by simp)
  · rintro (hstep | ⟨⟨earlier, last, later, rfl, hlast, hlater⟩, hstep⟩)
    · exact ⟨steps, step, [], rfl, hstep, by simp⟩
    · refine ⟨earlier, last, later ++ [step], by simp, hlast, ?_⟩
      intro s hs
      rcases List.mem_append.mp hs with hs | hs
      · exact hlater s hs
      · rw [List.mem_singleton.mp hs]
        exact hstep

theorem lastStored_after (start : Policy) (steps : List PolicyStep) (t : Setting) :
    LastStored t (start.value t) steps ((start.after steps).value t) := by
  induction steps using List.reverseRecOn with
  | nil => exact .first (by simp)
  | append_singleton steps step ih =>
      rw [after_concat]
      by_cases hstep : ∃ w, step.Stores t w
      · obtain ⟨w, hw⟩ := hstep
        rw [value_next_of_stores hw]
        exact .stored hw (by simp)
      · have hnone := not_exists.mp hstep
        rw [value_next_of_not_stores hnone]
        exact ih.concat hnone

theorem isOwned_after_iff (hstart : start.isOwned t = false) (steps : List PolicyStep) :
    (start.after steps).isOwned t = true ↔ IsClaimed t steps := by
  induction steps using List.reverseRecOn with
  | nil => simp [hstart, IsClaimed]
  | append_singleton steps step ih =>
      rw [after_concat, isClaimed_concat]
      by_cases hclaims : step.Claims t
      · simp [isOwned_next_of_claims hclaims, hclaims]
      · by_cases hfrees : step.Frees t
        · simp [isOwned_next_of_frees hfrees, hclaims, hfrees]
        · rw [isOwned_next_of_neither hclaims hfrees, ih]
          simp [hclaims, hfrees]

end After

/-- A policy is what a map would be that holds a value and a mark of the caller's for each setting,
after the steps have been made on it. -/
structure Reflects (start : Policy) (steps : List PolicyStep) (p : Policy) : Prop where
  bounded : ∀ k, ∃ n : Int32, p.value (.limit k) = .int n ∧ 0 ≤ n.toInt ∧ n.toInt ≤ 2147483647
  value : ∀ t, LastStored t (start.value t) steps (p.value t)
  owner : ∀ t, p.isOwned t = true ↔ IsClaimed t steps
  /-- A write is refused for the value that it brings, and for nothing else. -/
  accepted : ∀ t v, ((∃ q, p.setValue t v = .ok q) ↔ ∃ w, v.StoredAs t w) ∧
    ((∃ q, p.applyResolved t v = .ok q) ↔ ∃ w, v.StoredAs t w)
  /-- The next step changes no value but the one that it writes, and no mark but those that it sets
  or takes. -/
  others : ∀ step t, ((∀ v, step.carried? ≠ some (t, v)) → (p.next step).value t = p.value t) ∧
    ((∀ v, step.carried? ≠ some (t, v)) → ¬ step.Frees t →
      (p.next step).isOwned t = p.isOwned t)
  failed : ∀ step fault, step.perform p = .error fault → p.next step = p
  ignored : ∀ a n, p.next (.setNumber (.access a) n) = p

theorem Written.isOk_iff {p : Policy} {t : Setting} {v : PropertyValue} {isOwned : Bool}
    {result : Except ValueFault Policy} (h : p.Written t v isOwned result) :
    (∃ q, result = .ok q) ↔ ∃ w, v.StoredAs t w := by
  cases h with
  | stored hstored _ => exact iff_of_true ⟨_, rfl⟩ ⟨_, hstored⟩
  | refused hrefused => exact iff_of_false (by simp) (not_exists.mpr hrefused)

theorem bounded_value (p : Policy) (k : LimitKind) :
    ∃ n : Int32, p.value (.limit k) = .int n ∧ 0 ≤ n.toInt ∧ n.toInt ≤ 2147483647 := by
  refine ⟨(p.limit k).toInt32, rfl, ?_⟩
  have hmax := (p.limit k).toNat_le
  rw [Limit.toInt_toInt32]
  omega

theorem reflects_after {start : Policy} (hstart : ∀ t, start.isOwned t = false)
    (steps : List PolicyStep) : start.Reflects steps (start.after steps) where
  bounded := (start.after steps).bounded_value
  value := lastStored_after start steps
  owner t := isOwned_after_iff (hstart t) steps
  accepted t v := ⟨(written_setValue _ t v).isOk_iff, (written_applyResolved _ t v).isOk_iff⟩
  others := by
    intro step t
    have hstores (h : ∀ v, step.carried? ≠ some (t, v)) (w : PropertyValue) :
        ¬ step.Stores t w := by
      rintro ⟨v, hcarried, _⟩
      exact h v hcarried
    constructor
    · intro h
      exact value_next_of_not_stores (hstores h)
    · intro h hfrees
      apply isOwned_next_of_neither _ hfrees
      rintro ⟨_, w, hw⟩
      exact hstores h w hw
  failed := by
    intro step fault h
    simp only [next, h]
  ignored _ _ := rfl

/-- The policy that a parser starts with, and the one without limits, come through every sequence of
steps as maps would. -/
theorem reflects_steps (steps : List PolicyStep) :
    initial.Reflects steps (initial.after steps) ∧
      unlimited.Reflects steps (unlimited.after steps) := by
  constructor
  · apply reflects_after
    rintro (k | a)
    · cases k <;> rfl
    · cases a <;> rfl
  · apply reflects_after
    rintro (k | a)
    · cases k <;> rfl
    · cases a <;> rfl

end Policy

end XmlBounds
