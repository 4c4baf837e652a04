import XmlBounds.Contract
import XmlBounds.Proofs.Entity.Sharing

/-!
# A monitor among the stages

A pipeline is compared with the same pipeline into which a monitor of declarations is put, at any
place. The other stages are filters, which may remember what they like together, and further
monitors. If the filters do not go by the total, which they may add to, then as long as nothing
fails and the counter has room, the stages and the sink receive the same with the monitor as without
it, and the total is larger by what the monitor received. Whatever fails ends the dispatch: nothing
is received after that.
-/

namespace XmlBounds

namespace Policy

variable {policy : Policy} {name : String} {size total total' : Nat}

theorem sizeViolation_eq_none_of_le (h : policy.sizeViolation name size total = none)
    (hle : total' ≤ total) : policy.sizeViolation name size total' = none := by
  rw [← Option.not_isSome_iff_eq_none, sizeViolation_isSome, not_or, Nat.not_lt, Nat.not_lt] at h ⊢
  exact ⟨Nat.le_trans hle h.1, h.2⟩

end Policy

/-- The ledger with other reports, and with new entries that are counted. -/
def Ledger.plus (l : Ledger) (reports : List Report) (new : List Entry) : Ledger :=
  ⟨l.total.add (Entry.amounts new), reports, new ++ l.journal⟩

theorem Ledger.grows_plus (l : Ledger) (reports : List Report) (new : List Entry) :
    l.Grows (l.plus reports new) new := ⟨rfl, rfl⟩

@[simp] theorem Ledger.plus_nil (l : Ledger) : l.plus l.reports [] = l := by
  simp [plus, Entry.amounts]

namespace Dtd

def Event.characters : Event → Nat
  | .internalEntity _ text => text.length
  | _ => 0

def characters : List Event → Nat
  | [] => 0
  | e :: rest => e.characters + characters rest

theorem characters_append (before after : List Event) :
    characters (before ++ after) = characters before + characters after := by
  induction before with
  | nil => simp [characters]
  | cons e before ih => simp only [List.cons_append, characters, ih, Nat.add_assoc]

structure Course (σ : Type) where
  /-- What the filters and the sink remember. -/
  own : σ
  ledger : Ledger
  /-- Who received which event, in order. -/
  received : List (Option Nat × Event)

variable {σ : Type}

/-- The start of a course, which keeps a journal of its own. -/
def Course.start (own : σ) (l : Ledger) : Course σ := ⟨own, { l with journal := [] }, []⟩

/-- Any filter, which may hold the ledger as well, or a monitor, under a policy that the filters may
change. -/
inductive Stage (σ : Type) where
  | free (filter : Filter (σ × Ledger))
  | monitor (policyOf : σ → Policy) (reporter : Reporter)

namespace Stage

def act : Stage σ → Filter (Course σ)
  | free filter, e => fun c =>
      match filter e (c.own, c.ledger) with
      | .ok out (own, ledger) => .ok out { c with own, ledger }
      | .error fault (own, ledger) => .error fault { c with own, ledger }
  | monitor policyOf reporter, e => fun c =>
      Accounted.within Course.ledger (fun c ledger => { c with ledger })
        (sizeMonitor (policyOf c.own) reporter e) c

/-- The stage under a label: what it receives is noted before it acts. -/
def watched (label : Option Nat) (stage : Stage σ) : Filter (Course σ) := fun e c =>
  stage.act e { c with received := c.received ++ [(label, e)] }

/-- A sink as the last of the stages. -/
def sink (handle : Event → EStateM XmlBounds.Fault (σ × Ledger) Unit) : Stage σ := free fun e => do
  handle e
  return none

/-- The filter beside something that does not concern it. -/
def beside {τ : Type} (filter : Filter σ) : Filter (σ × τ) := fun e s =>
  match filter e s.1 with
  | .ok out own => .ok out (own, s.2)
  | .error fault own => .error fault (own, s.2)

/-- The filter beside a total to which it adds. It goes by what is remembered and by what was
reported. -/
def adding (adds : Event → σ × List Report → List Entry) (filter : Filter (σ × List Report)) :
    Filter (σ × Ledger) := fun e (own, l) =>
  let new := adds e (own, l.reports)
  match filter e (own, l.reports) with
  | .ok out (own, reports) => .ok out (own, l.plus reports new)
  | .error fault (own, reports) => .error fault (own, l.plus reports new)

/-- A stage that is no monitor does not go by the total. -/
def IgnoresTotal : Stage σ → Prop
  | free filter => ∃ adds f, filter = adding adds f
  | monitor _ _ => True

/-- The stage is a filter, and leaves the total as it is. -/
def KeepsTotal : Stage σ → Prop
  | free filter => ∀ e s, match filter e s with
      | .ok _ s' | .error _ s' => s'.2.total = s.2.total
  | monitor _ _ => False

theorem ignoresTotal_beside (filter : Filter σ) : (free (beside filter)).IgnoresTotal := by
  refine ⟨fun _ _ => [], beside filter, ?_⟩
  funext e s
  simp only [adding, beside]
  cases filter e s.1 <;> simp

theorem keepsTotal_beside (filter : Filter σ) : (free (beside filter)).KeepsTotal := by
  intro e s
  simp only [beside]
  cases filter e s.1 <;> rfl

theorem ignoresTotal_monitor (policyOf : σ → Policy) (reporter : Reporter) :
    (monitor policyOf reporter).IgnoresTotal := trivial

end Stage

namespace Pipeline

/-- Runs an event through the pipeline into a sink that may fail. -/
def dispatchInto (p : Pipeline σ) (handle : Event → EStateM XmlBounds.Fault σ Unit) (e : Event) :
    EStateM XmlBounds.Fault σ Unit := do
  match ← p.deliver e with
  | some e' => handle e'
  | none => return

theorem dispatch_eq_dispatchInto (p : Pipeline σ) (consume : σ → Event → σ) (e : Event) :
    p.dispatch consume e = p.dispatchInto (fun e => modify fun s => consume s e) e := rfl

/-- Runs events through the pipeline one after the other, until a dispatch fails. -/
def dispatchAll (p : Pipeline σ) (handle : Event → EStateM XmlBounds.Fault σ Unit) :
    List Event → EStateM XmlBounds.Fault σ Unit
  | [] => return
  | e :: rest => do
      p.dispatchInto handle e
      dispatchAll p handle rest

/-- A sink is one more stage, of which nobody asks what it passes on. -/
theorem dispatchInto_eq_run (p : Pipeline σ) (f : Filter σ) (e : Event) :
    (p.dispatchInto (fun e => do let _ ← f e) e) = (do let _ ← run (p.stages ++ [f]) e) := by
  funext s
  rw [run_append]
  simp only [dispatchInto, deliver, bind, EStateM.bind]
  cases run p.stages e s with
  | error fault s' => rfl
  | ok out s' =>
      cases out with
      | none => rfl
      | some e' =>
          simp only [run, bind, EStateM.bind]
          cases f e' s' with
          | error fault s'' => rfl
          | ok out s'' => cases out <;> rfl

/-- A run fails at the first stage that fails, and the state is left as that stage left it. -/
theorem run_eq_error_iff {stages : List (Filter σ)} {e : Event} {s s' : σ}
    {fault : XmlBounds.Fault} :
    run stages e s = .error fault s' ↔ ∃ before stage after e₁ s₁,
      stages = before ++ stage :: after ∧ run before e s = .ok (some e₁) s₁ ∧
        stage e₁ s₁ = .error fault s' := by
  constructor
  · intro h
    induction stages generalizing e s with
    | nil => cases h
    | cons stage rest ih =>
        rcases error_of_bind h with hstage | ⟨out, s₁, hstage, hrest⟩
        · exact ⟨[], stage, rest, e, s, rfl, rfl, hstage⟩
        · cases out with
          | none => cases hrest
          | some e' =>
              obtain ⟨before, last, after, e₁, s₂, rfl, hbefore, hlast⟩ := ih hrest
              refine ⟨stage :: before, last, after, e₁, s₂, rfl, ?_, hlast⟩
              exact (bind_of_ok hstage).trans hbefore
  · rintro ⟨before, stage, after, e₁, s₁, rfl, hbefore, hstage⟩
    rw [run_append, bind_of_ok hbefore]
    exact bind_of_error hstage

end Pipeline

section Monitoring

variable {policy : Policy} {reporter : Reporter} {e : Event} {out : Option Event} {l l' : Ledger}

/-- A monitor that accepts an event counts it and passes it on, and would do so under a smaller
total, as long as the counter has room. -/
theorem of_sizeMonitor_ok (h : sizeMonitor policy reporter e l = .ok out l') :
    out = some e ∧ l'.reports = l.reports ∧
      (∃ new, l.Grows l' new ∧ Entry.amounts new = e.characters) ∧
      ∀ less : Ledger, less.total.toNat ≤ l.total.toNat →
        l.total.toNat + e.characters < UInt64.size → ∃ less' : Ledger,
          sizeMonitor policy reporter e less = .ok out less' ∧
            less'.total.toNat = less.total.toNat + e.characters := by
  cases e with
  | internalEntity name text =>
      rw [sizeMonitor_internal] at h
      obtain ⟨_, mid, hcount, hpure⟩ := ok_of_bind h
      cases hpure
      have hgrows := grows_declared (of_countEntity hcount).1
      rw [countEntity_eq] at hcount
      cases hfound : policy.sizeViolation name text.length (l.total.add text.length).toNat with
      | some d =>
          simp only [hfound] at hcount
          cases hcount
      | none =>
          simp only [hfound] at hcount
          cases hcount
          refine ⟨rfl, List.append_nil _, ⟨_, hgrows, rfl⟩, fun less hless hroom => ?_⟩
          have hroom : l.total.toNat + text.length < UInt64.size := hroom
          have hnew : (less.total.add text.length).toNat = less.total.toNat + text.length :=
            Counter.toNat_add_of_lt (by omega)
          have hle : less.total.toNat + text.length ≤ (l.total.add text.length).toNat := by
            rw [Counter.toNat_add_of_lt hroom]
            omega
          have hless' := Policy.sizeViolation_eq_none_of_le hfound hle
          have hcounted := countEntity_eq policy reporter name text.length text.length
            { less with journal := .declared name text :: less.journal }
          simp only [hnew, hless'] at hcounted
          rw [sizeMonitor_internal, bind_of_ok hcounted]
          exact ⟨_, rfl, hnew⟩
  | _ =>
      cases h
      exact ⟨rfl, rfl, ⟨[], .refl l, rfl⟩, fun less _ _ => ⟨less, rfl, rfl⟩⟩

end Monitoring

/-! ## Room -/

/-- Since it stood at `start`, the counter has had room for all that is in the journal. -/
def Exact (start : Nat) (l : Ledger) : Prop := l.total.toNat = start + Entry.amounts l.journal

namespace Exact

variable {start : Nat} {l l' : Ledger} {new : List Entry}

/-- What the counter has lost it does not find again. -/
theorem of_grows (h : l.Grows l' new) (hexact : Exact start l') : Exact start l := by
  have htotal := congrArg Counter.toNat h.total
  have hbefore := l.total.toNat_lt
  unfold Exact at hexact ⊢
  rw [h.journal, Entry.amounts_append] at hexact
  rw [Counter.toNat_add] at htotal
  unfold UInt64.size at hbefore htotal
  omega

theorem toNat_of_grows (h : l.Grows l' new) (hexact : Exact start l') :
    l'.total.toNat = l.total.toNat + Entry.amounts new := by
  have hbefore : l.total.toNat = start + Entry.amounts l.journal := of_grows h hexact
  unfold Exact at hexact
  rw [h.journal, Entry.amounts_append] at hexact
  omega

end Exact

section Keeping

variable {C : Contract Ledger}

/-- The contract of the ledger within a course. -/
def inCourse (C : Contract Ledger) : Contract (Course σ) where
  success c c' := C.success c.ledger c'.ledger
  failure c c' := C.failure c.ledger c'.ledger

instance [hC : C.Composes] : (inCourse (σ := σ) C).Composes where
  refl c := hC.refl c.ledger
  trans h h' := hC.trans h h'
  stop c := hC.stop c.ledger
  after h h' := hC.after h h'

end Keeping

section Simulation

variable {stage : Stage σ} {label : Option Nat} {e : Event} {out : Option Event}
  {start : Nat} {c c₀ c' : Course σ}

/-- The second course goes as the first: the same is remembered and reported, the same receiver gets
the same event, and the total grows by the same. -/
structure Alike (label : Option Nat) (e : Event) (c c₀ c' c₀' : Course σ) : Prop where
  own : c'.own = c₀'.own
  reports : c'.ledger.reports = c₀'.ledger.reports
  received : c'.received = c.received ++ [(label, e)]
  received₀ : c₀'.received = c₀.received ++ [(label, e)]
  growth : c'.ledger.total.toNat + c₀.ledger.total.toNat =
    c₀'.ledger.total.toNat + c.ledger.total.toNat

theorem watched_adding_eq_ok {adds : Event → σ × List Report → List Entry}
    {filter : Filter (σ × List Report)} :
    (Stage.free (Stage.adding adds filter)).watched label e c = .ok out c' ↔
      ∃ own' reports', filter e (c.own, c.ledger.reports) = .ok out (own', reports') ∧
        c' = ⟨own', c.ledger.plus reports' (adds e (c.own, c.ledger.reports)),
          c.received ++ [(label, e)]⟩ := by
  simp only [Stage.watched, Stage.act, Stage.adding]
  cases filter e (c.own, c.ledger.reports) with
  | ok out' s =>
      constructor
      · intro h
        cases h
        exact ⟨s.1, s.2, rfl, rfl⟩
      · rintro ⟨_, _, hfilter, rfl⟩
        cases hfilter
        rfl
  | error fault s => simp

theorem watched_monitor_eq_ok {policyOf : σ → Policy} {reporter : Reporter} :
    (Stage.monitor policyOf reporter).watched label e c = .ok out c' ↔
      ∃ ledger', sizeMonitor (policyOf c.own) reporter e c.ledger = .ok out ledger' ∧
        c' = ⟨c.own, ledger', c.received ++ [(label, e)]⟩ := by
  simp only [Stage.watched, Stage.act, Accounted.within]
  cases sizeMonitor (policyOf c.own) reporter e c.ledger with
  | ok out' ledger' =>
      constructor
      · intro h
        cases h
        exact ⟨ledger', rfl, rfl⟩
      · rintro ⟨_, hmonitor, rfl⟩
        cases hmonitor
        rfl
  | error fault ledger' => simp

instance : Additive (fun _ => True) (fun _ => True) where
  nil := trivial
  append _ _ := trivial
  stop := trivial
  appendFailure _ _ := trivial

/-- The total grows by what is entered, with every stage that does not go by it. -/
theorem grows_watched (hignores : stage.IgnoresTotal) (label : Option Nat) (e : Event) :
    (inCourse (Contract.writes (fun _ => True) fun _ => True)).Holds (stage.watched label e) := by
  cases stage with
  | free filter =>
      obtain ⟨adds, f, rfl⟩ := hignores
      constructor
      · intro c out c' h
        obtain ⟨own', reports', _, rfl⟩ := watched_adding_eq_ok.mp h
        exact ⟨_, Ledger.grows_plus _ _ _, trivial⟩
      · intro c fault c' h
        simp only [Stage.watched, Stage.act, Stage.adding] at h
        cases hf : f e (c.own, c.ledger.reports) with
        | ok out s =>
            rw [hf] at h
            cases h
        | error fault' s =>
            rw [hf] at h
            cases h
            exact ⟨_, Ledger.grows_plus _ _ _, trivial⟩
  | monitor policyOf reporter =>
      have hholds : ∀ policy, (Contract.writes (fun _ => True) fun _ => True).Holds
          (sizeMonitor policy reporter e) :=
        fun _ => (holds_sizeMonitor e).mono (fun _ => trivial) fun _ => trivial
      constructor
      · intro c out c' h
        obtain ⟨ledger', hok, rfl⟩ := watched_monitor_eq_ok.mp h
        exact (hholds _).of_ok hok
      · intro c fault c' h
        simp only [Stage.watched, Stage.act, Accounted.within] at h
        split at h
        · cases h
        · next herror =>
            cases h
            exact (hholds _).of_error herror

theorem exact_of_watched (hignores : stage.IgnoresTotal)
    (h : stage.watched label e c = .ok out c') (hexact : Exact start c'.ledger) :
    Exact start c.ledger := by
  obtain ⟨new, hgrows, _⟩ := (grows_watched hignores label e).of_ok h
  exact hexact.of_grows hgrows

theorem of_watched_monitor {policyOf : σ → Policy} {reporter : Reporter}
    (h : (Stage.monitor policyOf reporter).watched label e c = .ok out c')
    (hexact : Exact start c'.ledger) :
    out = some e ∧ c'.own = c.own ∧ c'.ledger.reports = c.ledger.reports ∧
      c'.received = c.received ++ [(label, e)] ∧
      c'.ledger.total.toNat = c.ledger.total.toNat + e.characters := by
  obtain ⟨ledger', hmonitor, rfl⟩ := watched_monitor_eq_ok.mp h
  obtain ⟨hout, hreports, ⟨new, hgrows, hamounts⟩, _⟩ := of_sizeMonitor_ok hmonitor
  rw [← hamounts]
  exact ⟨hout, rfl, hreports, rfl, hexact.toNat_of_grows hgrows⟩

theorem alike_of_watched (hignores : stage.IgnoresTotal) (hown : c.own = c₀.own)
    (hreports : c.ledger.reports = c₀.ledger.reports)
    (hle : c₀.ledger.total.toNat ≤ c.ledger.total.toNat)
    (h : stage.watched label e c = .ok out c') (hexact : Exact start c'.ledger) :
    ∃ c₀', stage.watched label e c₀ = .ok out c₀' ∧ Alike label e c c₀ c' c₀' := by
  -- A filter does not see the total; a monitor does, but accepts whatever it accepts under more.
  cases stage with
  | free filter =>
      obtain ⟨adds, f, rfl⟩ := hignores
      obtain ⟨own', reports', hfilter, rfl⟩ := watched_adding_eq_ok.mp h
      have hgrows := Ledger.grows_plus c.ledger reports' (adds e (c.own, c.ledger.reports))
      have htotal := hexact.toNat_of_grows hgrows
      have hroom := (c.ledger.plus reports' (adds e (c.own, c.ledger.reports))).total.toNat_lt
      rw [hown, hreports] at hfilter htotal hroom
      refine ⟨_, watched_adding_eq_ok.mpr ⟨own', reports', hfilter, rfl⟩, rfl, rfl, rfl, rfl, ?_⟩
      have htotal₀ := Counter.toNat_add_of_lt (c := c₀.ledger.total)
        (n := Entry.amounts (adds e (c₀.own, c₀.ledger.reports))) (by omega)
      simp only [Ledger.plus, hown, hreports] at htotal ⊢
      omega
  | monitor policyOf reporter =>
      obtain ⟨_, _, hsame, _, htotal⟩ := of_watched_monitor h hexact
      obtain ⟨ledger', hmonitor, rfl⟩ := watched_monitor_eq_ok.mp h
      have hroom : c.ledger.total.toNat + e.characters < UInt64.size := by
        rw [← htotal]
        exact ledger'.total.toNat_lt
      obtain ⟨ledger₀', hmonitor₀, htotal₀⟩ :=
        (of_sizeMonitor_ok hmonitor).2.2.2 c₀.ledger hle hroom
      have hsame₀ := (of_sizeMonitor_ok hmonitor₀).2.1
      rw [hown] at hmonitor₀
      refine ⟨_, watched_monitor_eq_ok.mpr ⟨ledger₀', hmonitor₀, rfl⟩, hown,
        hsame.trans (hreports.trans hsame₀.symm), rfl, rfl, ?_⟩
      dsimp only at htotal ⊢
      omega

def receivedBy (label : Option Nat) (received : List (Option Nat × Event)) : List Event :=
  (received.filter (·.1 = label)).map (·.2)

theorem receivedBy_append (label : Option Nat) (before after : List (Option Nat × Event)) :
    receivedBy label (before ++ after) = receivedBy label before ++ receivedBy label after := by
  simp [receivedBy]

theorem receivedBy_same (label : Option Nat) (e : Event) : receivedBy label [(label, e)] = [e] := by
  simp [receivedBy]

theorem receivedBy_ne {label label' : Option Nat} (h : label' ≠ label) (e : Event) :
    receivedBy label [(label', e)] = [] := by
  simp [receivedBy, h]

/-- A course with a monitor before the `k`-th stage, beside one without: only the monitor knows the
difference, and the total. -/
structure Mirrors (k : Nat) (c c₀ : Course σ) : Prop where
  own : c.own = c₀.own
  reports : c.ledger.reports = c₀.ledger.reports
  received : c.received.filter (·.1.isSome) = c₀.received
  reached : receivedBy none c.received = receivedBy (some k) c₀.received
  total : c.ledger.total.toNat =
    c₀.ledger.total.toNat + characters (receivedBy none c.received)

/-- Where the first computation succeeds and the counter has room, so does the second with the same
result, and the courses stay side by side. -/
def Follows {α : Type} (start k : Nat) (x x₀ : EStateM XmlBounds.Fault (Course σ) α) : Prop :=
  ∀ ⦃a c c'⦄, x c = .ok a c' → Exact start c'.ledger →
    Exact start c.ledger ∧ ∀ ⦃c₀⦄, Mirrors k c c₀ →
      ∃ c₀', x₀ c₀ = .ok a c₀' ∧ Mirrors k c' c₀'

variable {k i : Nat} {f f₀ : Filter (Course σ)} {rest rest₀ : List (Filter (Course σ))}

theorem Follows.pure {α : Type} (a : α) :
    Follows start k (pure a : EStateM XmlBounds.Fault (Course σ) α) (pure a) := by
  intro b c c' h hexact
  cases h
  exact ⟨hexact, fun c₀ hmirrors => ⟨c₀, rfl, hmirrors⟩⟩

theorem Follows.bind {α β : Type} {x x₀ : EStateM XmlBounds.Fault (Course σ) α}
    {next next₀ : α → EStateM XmlBounds.Fault (Course σ) β} (hx : Follows start k x x₀)
    (hnext : ∀ a, Follows start k (next a) (next₀ a)) :
    Follows start k (x >>= next) (x₀ >>= next₀) := by
  intro b c c' h hexact
  obtain ⟨a, c₁, hfirst, hrest⟩ := ok_of_bind h
  -- The room at the end is handed back to the start, and the courses go on from there.
  obtain ⟨hexact₁, hlater⟩ := hnext a hrest hexact
  obtain ⟨hexact₀, hnow⟩ := hx hfirst hexact₁
  refine ⟨hexact₀, fun c₀ hmirrors => ?_⟩
  obtain ⟨c₀₁, hfirst₀, hmirrors₁⟩ := hnow hmirrors
  obtain ⟨c₀', hrest₀, hmirrors'⟩ := hlater hmirrors₁
  exact ⟨c₀', (bind_of_ok hfirst₀).trans hrest₀, hmirrors'⟩

theorem Mirrors.of_le (h : Mirrors k c c₀) :
    c₀.ledger.total.toNat ≤ c.ledger.total.toNat := by
  have htotal := h.total
  omega

theorem follows_watched (hi : i ≠ k) (hignores : stage.IgnoresTotal) (e : Event) :
    Follows start k (stage.watched (some i) e) (stage.watched (some i) e) := by
  intro out c c' hact hexact
  refine ⟨exact_of_watched hignores hact hexact, fun c₀ hmirrors => ?_⟩
  obtain ⟨c₀', hact₀, halike⟩ :=
    alike_of_watched hignores hmirrors.own hmirrors.reports hmirrors.of_le hact hexact
  have hmonitor : receivedBy none c'.received = receivedBy none c.received := by
    rw [halike.received, receivedBy_append, receivedBy_ne (by simp), List.append_nil]
  refine ⟨c₀', hact₀, halike.own, halike.reports, ?_, ?_, ?_⟩
  · rw [halike.received, halike.received₀, List.filter_append, hmirrors.received]
    rfl
  · rw [hmonitor, halike.received₀, receivedBy_append, receivedBy_ne (by simpa using hi),
      List.append_nil]
    exact hmirrors.reached
  · have htotal := hmirrors.total
    have hgrowth := halike.growth
    rw [hmonitor]
    omega

/-- What the later stages make of what a stage has passed on or dropped. -/
theorem follows_next (hrest : ∀ e, Follows start k (Pipeline.run rest e) (Pipeline.run rest₀ e))
    (passed : Option Event) :
    Follows start k
      (match passed with
        | some e' => Pipeline.run rest e'
        | none => pure none)
      (match passed with
        | some e' => Pipeline.run rest₀ e'
        | none => pure none) := by
  cases passed with
  | none => exact .pure none
  | some e' => exact hrest e'

theorem follows_cons (hf : ∀ e, Follows start k (f e) (f₀ e))
    (hrest : ∀ e, Follows start k (Pipeline.run rest e) (Pipeline.run rest₀ e)) (e : Event) :
    Follows start k (Pipeline.run (f :: rest) e) (Pipeline.run (f₀ :: rest₀) e) :=
  (hf e).bind (follows_next hrest)

/-- The monitor and the stage behind it together do what the stage does alone. -/
theorem mirrors_of_monitor {policyOf : σ → Policy} {reporter : Reporter} {out₁ : Option Event}
    {c₁ : Course σ} (hignores : stage.IgnoresTotal) (hmirrors : Mirrors k c c₀)
    (hmonitor : (Stage.monitor policyOf reporter).watched none e c = .ok out₁ c₁)
    (hstage : stage.watched (some k) e c₁ = .ok out c') (hexact : Exact start c'.ledger) :
    ∃ c₀', stage.watched (some k) e c₀ = .ok out c₀' ∧ Mirrors k c' c₀' := by
  obtain ⟨_, hown, hreports, hreceived, htotal⟩ :=
    of_watched_monitor hmonitor (exact_of_watched hignores hstage hexact)
  have hle : c₀.ledger.total.toNat ≤ c₁.ledger.total.toNat := by
    have := hmirrors.of_le
    omega
  obtain ⟨c₀', hstage₀, halike⟩ := alike_of_watched hignores (hown.trans hmirrors.own)
    (hreports.trans hmirrors.reports) hle hstage hexact
  have hmet : receivedBy none c'.received = receivedBy none c.received ++ [e] := by
    rw [halike.received, hreceived, receivedBy_append, receivedBy_append, receivedBy_same,
      receivedBy_ne (by simp), List.append_nil]
  refine ⟨c₀', hstage₀, halike.own, halike.reports, ?_, ?_, ?_⟩
  · rw [halike.received, halike.received₀, hreceived, List.filter_append, List.filter_append,
      hmirrors.received]
    simp
  · rw [hmet, halike.received₀, receivedBy_append, receivedBy_same, hmirrors.reached]
  · have hbefore := hmirrors.total
    have hgrowth := halike.growth
    rw [hmet, characters_append]
    simp only [characters]
    omega

theorem follows_monitor (policyOf : σ → Policy) (reporter : Reporter)
    (hignores : stage.IgnoresTotal)
    (hrest : ∀ e, Follows start k (Pipeline.run rest e) (Pipeline.run rest₀ e)) (e : Event) :
    Follows start k
      (Pipeline.run ((Stage.monitor policyOf reporter).watched none ::
        stage.watched (some k) :: rest) e)
      (Pipeline.run (stage.watched (some k) :: rest₀) e) := by
  intro out c c' hrun hexact
  obtain ⟨out₁, c₁, hmonitor, hrun⟩ := ok_of_bind hrun
  obtain ⟨ledger', hcounted, hc₁⟩ := watched_monitor_eq_ok.mp hmonitor
  obtain ⟨rfl, _⟩ := of_sizeMonitor_ok hcounted
  obtain ⟨out₂, c₂, hstage, hrun⟩ := ok_of_bind hrun
  obtain ⟨hexact₂, hlater⟩ := follows_next hrest out₂ hrun hexact
  have hexact₁ := exact_of_watched hignores hstage hexact₂
  refine ⟨exact_of_watched (Stage.ignoresTotal_monitor _ _) hmonitor hexact₁, fun c₀ hmirrors => ?_⟩
  obtain ⟨c₀₂, hstage₀, hmirrors₂⟩ := mirrors_of_monitor hignores hmirrors hmonitor hstage hexact₂
  obtain ⟨c₀', hrest₀, hmirrors'⟩ := hlater hmirrors₂
  exact ⟨c₀', (bind_of_ok hstage₀).trans hrest₀, hmirrors'⟩

end Simulation

section Rows

def watchFrom : Nat → List (Stage σ) → List (Filter (Course σ))
  | _, [] => []
  | i, stage :: rest => stage.watched (some i) :: watchFrom (i + 1) rest

theorem watchFrom_append (i : Nat) (before after : List (Stage σ)) :
    watchFrom i (before ++ after) = watchFrom i before ++ watchFrom (i + before.length) after := by
  induction before generalizing i with
  | nil => rfl
  | cons stage before ih =>
      rw [List.cons_append, watchFrom, watchFrom, ih, List.cons_append, List.length_cons]
      simp only [Nat.add_assoc, Nat.add_comm]

theorem take_watchFrom (i n : Nat) (stages : List (Stage σ)) :
    (watchFrom i stages).take n = watchFrom i (stages.take n) := by
  induction stages generalizing i n with
  | nil => simp [watchFrom]
  | cons stage rest ih =>
      cases n with
      | zero => rfl
      | succ n => rw [watchFrom, List.take_succ_cons, List.take_succ_cons, watchFrom, ih]

theorem drop_watchFrom (i n : Nat) (stages : List (Stage σ)) :
    (watchFrom i stages).drop n = watchFrom (i + (stages.take n).length) (stages.drop n) := by
  induction stages generalizing i n with
  | nil => simp [watchFrom]
  | cons stage rest ih =>
      cases n with
      | zero => rfl
      | succ n =>
          rw [watchFrom, List.drop_succ_cons, List.drop_succ_cons, List.take_succ_cons, ih,
            List.length_cons, Nat.add_right_comm, Nat.add_assoc]

variable {start k i : Nat} {before after : List (Stage σ)} {rest rest₀ : List (Filter (Course σ))}

theorem follows_before (hi : i + before.length ≤ k)
    (hignores : ∀ stage ∈ before, stage.IgnoresTotal)
    (hrest : ∀ e, Follows start k (Pipeline.run rest e) (Pipeline.run rest₀ e)) (e : Event) :
    Follows start k (Pipeline.run (watchFrom i before ++ rest) e)
      (Pipeline.run (watchFrom i before ++ rest₀) e) := by
  induction before generalizing i e with
  | nil => exact hrest e
  | cons stage before ih =>
      rw [List.length_cons] at hi
      obtain ⟨hstage, hbefore⟩ := List.forall_mem_cons.mp hignores
      exact follows_cons (follows_watched (by omega) hstage) (ih (by omega) hbefore) e

theorem follows_after (hi : k < i) (hignores : ∀ stage ∈ after, stage.IgnoresTotal) (e : Event) :
    Follows start k (Pipeline.run (watchFrom i after) e) (Pipeline.run (watchFrom i after) e) := by
  induction after generalizing i e with
  | nil => exact .pure (some e)
  | cons stage after ih =>
      obtain ⟨hstage, hafter⟩ := List.forall_mem_cons.mp hignores
      exact follows_cons (follows_watched (by omega) hstage) (ih (by omega) hafter) e

theorem follows_inserted (policyOf : σ → Policy) (reporter : Reporter) {stage : Stage σ}
    (hignores : ∀ other ∈ before ++ stage :: after, other.IgnoresTotal) (e : Event) :
    Follows start before.length
      (Pipeline.run (watchFrom 0 before ++ (Stage.monitor policyOf reporter).watched none ::
        watchFrom before.length (stage :: after)) e)
      (Pipeline.run (watchFrom 0 (before ++ stage :: after)) e) := by
  obtain ⟨hbefore, hbehind⟩ := List.forall_mem_append.mp hignores
  obtain ⟨hstage, hafter⟩ := List.forall_mem_cons.mp hbehind
  rw [watchFrom_append, Nat.zero_add]
  apply follows_before (Nat.le_of_eq (Nat.zero_add _)) hbefore
  exact follows_monitor policyOf reporter hstage (follows_after (Nat.lt_succ_self _) hafter)

end Rows

namespace Pipeline

/-- The pipeline of the stages, each of which notes what it receives under its place. -/
def watched (stages : List (Stage σ)) : Pipeline (Course σ) := ⟨watchFrom 0 stages⟩

/-- The sink behind the stages, which notes what it receives under the place after theirs. -/
def watchedSink (stages : List (Stage σ))
    (handle : Event → EStateM XmlBounds.Fault (σ × Ledger) Unit) (e : Event) :
    EStateM XmlBounds.Fault (Course σ) Unit := do
  let _ ← (Stage.sink handle).watched (some stages.length) e

def monitored (stages : List (Stage σ)) (index : Nat) (policyOf : σ → Policy)
    (reporter : Reporter) : Pipeline (Course σ) :=
  (watched stages).insert index ((Stage.monitor policyOf reporter).watched none)

variable {stages : List (Stage σ)} {index start : Nat} {policyOf : σ → Policy}
  {reporter : Reporter} {handle : Event → EStateM XmlBounds.Fault (σ × Ledger) Unit}
  {c c₀ c' : Course σ} {events : List Event}

/-- With the sink behind it, there is a stage behind the monitor wherever it is put. -/
theorem follows_monitored (index : Nat) (policyOf : σ → Policy) (reporter : Reporter)
    {last : Stage σ} (hignores : ∀ stage ∈ stages ++ [last], stage.IgnoresTotal) (e : Event) :
    Follows start (min index stages.length)
      (run ((monitored stages index policyOf reporter).stages ++
        [last.watched (some stages.length)]) e)
      (run ((watched stages).stages ++ [last.watched (some stages.length)]) e) := by
  -- The place of the monitor splits the stages and the sink into those before and those behind.
  obtain ⟨stage, after, hbehind⟩ : ∃ stage after, stages.drop index ++ [last] = stage :: after :=
    List.exists_cons_of_ne_nil (List.append_ne_nil_of_right_ne_nil _ (List.cons_ne_nil _ _))
  have hall : stages ++ [last] = stages.take index ++ stage :: after := by
    rw [← hbehind, ← List.append_assoc, List.take_append_drop]
  have hplace : min index stages.length + (stages.drop index).length = stages.length := by
    rw [List.length_drop]
    omega
  have hinserted : Follows start _ _ _ := follows_inserted policyOf reporter (hall ▸ hignores) e
  rw [← hall, ← hbehind, watchFrom_append, watchFrom_append, List.length_take, hplace,
    Nat.zero_add] at hinserted
  simp only [monitored, watched, insert, take_watchFrom, drop_watchFrom, List.length_take,
    Nat.zero_add, List.append_assoc, List.cons_append]
  exact hinserted

theorem follows_dispatchInto (index : Nat) (policyOf : σ → Policy) (reporter : Reporter)
    (hignores : ∀ stage ∈ stages ++ [.sink handle], stage.IgnoresTotal) (e : Event) :
    Follows start (min index stages.length)
      ((monitored stages index policyOf reporter).dispatchInto (watchedSink stages handle) e)
      ((watched stages).dispatchInto (watchedSink stages handle) e) := by
  unfold watchedSink
  rw [dispatchInto_eq_run, dispatchInto_eq_run]
  exact (follows_monitored index policyOf reporter hignores e).bind fun _ => .pure ()

theorem follows_dispatchAll (index : Nat) (policyOf : σ → Policy) (reporter : Reporter)
    (hignores : ∀ stage ∈ stages ++ [.sink handle], stage.IgnoresTotal) (events : List Event) :
    Follows start (min index stages.length)
      ((monitored stages index policyOf reporter).dispatchAll (watchedSink stages handle) events)
      ((watched stages).dispatchAll (watchedSink stages handle) events) := by
  induction events with
  | nil => exact .pure ()
  | cons e rest ih =>
      exact (follows_dispatchInto index policyOf reporter hignores e).bind fun _ => ih

section Contracts

variable {τ : Type} {C : Contract τ} [C.Composes]

theorem holds_run {filters : List (Filter τ)} (h : ∀ f ∈ filters, ∀ e, C.Holds (f e)) (e : Event) :
    C.Holds (run filters e) := by
  induction filters generalizing e with
  | nil => exact Contract.holds_pure _
  | cons f rest ih =>
      refine (h f List.mem_cons_self e).bind fun out => ?_
      cases out with
      | none => exact Contract.holds_pure _
      | some e' => exact ih (fun g hg => h g (List.mem_cons_of_mem f hg)) e'

theorem holds_dispatchAll {p : Pipeline τ} {receive : Event → EStateM XmlBounds.Fault τ Unit}
    (hstages : ∀ f ∈ p.stages, ∀ e, C.Holds (f e)) (hreceive : ∀ e, C.Holds (receive e))
    (events : List Event) : C.Holds (p.dispatchAll receive events) := by
  induction events with
  | nil => exact Contract.holds_pure _
  | cons e rest ih =>
      refine Contract.Holds.bind ((holds_run hstages e).bind fun out => ?_) fun _ => ih
      cases out with
      | none => exact Contract.holds_pure _
      | some e' => exact hreceive e'

theorem exists_of_mem_watchFrom {i : Nat} {f : Filter (Course σ)} (h : f ∈ watchFrom i stages) :
    ∃ label, ∃ stage ∈ stages, f = stage.watched label := by
  induction stages generalizing i with
  | nil => cases h
  | cons stage rest ih =>
      rcases List.mem_cons.mp h with rfl | hrest
      · exact ⟨some i, stage, List.mem_cons_self, rfl⟩
      · obtain ⟨label, found, hfound, rfl⟩ := ih hrest
        exact ⟨label, found, List.mem_cons_of_mem stage hfound, rfl⟩

theorem exists_of_mem_monitored {f : Filter (Course σ)}
    (h : f ∈ (monitored stages index policyOf reporter).stages) :
    f = (Stage.monitor policyOf reporter).watched none ∨
      ∃ label, ∃ stage ∈ stages, f = stage.watched label := by
  simp only [monitored, watched, insert, List.mem_append, List.mem_cons] at h
  rcases h with hbefore | rfl | hbehind
  · exact .inr (exists_of_mem_watchFrom (List.mem_of_mem_take hbefore))
  · exact .inl rfl
  · exact .inr (exists_of_mem_watchFrom (List.mem_of_mem_drop hbehind))

end Contracts

/-- Nothing reaches the total but what the journal tells. -/
theorem grows_dispatchAll (hignores : ∀ stage ∈ stages ++ [.sink handle], stage.IgnoresTotal)
    (events : List Event) :
    (inCourse (Contract.writes (fun _ => True) fun _ => True)).Holds
      ((monitored stages index policyOf reporter).dispatchAll (watchedSink stages handle)
        events) := by
  obtain ⟨hstages, hsink⟩ := List.forall_mem_append.mp hignores
  apply holds_dispatchAll
  · intro f hf e
    rcases exists_of_mem_monitored hf with rfl | ⟨label, stage, hstage, rfl⟩
    · exact grows_watched (Stage.ignoresTotal_monitor _ _) none e
    · exact grows_watched (hstages stage hstage) label e
  · intro e
    exact (grows_watched (hsink _ List.mem_cons_self) _ e).bind fun _ => Contract.holds_pure _

/-- What has room has room all the way. -/
theorem exact_of_dispatchAll {own : σ} {l : Ledger}
    (hignores : ∀ stage ∈ stages ++ [.sink handle], stage.IgnoresTotal)
    (h : (monitored stages index policyOf reporter).dispatchAll (watchedSink stages handle) events
      (.start own l) = .ok () c')
    (hroom : l.total.toNat + Entry.amounts c'.ledger.journal < UInt64.size) :
    Exact l.total.toNat c'.ledger := by
  obtain ⟨new, hgrows, _⟩ := (grows_dispatchAll hignores events).of_ok h
  have hjournal : c'.ledger.journal = new := by
    rw [hgrows.journal]
    exact List.append_nil new
  unfold Exact
  rw [hgrows.total, hjournal]
  exact Counter.toNat_add_of_lt (hjournal ▸ hroom)

section Filters

def sameTotal : Contract Ledger where
  success l l' := l'.total = l.total
  failure l l' := l'.total = l.total

instance : sameTotal.Composes where
  refl _ := rfl
  trans h h' := h'.trans h
  stop _ := rfl
  after h h' := h'.trans h

theorem sameTotal_watched {stage : Stage σ} (hkeeps : stage.KeepsTotal) (label : Option Nat)
    (e : Event) : (inCourse sameTotal).Holds (stage.watched label e) := by
  cases stage with
  | free filter =>
      constructor <;> intro c _ c' h
      all_goals
        have hkept := hkeeps e (c.own, c.ledger)
        simp only [Stage.watched, Stage.act] at h
        split at h
      · next hfilter =>
          cases h
          rwa [hfilter] at hkept
      · cases h
      · cases h
      · next hfilter =>
          cases h
          rwa [hfilter] at hkept
  | monitor _ _ => exact hkeeps.elim

theorem total_of_dispatchAll (hkeeps : ∀ stage ∈ stages ++ [.sink handle], stage.KeepsTotal)
    (h : (watched stages).dispatchAll (watchedSink stages handle) events c = .ok () c') :
    c'.ledger.total = c.ledger.total := by
  obtain ⟨hstages, hsink⟩ := List.forall_mem_append.mp hkeeps
  have hall : (inCourse sameTotal).Holds
      ((watched stages).dispatchAll (watchedSink stages handle) events) := by
    apply holds_dispatchAll
    · intro f hf e
      obtain ⟨label, stage, hstage, rfl⟩ := exists_of_mem_watchFrom hf
      exact sameTotal_watched (hstages stage hstage) label e
    · intro e
      exact (sameTotal_watched (hsink _ List.mem_cons_self) _ e).bind
        fun _ => Contract.holds_pure _
  exact hall.of_ok h

end Filters

theorem received_of_error {stage : Stage σ} {label : Option Nat} {e : Event}
    {fault : XmlBounds.Fault} (h : stage.watched label e c = .error fault c') :
    c'.received = c.received ++ [(label, e)] := by
  cases stage with
  | free filter =>
      simp only [Stage.watched, Stage.act] at h
      split at h
      · cases h
      · cases h
        rfl
  | monitor policyOf reporter =>
      simp only [Stage.watched, Stage.act, Accounted.within] at h
      split at h
      · cases h
      · cases h
        rfl

/-- A monitor that is put among stages that do not go by the total is noticed by nobody as long as
no dispatch fails and the counter has room, and counts what it receives. A dispatch that fails, of
whatever stages, ends with what the failing stage received. -/
theorem mirrors_monitored (stages : List (Stage σ)) (index : Nat) (policyOf : σ → Policy)
    (reporter : Reporter) (handle : Event → EStateM XmlBounds.Fault (σ × Ledger) Unit)
    (events : List Event) (own : σ) (l : Ledger) :
    let p := monitored stages index policyOf reporter
    let receive := watchedSink stages handle
    ((∀ stage ∈ stages ++ [.sink handle], stage.IgnoresTotal) →
      ∀ c', p.dispatchAll receive events (.start own l) = .ok () c' →
        l.total.toNat + Entry.amounts c'.ledger.journal < UInt64.size →
          ∃ c₀', (watched stages).dispatchAll receive events (.start own l) = .ok () c₀' ∧
            Mirrors (min index stages.length) c' c₀' ∧
              ((∀ stage ∈ stages ++ [.sink handle], stage.KeepsTotal) →
                c'.ledger.total.toNat =
                  l.total.toNat + characters (receivedBy none c'.received))) ∧
      ∀ e c fault c', p.dispatchInto receive e c = .error fault c' →
        ∃ before label stage after e₁ c₁,
          p.stages ++ [(Stage.sink handle).watched (some stages.length)] =
              before ++ Stage.watched label stage :: after ∧
            run before e c = .ok (some e₁) c₁ ∧ stage.watched label e₁ c₁ = .error fault c' ∧
              c'.received = c₁.received ++ [(label, e₁)] := by
  intro p receive
  constructor
  · intro hignores c' h hroom
    have hexact := exact_of_dispatchAll hignores h hroom
    have hstart : Mirrors (min index stages.length) (.start own l) (.start own l) :=
      ⟨rfl, rfl, rfl, rfl, rfl⟩
    obtain ⟨c₀', h₀, hmirrors⟩ :=
      (follows_dispatchAll index policyOf reporter hignores events h hexact).2 hstart
    refine ⟨c₀', h₀, hmirrors, fun hkeeps => ?_⟩
    rw [hmirrors.total, total_of_dispatchAll hkeeps h₀]
    rfl
  · intro e c fault c' h
    have hrun : run (p.stages ++ [(Stage.sink handle).watched (some stages.length)]) e c =
        .error fault c' := by
      have hsink := congrFun
        (dispatchInto_eq_run p ((Stage.sink handle).watched (some stages.length)) e) c
      rcases error_of_bind (hsink.symm.trans h) with hrun | ⟨_, _, _, hpure⟩
      · exact hrun
      · cases hpure
    obtain ⟨before, f, after, e₁, c₁, hstages, hbefore, hfails⟩ := run_eq_error_iff.mp hrun
    obtain ⟨label, stage, rfl⟩ : ∃ label stage, f = Stage.watched label stage := by
      have hf : f ∈ p.stages ++ [(Stage.sink handle).watched (some stages.length)] :=
        hstages ▸ List.mem_append_right before List.mem_cons_self
      rcases List.mem_append.mp hf with hinner | hlast
      · rcases exists_of_mem_monitored hinner with rfl | ⟨label, stage, _, rfl⟩
        · exact ⟨none, _, rfl⟩
        · exact ⟨label, stage, rfl⟩
      · exact ⟨_, _, List.mem_singleton.mp hlast⟩
    exact ⟨before, label, stage, after, e₁, c₁, hstages, hbefore, hfails,
      received_of_error hfails⟩

end Pipeline

namespace BetweenDrops

open Pipeline

def dropping (dropped : String) : Filter (List Event) := fun e =>
  match e with
  | .internalEntity name _ => return if name = dropped then none else some e
  | _ => return some e

def stages : List (Stage (List Event)) :=
  [.free (Stage.beside (dropping "a")), .free (Stage.beside (dropping "b"))]

def collecting : Filter (List Event) := fun e => do
  modify (· ++ [e])
  return none

def collect (e : Event) : EStateM XmlBounds.Fault (List Event × Ledger) Unit :=
  modify fun (events, ledger) => (events ++ [e], ledger)

theorem sink_collect : Stage.sink collect = .free (Stage.beside collecting) := rfl

def events : List Event := [.internalEntity "a" "1", .internalEntity "b" "22"]

/-- The stage before the monitor drops the first event, and the stage behind it the second. -/
def course : Course (List Event) where
  own := []
  ledger := ⟨2, [], [.counted "b" 2, .declared "b" "22"]⟩
  received := [(some 0, .internalEntity "a" "1"), (some 0, .internalEntity "b" "22"),
    (none, .internalEntity "b" "22"), (some 1, .internalEntity "b" "22")]

theorem dispatchAll_events :
    (monitored stages 1 (fun _ => .initial) .logging).dispatchAll (watchedSink stages collect)
      events (.start [] .empty) = .ok () course := by
  have hfirst : (monitored stages 1 (fun _ => .initial) .logging).dispatchInto
      (watchedSink stages collect) (.internalEntity "a" "1") (.start [] .empty) =
        .ok () ⟨[], .empty, [(some 0, .internalEntity "a" "1")]⟩ := rfl
  have hsecond : (monitored stages 1 (fun _ => .initial) .logging).dispatchInto
      (watchedSink stages collect) (.internalEntity "b" "22")
        ⟨[], .empty, [(some 0, .internalEntity "a" "1")]⟩ = .ok () course := rfl
  exact (bind_of_ok hfirst).trans (bind_of_ok hsecond)

theorem total_between_drops :
    (∀ stage ∈ stages ++ [.sink collect], stage.IgnoresTotal) ∧
      (monitored stages 1 (fun _ => .initial) .logging).dispatchAll (watchedSink stages collect)
        events (.start [] .empty) = .ok () course ∧
      Ledger.empty.total.toNat + Entry.amounts course.ledger.journal < UInt64.size ∧
      (∀ stage ∈ stages ++ [.sink collect], stage.KeepsTotal) ∧
      (∃ c₀', (watched stages).dispatchAll (watchedSink stages collect) events
        (.start [] .empty) = .ok () c₀' ∧ Mirrors 1 course c₀') ∧
      course.ledger.total.toNat = 0 + 2 := by
  have hignores : ∀ stage ∈ stages ++ [.sink collect], stage.IgnoresTotal := by
    simp only [sink_collect, stages, List.cons_append, List.nil_append, List.forall_mem_cons]
    exact ⟨Stage.ignoresTotal_beside _, Stage.ignoresTotal_beside _,
      Stage.ignoresTotal_beside _, List.forall_mem_nil _⟩
  have hkeeps : ∀ stage ∈ stages ++ [.sink collect], stage.KeepsTotal := by
    simp only [sink_collect, stages, List.cons_append, List.nil_append, List.forall_mem_cons]
    exact ⟨Stage.keepsTotal_beside _, Stage.keepsTotal_beside _, Stage.keepsTotal_beside _,
      List.forall_mem_nil _⟩
  have hroom : Ledger.empty.total.toNat + Entry.amounts course.ledger.journal <
      UInt64.size := by decide
  obtain ⟨c₀', h₀, hmirrors, htotal⟩ := (mirrors_monitored stages 1 (fun _ => .initial) .logging
    collect events [] .empty).1 hignores course dispatchAll_events hroom
  exact ⟨hignores, dispatchAll_events, hroom, hkeeps, ⟨c₀', h₀, hmirrors⟩, htotal hkeeps⟩

end BetweenDrops

namespace Noticed

open Pipeline

/-- Passes events on as long as nothing has been counted. -/
def untilCounted : Filter (List Event × Ledger) := fun e => do
  return if (← get).2.total = 0 then some e else none

def declaration : Event := .internalEntity "e" "ab"

def secondMonitor : List (Stage (List Event)) := [.monitor (fun _ => .initial) .logging]

def goingByTotal : List (Stage (List Event)) := [.free untilCounted]

/-- What the sink collects, and the total at last, of one declaration. -/
def outcome (p : Pipeline (Course (List Event))) (stages : List (Stage (List Event)))
    (total : Counter) : Option (List Event × Counter) :=
  match p.dispatchAll (watchedSink stages BetweenDrops.collect) [declaration]
    (.start [] { Ledger.empty with total }) with
  | .ok () c => some (c.own, c.ledger.total)
  | .error _ _ => none

/-- The monitor before a second one, before a filter that goes by the total, and under a counter
that has no room. -/
theorem not_forall_mirrors :
    (outcome (watched secondMonitor) secondMonitor 0 = some ([declaration], 2) ∧
      outcome (monitored secondMonitor 0 (fun _ => .initial) .logging) secondMonitor 0 =
        some ([declaration], 4)) ∧
      (outcome (watched goingByTotal) goingByTotal 0 = some ([declaration], 0) ∧
        outcome (monitored goingByTotal 0 (fun _ => .initial) .logging) goingByTotal 0 =
          some ([], 2)) ∧
      outcome (monitored [] 0 (fun _ => .initial) .logging) [] ((UInt64.size - 1 : Nat) : Counter) =
        some ([declaration], 1) := by
  decide

end Noticed

end Dtd

end XmlBounds
