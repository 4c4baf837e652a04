import XmlBounds.Proofs.Check.Plain
import XmlBounds.Proofs.Configuration.Life

/-!
# Checks that know nothing of each other

All that a check leaves behind is in the reports and the journal of its configuration. Only a
resolver that remembers can tell them from none: a check with any other resolver comes to the same
with what was done before as without, and leaves that as it was, below what it does itself.
-/

namespace XmlBounds

section Commuting

variable {σ α : Type}

/-- The outcome with its state changed. -/
def shifted (g : σ → σ) : EStateM.Result Fault σ α → EStateM.Result Fault σ α
  | .ok a s => .ok a (g s)
  | .error fault s => .error fault (g s)

/-- It is the same to make the change before the computation or after it. -/
def commuting (g : σ → σ) : Judgement σ where
  Applies x s := x (g s) = shifted g (x s)
  alike s t := t = g s

instance {g : σ → σ} : (commuting g).Composes where
  pure _ _ := rfl
  throw _ _ := rfl
  bind {α β x f s} hx hf := by
    have hx : x (g s) = shifted g (x s) := hx
    have hgoal : (x >>= f) (g s) = shifted g ((x >>= f) s) := by
      simp only [Bind.bind, EStateM.bind, hx]
      cases hxs : x s with
      | ok a t => exact hf hxs
      | error fault t => rfl
    exact hgoal
  read {α f s} halike hf := by
    have hf : f s (g s) = shifted g (f s s) := hf
    have hread : (get >>= f) (g s) = f (g s) (g s) := rfl
    have hgoal : (get >>= f) (g s) = shifted g ((get >>= f) s) := by
      rw [hread, halike (g s) rfl, hf]
      rfl
    exact hgoal

end Commuting

/-- The resolver answers a request in the same way whatever was done before. -/
def EntityResolver.IsMemoryless (resolve : EntityResolver) : Prop :=
  ∀ journal journal' id, resolve journal id = resolve journal' id

/-- The ledger, if another had come to an end before it was begun. -/
def Ledger.after (l earlier : Ledger) : Ledger where
  total := l.total
  reports := earlier.reports ++ l.reports
  journal := l.journal ++ earlier.journal

def Pass.after (p : Pass) (earlier : Ledger) : Pass :=
  { p with ledger := p.ledger.after earlier }

section Steps

variable {ctx : CheckContext} {earlier : Ledger}

theorem commuting_raise {α : Type} (d : Diagnostic) :
    (commuting (Ledger.after · earlier)).Always (Accounted.raise ctx.reporter d : Accounted α) := by
  intro l
  have hgoal : (Accounted.raise ctx.reporter d : Accounted α) (l.after earlier) =
      shifted (Ledger.after · earlier) (Accounted.raise ctx.reporter d l) := by
    rw [Accounted.raise_apply, Accounted.raise_apply]
    simp only [shifted, Ledger.after, List.append_assoc]
  exact hgoal

theorem commuting_takenUp {x : Accounted Unit}
    (h : (commuting (Ledger.after · earlier)).Always x) :
    (commuting (Ledger.after · earlier)).Always x.takenUp := by
  intro l
  have hx : x (l.after earlier) = shifted (Ledger.after · earlier) (x l) := h l
  have hgoal : x.takenUp (l.after earlier) =
      shifted (Ledger.after · earlier) (x.takenUp l) := by
    simp only [Accounted.takenUp, hx]
    cases x l with
    | ok done l' => rfl
    | error fault l' => cases hfault : fault.isInterruption <;> simp [shifted, hfault]
  exact hgoal

theorem coversSteps_commuting
    (hresolver : ∀ resolve, ctx.resolver = some resolve → resolve.IsMemoryless) :
    (commuting (Ledger.after · earlier)).CoversSteps ctx where
  raise _ := commuting_raise _
  note _ _ := rfl
  count _ _ := rfl
  takeUp := commuting_takenUp
  answer _ hresolve _ := hresolver _ hresolve _ _ _
  failing _ _ := rfl

theorem liftsTo_commuting :
    (commuting (Ledger.after · earlier)).LiftsTo (commuting (Pass.after · earlier)) where
  outside h := ⟨_, h⟩
  accounted {α x} h p := by
    have hx : x (p.ledger.after earlier) = shifted (Ledger.after · earlier) (x p.ledger) :=
      h p.ledger
    have hgoal : Checked.accounted x (p.after earlier) =
        shifted (Pass.after · earlier) (Checked.accounted x p) := by
      simp only [Checked.accounted, Accounted.within, Pass.after, hx]
      cases x p.ledger <;> rfl
    exact hgoal
  aside {f} hf p := by
    have hgoal : f (p.after earlier) = (f p).after earlier := by
      rw [Pass.after, hf, Pass.after, Pass.ledger_of_outside hf]
    exact congrArg (EStateM.Result.ok PUnit.unit) hgoal

theorem checkDocument_after
    (hresolver : ∀ resolve, ctx.resolver = some resolve → resolve.IsMemoryless)
    (document : Markup.Document) (p : Pass) :
    Checked.checkDocument ctx document (p.after earlier) =
      shifted (Pass.after · earlier) (Checked.checkDocument ctx document p) :=
  ((coversSteps_commuting hresolver).covers liftsTo_commuting commuting_raise).checkDocument
    document p

end Steps

namespace Configuration

/-- The configuration as if nothing had been done with it yet. -/
def forgotten (c : Configuration) : Configuration := { c with ledger := .empty }

variable {c : Configuration}

theorem checkText_after
    (hresolver : ∀ resolve, c.resolver = some resolve → resolve.IsMemoryless)
    (files : Files) (systemId : Option String) (text : String) :
    DocumentReader.checkText files text ⟨c, systemId⟩ =
      let alone := DocumentReader.checkText files text ⟨c.forgotten, systemId⟩
      (alone.1, ⟨{ c with ledger := alone.2.configuration.ledger.after c.ledger }, systemId⟩) := by
  have hcontext : (DocumentReader.mk c.forgotten systemId).context files =
      (DocumentReader.mk c systemId).context files := rfl
  have hstart : Pass.start c.startParse.ledger =
      (Pass.start c.forgotten.startParse.ledger).after c.ledger := by
    simp [Pass.start, Pass.after, Ledger.after, startParse, forgotten, Ledger.empty]
  rw [DocumentReader.checkText_eq, DocumentReader.checkText_eq, hcontext, hstart,
    checkDocument_after hresolver]
  cases Checked.checkDocument ((DocumentReader.mk c systemId).context files) (Markup.read text)
    (.start c.forgotten.startParse.ledger) with
  | ok done p => rfl
  | error fault p => rfl

/-- Checks texts one after the other, each with a new reader that has the system identifier. -/
def checkEach (files : Files) (systemId : Option String) :
    List String → StateM Configuration (List (Except Fault CheckReport))
  | [] => return []
  | text :: rest => do
      let result ← reading systemId (DocumentReader.checkText files text)
      return result :: (← checkEach files systemId rest)

section Alone

variable (files : Files) (systemId : Option String)

/-- What comes of the text if nothing else is checked. -/
def checkAlone (c : Configuration) (text : String) : Except Fault CheckReport :=
  (reading systemId (DocumentReader.checkText files text) c).1

theorem checkEach_cons (text : String) (rest : List String) (c : Configuration) :
    checkEach files systemId (text :: rest) c =
      let checked := (reading systemId (DocumentReader.checkText files text) c).2
      (checkAlone files systemId c text :: (checkEach files systemId rest checked).1,
        (checkEach files systemId rest checked).2) := rfl

theorem checkAlone_forgotten
    (hresolver : ∀ resolve, c.resolver = some resolve → resolve.IsMemoryless) (text : String) :
    checkAlone files systemId c.forgotten text = checkAlone files systemId c text := by
  simp only [checkAlone, reading, checkText_after hresolver]

theorem forgotten_reading
    (hresolver : ∀ resolve, c.resolver = some resolve → resolve.IsMemoryless) (text : String) :
    (reading systemId (DocumentReader.checkText files text) c).2.forgotten = c.forgotten := by
  simp only [reading, checkText_after hresolver]
  rfl

theorem sameSettings_of_forgotten {c' : Configuration} (h : c'.forgotten = c.forgotten) :
    c.SameSettings c' :=
  ⟨congrArg (·.overrides) h, congrArg (·.resolution) h, congrArg (·.policy) h⟩

/-- If the resolver does not remember, checking texts one after the other comes to the same for each
as checking it alone, and leaves the settings as they are. -/
theorem checkEach_eq_alone
    (hresolver : ∀ resolve, c.resolver = some resolve → resolve.IsMemoryless)
    (texts : List String) :
    (checkEach files systemId texts c).1 = texts.map (checkAlone files systemId c) ∧
      c.SameSettings (checkEach files systemId texts c).2 := by
  suffices h : (checkEach files systemId texts c).1 = texts.map (checkAlone files systemId c) ∧
      (checkEach files systemId texts c).2.forgotten = c.forgotten from
    ⟨h.1, sameSettings_of_forgotten h.2⟩
  induction texts generalizing c with
  | nil => exact ⟨rfl, rfl⟩
  | cons text rest ih =>
      -- The first check leaves all but the ledger as it was, the resolver among it.
      have hsame := forgotten_reading files systemId hresolver text
      have hresolver' : ∀ resolve, (reading systemId (DocumentReader.checkText files text)
          c).2.resolver = some resolve → resolve.IsMemoryless := by
        intro resolve hresolve
        exact hresolver resolve ((congrArg (·.resolver) hsame).symm.trans hresolve)
      obtain ⟨hresults, hforgotten⟩ := ih hresolver'
      rw [checkEach_cons]
      refine ⟨?_, hforgotten.trans hsame⟩
      have halone : checkAlone files systemId
          (reading systemId (DocumentReader.checkText files text) c).2 =
            checkAlone files systemId c := by
        funext other
        rw [← checkAlone_forgotten files systemId hresolver', hsame,
          checkAlone_forgotten files systemId hresolver]
      simp only [hresults, halone, List.map_cons]

end Alone

/-- A configuration that loads external DTDs, of which its resolver has none. -/
def dtdless : Configuration :=
  (DocumentReader.plain (fun f => f = .loadExternalDtd)
    (some fun _ _ => .error (.io ⟨.notFound, none⟩))).configuration

/-- A document that asks for its DTD in vain stands between two that do not, and each comes to what
it comes to alone. -/
theorem checkEach_dtdless :
    let texts := ["<a/>", "<!DOCTYPE a SYSTEM \"d.dtd\"><a/>", "<a><b/></a>"]
    (checkEach Plain.noFiles none texts dtdless).1.map
      (fun result => result.toOption.map (·.elements)) = [some 1, none, some 2] := by
  intro texts
  have hresolver : ∀ resolve, dtdless.resolver = some resolve → resolve.IsMemoryless := by
    rintro resolve ⟨⟩ journal journal' id
    rfl
  rw [(checkEach_eq_alone Plain.noFiles none hresolver texts).1]
  decide +kernel

end Configuration

end XmlBounds
