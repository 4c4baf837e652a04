import XmlBounds.Dtd.EntityTable
import XmlBounds.Ledger

/-!
# The pipeline of DTD events

On its way to the consumer an event runs through stages in order. Each stage passes it on, perhaps
changed, or drops it, or fails; what one stage drops or fails on reaches no later stage.
-/

namespace XmlBounds.Dtd

/-- A stage over a shared state, in which it may also keep what it has to remember. -/
abbrev Filter (σ : Type) := Event → EStateM XmlBounds.Fault σ (Option Event)

/-- Stages in order. -/
structure Pipeline (σ : Type) where
  stages : List (Filter σ)

namespace Pipeline

variable {σ : Type}

def empty : Pipeline σ := ⟨[]⟩

def size (p : Pipeline σ) : Nat := p.stages.length

def push (p : Pipeline σ) (stage : Filter σ) : Pipeline σ := ⟨p.stages ++ [stage]⟩

/-- Adds a stage at an index, or behind the others if there are fewer. -/
def insert (p : Pipeline σ) (index : Nat) (stage : Filter σ) : Pipeline σ :=
  ⟨p.stages.take index ++ stage :: p.stages.drop index⟩

def run : List (Filter σ) → Filter σ
  | [], e => pure (some e)
  | stage :: rest, e => do
      match ← stage e with
      | some e' => run rest e'
      | none => pure none

/-- What reaches the consumer of an event. -/
def deliver (p : Pipeline σ) : Filter σ := run p.stages

/-- Runs an event through the pipeline into a consumer. -/
def dispatch (p : Pipeline σ) (consume : σ → Event → σ) (e : Event) :
    EStateM XmlBounds.Fault σ Unit := do
  match ← p.deliver e with
  | some e' => modify fun s => consume s e'
  | none => return

@[simp] theorem run_nil (e : Event) : run ([] : List (Filter σ)) e = pure (some e) := rfl

/-- Running through two lists of stages is running through the one and then the other. -/
theorem run_append (l l' : List (Filter σ)) (e : Event) :
    run (l ++ l') e = (do
      match ← run l e with
      | some e' => run l' e'
      | none => pure none) := by
  induction l generalizing e with
  | nil => rfl
  | cons stage l ih =>
      simp only [List.cons_append, run]
      funext s
      simp only [bind, EStateM.bind]
      cases stage e s with
      | error => rfl
      | ok r s' =>
          cases r with
          | none => rfl
          | some e' => exact congrFun (ih e') s'

end Pipeline

end XmlBounds.Dtd
