import XmlBounds.Dtd.Pipeline
import XmlBounds.Policy

/-!
# Counting entity text

Entity text is met in two places: in the declarations of internal entities, and in the streams of
external ones. Both add to the one total of the document, and after each addition the total and
then the entity's own size are checked.
-/

namespace XmlBounds

/-- Adds to the total and checks it and the size that the entity has now. -/
def countEntity (policy : Policy) (reporter : Reporter) (entityName : String) (amount size : Nat) :
    Accounted Unit := do
  let total ← Accounted.count amount
  Accounted.note (.counted entityName amount)
  Accounted.raiseFirst reporter
    (policy.checkEntitySize size total (Dtd.isParameterName entityName))

/-- The stage that counts the declarations of internal entities, by their characters. It passes
every event on unchanged. -/
def sizeMonitor (policy : Policy) (reporter : Reporter) : Dtd.Filter Ledger := fun e => do
  match e with
  | .internalEntity name text =>
      Accounted.note (.declared name text)
      countEntity policy reporter name text.length text.length
      return some e
  | _ => return some e

/-- The pipeline of a parse: entity text is counted before any other stage sees an event. -/
def monitoredPipeline (policy : Policy) (reporter : Reporter) : Dtd.Pipeline Ledger :=
  Dtd.Pipeline.empty.insert 0 (sizeMonitor policy reporter)

end XmlBounds
