import XmlBounds.Alias
import XmlBounds.Policy
import XmlBounds.Resolution.Sources

/-!
# Resolution

The value of every setting and feature is computed from ranked sources. A limit is what the caller's
policy has, else what the caller set as a property, else what the file has, else what the process
has, else a default. Access to external resources follows secure processing instead: without it
every gate is open and no source outside the program is asked; with it one switch opens or closes
them all, and they are closed by default. What the caller set always wins.
-/

namespace XmlBounds

/-- What the caller has set through properties and features. -/
structure Overrides where
  settings : Setting → Option PropertyValue
  features : Feature → Option Bool

namespace Overrides

def none : Overrides := ⟨fun _ => .none, fun _ => .none⟩

def putSetting (o : Overrides) (s : Setting) (v : PropertyValue) : Overrides :=
  { o with settings := fun t => if t = s then some v else o.settings t }

def putFeature (o : Overrides) (f : Feature) (b : Bool) : Overrides :=
  { o with features := fun g => if g = f then some b else o.features g }

/-- Whether processing is secure: it is unless the caller has turned it off. -/
def isSecure (o : Overrides) : Bool := (o.features .secureProcessing).getD true

end Overrides

/-- The property that opens or closes all gates under secure processing. -/
def resolveExternalEntities : String := "jdk.xml.resolveExternalEntities"

/-- A limit of which no source says anything. -/
def defaultLimit : LimitKind → Int32
  | .entityExpansions => 64000
  | .elementAttributes => 10000
  | .elementDepth => 2147483647
  | .maxOccurs => 5000
  | .generalEntitySize => 2147483647
  | .parameterEntitySize => 1000000
  | .totalEntitySize => 50000000

def defaultValue : Setting → PropertyValue
  | .limit k => .int (defaultLimit k)
  | .access _ => .text accessAll

/-- The values of all settings and features. -/
structure Resolution where
  setting : Setting → Resolved PropertyValue
  feature : Feature → Resolved Bool

/-- A line of a report on effective values. -/
structure EffectiveSetting where
  key : Key
  value : PropertyValue
  origin : Origin
  deriving DecidableEq, Repr

namespace Resolution

def isEnabled (r : Resolution) (f : Feature) : Bool := (r.feature f).value

def effectiveSettings (r : Resolution) : List EffectiveSetting :=
  Setting.all.map (fun s => ⟨.setting s, (r.setting s).value, (r.setting s).origin⟩) ++
    Feature.reported.map (fun f => ⟨.feature f, .bool (r.feature f).value, (r.feature f).origin⟩)

/-- Writes resolved values into the policy, except where the policy itself was the source. A value
that does not convert ends this; what was written before it stays. -/
def applyAll (r : Resolution) : List Setting → EStateM ValueFault Policy Unit
  | [] => return
  | s :: rest => do
      let p ← get
      if (r.setting s).origin = .callerPolicy then applyAll r rest
      else
        match p.applyResolved s (r.setting s).value with
        | .error fault => throw fault
        | .ok p' =>
            set p'
            applyAll r rest

/-- Writes the values of all settings into the policy. -/
def applyTo (r : Resolution) : EStateM ValueFault Policy Unit := applyAll r Setting.all

end Resolution

namespace Resolve

variable {m : Type → Type} [Monad m]

/-- A limit, by its sources in order. -/
def limit (sources : Sources m) (overrides : Overrides) (policy : Policy) (k : LimitKind) :
    ExceptT ValueFault m (Resolved PropertyValue) :=
  if (policy.limitEntry k).isOwned then return ⟨policy.value (.limit k), .callerPolicy⟩
  else
    match overrides.settings (.limit k) with
    | some v => do
        let n ← (ExceptT.mk (pure v.asLimit) : ExceptT ValueFault m Int32)
        return ⟨.int (Limit.normalize n).toInt32, .callerProperty⟩
    | none => do
        let found ← (sources.limit k.propertyName (defaultLimit k) : m (Resolved Int32))
        return found.map .int

/-- The switch that opens or closes every gate. -/
def gate (sources : Sources m) (isSecure : Bool) : m (Resolved Bool) :=
  if isSecure then do
    let switch ← sources.switch resolveExternalEntities false
    return ⟨switch.value, if switch.isSpecified then switch.origin else .secureProcessing⟩
  else return ⟨true, .secureProcessing⟩

/-- The protocol list that goes with a gate. -/
def listOfGate (gate : Bool) : String := if gate then accessAll else accessNone

/-- A protocol list: under secure processing the sources may have one of their own. -/
def access (sources : Sources m) (overrides : Overrides) (policy : Policy) (gate : Resolved Bool)
    (a : AccessList) : m (Resolved PropertyValue) :=
  if (policy.accessEntry a).isOwned then return ⟨policy.value (.access a), .callerPolicy⟩
  else
    match overrides.settings (.access a) with
    | some v => return ⟨v, .callerProperty⟩
    | none =>
        if overrides.isSecure then do
          let found ← sources.text a.propertyName (listOfGate gate.value)
          return if found.isSpecified then found.map .text
            else ⟨.text (listOfGate gate.value), gate.origin⟩
        else return ⟨.text (listOfGate gate.value), gate.origin⟩

/-- A feature: what the caller set, else what secure processing and the gate make of it. -/
def feature (overrides : Overrides) (gate : Resolved Bool) (f : Feature) : Resolved Bool :=
  match overrides.features f with
  | some b => ⟨b, .callerProperty⟩
  | none =>
      match f with
      | .secureProcessing => ⟨true, .default⟩
      | .loadExternalDtd | .externalGeneralEntities | .externalParameterEntities => gate
      | .disallowDoctype => ⟨overrides.isSecure, .secureProcessing⟩

end Resolve

/-- Resolves every setting and feature. This fails only if the caller set a limit to what is no
number. -/
def resolve {m : Type → Type} [Monad m] (sources : Sources m) (overrides : Overrides)
    (policy : Policy) : ExceptT ValueFault m Resolution := do
  let limits ← LimitKind.tabulateM (Resolve.limit sources overrides policy)
  let gate ← (Resolve.gate sources overrides.isSecure : m (Resolved Bool))
  let access ← (AccessList.tabulateM (Resolve.access sources overrides policy gate) :
    m (AccessList → Resolved PropertyValue))
  return {
    setting := fun
      | .limit k => limits k
      | .access a => access a
    feature := Resolve.feature overrides gate }

end XmlBounds
