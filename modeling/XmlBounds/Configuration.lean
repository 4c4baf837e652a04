import XmlBounds.Check.Document
import XmlBounds.Resolution.Basic

/-!
# Configurations

A configuration holds what the caller has set, what was resolved from that and the property
sources, the live policy, and what a check of documents uses. Each change to what the caller has
set resolves everything anew.
-/

namespace XmlBounds

/-- The configuration of a parser. -/
structure Configuration where
  overrides : Overrides
  /-- The last resolution. -/
  resolution : Resolution
  /-- The live policy. -/
  policy : Policy
  resolver : Option EntityResolver
  reporter : Reporter
  /-- The account of the parse, and of everything reported so far. -/
  ledger : Ledger

/-- A computation on a configuration, which asks property sources on the way. What it has done stays
done when it fails. -/
abbrev Configured (m : Type → Type) := ExceptT Fault (StateT Configuration m)

namespace Configuration

variable {m : Type → Type} [Monad m]

/-- A configuration that is resolved from the sources alone. -/
def fresh (sources : Sources m) : ExceptT Fault m Configuration := do
  let resolution ← ExceptT.adapt Fault.value (resolve sources .none .initial)
  match resolution.applyTo .initial with
  | .error fault _ => throw (.value fault)
  | .ok () policy =>
      return {
        overrides := .none
        resolution
        policy
        resolver := none
        reporter := .logging
        ledger := .empty }

/-- Takes over what was resolved: writes what the caller does not own into the live policy. -/
def adopt (c : Configuration) : Except ValueFault Resolution → Configured m Unit
  | .error fault => throw (.value fault)
  | .ok resolution =>
      match resolution.applyTo c.policy with
      | .error fault policy => do
          set { c with policy }
          throw (.value fault)
      | .ok () policy => set { c with policy, resolution }

def reconfigure (sources : Sources m) : Configured m Unit := do
  let c ← get
  adopt c (← (resolve sources c.overrides c.policy).run)

/-- Sets a feature by any of its names. -/
def setFeature (sources : Sources m) (name : String) (value : Bool) : Configured m Unit := do
  match Key.feature? name with
  | none => throw (.unknownProperty name)
  | some f =>
      modify fun c => { c with overrides := c.overrides.putFeature f value }
      reconfigure sources

/-- The value as it is kept for a setting: a number for a limit, and a text that may be absent for
a protocol list. -/
def convert : Setting → PropertyValue → Except ValueFault PropertyValue
  | .limit _, v => return .int (← v.asLimit)
  | .access _, v => return .ofText (← v.asText)

/-- Sets a setting or a feature by any of its names. For a setting this takes over from what the
caller wrote to the policy. -/
def setProperty (sources : Sources m) (name : String) (value : PropertyValue) :
    Configured m Unit := do
  match Key.find? name with
  | none => throw (.unknownProperty name)
  | some (.setting s) =>
      match convert s value with
      | .error fault => throw (.value fault)
      | .ok v =>
          modify fun c =>
            { c with overrides := c.overrides.putSetting s v, policy := c.policy.disown s }
          reconfigure sources
  | some (.feature f) =>
      match value.asBool with
      | .error fault => throw (.value fault)
      | .ok b =>
          modify fun c => { c with overrides := c.overrides.putFeature f b }
          reconfigure sources

/-- Installs a policy of the caller's. What the caller does not own in it is filled anew. -/
def setPolicy (sources : Sources m) (policy : Policy) : Configured m Unit := do
  modify fun c => { c with policy }
  reconfigure sources

def isEnabled (c : Configuration) (f : Feature) : Bool := c.resolution.isEnabled f

def isSecure (c : Configuration) : Bool := c.isEnabled .secureProcessing

/-- Reads a feature by any of its names. -/
def feature (c : Configuration) (name : String) : Except Fault Bool :=
  match Key.feature? name with
  | none => .error (.unknownProperty name)
  | some f => .ok (c.isEnabled f)

/-- Reads a setting or a feature by any of its names. -/
def property (c : Configuration) (name : String) : Except Fault PropertyValue :=
  match Key.find? name with
  | none => .error (.unknownProperty name)
  | some (.setting s) => .ok (c.policy.value s)
  | some (.feature f) => .ok (.bool (c.isEnabled f))

/-- The effective values. A setting whose live value is no longer the resolved one counts as the
caller's. -/
def effectiveSettings (c : Configuration) : List EffectiveSetting :=
  c.resolution.effectiveSettings.map fun entry =>
    match entry.key with
    | .setting s =>
        if c.policy.value s = entry.value then entry
        else { entry with value := c.policy.value s, origin := .callerPolicy }
    | .feature _ => entry

/-- Runs on the ledger of the configuration. -/
def accounted {α : Type} (x : Accounted α) : StateM Configuration (Except Fault α) := fun c =>
  match x c.ledger with
  | .ok a ledger => (.ok a, { c with ledger })
  | .error fault ledger => (.error fault, { c with ledger })

/-- Lets the system identifier of an external resource pass, or fails. -/
def checkExternalAccess (kind : ResourceKind) (systemId : Option String) :
    StateM Configuration (Except Fault Unit) := do
  let c ← get
  accounted (checkAccess c.policy c.reporter kind systemId)

/-- Reports a diagnostic to the configured reporter. -/
def report (d : Diagnostic) : StateM Configuration (Except Fault Unit) := do
  let c ← get
  accounted (Accounted.report c.reporter d)

/-- The stages that the DTD events of a parse go through. -/
def pipeline (c : Configuration) : Dtd.Pipeline Ledger := monitoredPipeline c.policy c.reporter

/-- Begins a parse: the total of entity text starts at zero. -/
def startParse (c : Configuration) : Configuration :=
  { c with ledger := { c.ledger with total := 0 } }

/-- Asks the installed resolver for an external resource; what it answers with is counted. -/
def resolveEntity (files : Files) (id : ResourceId) :
    StateM Configuration (Except Fault (Option (InputSource Stream))) := do
  let c ← get
  accounted (resolveMonitored c.resolver files id)

/-- What a check of a document goes by. -/
def context (c : Configuration) (files : Files) (systemId : Option String) : CheckContext where
  policy := c.policy
  isEnabled := c.isEnabled
  reporter := c.reporter
  resolver := c.resolver
  files
  systemId

end Configuration

end XmlBounds
