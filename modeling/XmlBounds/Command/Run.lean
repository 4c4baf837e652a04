import XmlBounds.Check.Reader
import XmlBounds.Command.Arguments
import XmlBounds.Command.Help
import XmlBounds.Command.Render
import XmlBounds.Properties.Deployment
import XmlBounds.Properties.Environment

/-!
# Running the program

The program as a function of its arguments and of what it can see: its environment, the files and
the place of the properties file.
-/

namespace XmlBounds.Command

/-- What the program can see. -/
structure World where
  environment : Environment
  files : Files
  /-- The path of the properties file, if it is known. -/
  propertiesPath : Option String

/-- What comes of a run. -/
structure Outcome where
  status : Nat
  output : String
  errors : String
  deriving DecidableEq, Repr

/-- What a run fails with after the command line is read. -/
inductive RunFault where
  | fault (why : Fault)
  /-- A feature is neither turned on nor off. -/
  | notSwitch (key value : String)
  deriving DecidableEq, Repr

def RunFault.message : RunFault → String
  | fault why => why.message
  | notSwitch key value => s!"feature {key} needs true or false, got '{value}'"

/-- The names of the properties that the environment may hold. -/
def environmentNames : List String :=
  Setting.all.map (·.propertyName) ++ [resolveExternalEntities]

/-- The property sources that the program sees. -/
def World.sources (w : World) : Sources Id :=
  .ofProperties (w.files.properties w.propertiesPath)
    (w.environment.properties environmentNames)

def change (c : Configuration) (x : Configured Id Unit) : Except RunFault Configuration :=
  match x c with
  | (.ok (), c') => .ok c'
  | (.error fault, _) => .error (.fault fault)

/-- Turns secure processing on or off if the options say so. -/
def setSecure (sources : Sources Id) (options : Options) (c : Configuration) :
    Except RunFault Configuration :=
  if options.isInsecure then
    change c (Configuration.setFeature sources Feature.secureProcessing.uri false)
  else if options.isSecure then
    change c (Configuration.setFeature sources Feature.secureProcessing.uri true)
  else .ok c

def setFeature (sources : Sources Id) (c : Configuration) (entry : String × String) :
    Except RunFault Configuration :=
  match Text.lowered entry.2 with
  | "true" => change c (Configuration.setFeature sources entry.1 true)
  | "false" => change c (Configuration.setFeature sources entry.1 false)
  | _ => .error (.notSwitch entry.1 entry.2)

def setProperty (sources : Sources Id) (c : Configuration) (entry : String × String) :
    Except RunFault Configuration :=
  change c (Configuration.setProperty sources entry.1 (.text entry.2))

/-- The configuration that the options ask for: features are set before properties. -/
def configure (sources : Sources Id) (options : Options) : Except RunFault Configuration := do
  let c ← (Configuration.fresh sources).run.mapError .fault
  let c ← setSecure sources options c
  let c ← options.features.foldlM (setFeature sources) c
  options.properties.foldlM (setProperty sources) c

/-- What comes of a run that succeeds or fails after the command line is read. -/
def Outcome.ofResult : Except RunFault String → Outcome
  | .ok output => ⟨0, output, ""⟩
  | .error fault => ⟨1, "", s!"Error: {fault.message}\n"⟩

/-- Checks a file: the outcome, and the journal. -/
def runCheck (w : World) (file : String) (options : Options) : Outcome × List Entry :=
  match configure w.sources options with
  | .error fault => (.ofResult (.error fault), [])
  | .ok c =>
      let (result, r) := DocumentReader.checkFile w.files file ⟨c, none⟩
      let rendered := result.map fun report =>
        if options.isJson then reportJson report else reportText file report
      (.ofResult (rendered.mapError .fault), r.configuration.ledger.journal)

def runLimits (w : World) (options : Options) : Outcome :=
  .ofResult ((configure w.sources options).map fun c =>
    if options.isJson then settingsJson c.effectiveSettings
    else settingsText c.effectiveSettings)

def usage : String :=
  s!"usage: {programName} check FILE [--json] [--secure | --no-secure]\n" ++
  "           [--set KEY=VALUE]... [--feature KEY=BOOL]...\n" ++
  s!"       {programName} limits [--json] [--secure | --no-secure]\n" ++
  "           [--set KEY=VALUE]... [--feature KEY=BOOL]...\n" ++
  s!"       {programName} --version\n"

/-- Runs the program: the outcome, and the journal. -/
def run (w : World) (args : List String) : Outcome × List Entry :=
  match Invocation.read args with
  | none => (⟨2, "", usage⟩, [])
  | some .version => (⟨0, s!"{programName} {programVersion}\n", ""⟩, [])
  | some (.help topic) => (⟨0, topic.page.text, ""⟩, [])
  | some (.check file options) => runCheck w file options
  | some (.limits options) => (runLimits w options, [])

end XmlBounds.Command
