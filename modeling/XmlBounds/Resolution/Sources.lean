import XmlBounds.Limit
import XmlBounds.Properties.Basic
import XmlBounds.Resolution.Origin
import XmlBounds.Text.Integer

/-!
# Property sources

Two sources outside the program supply properties: the properties file of the installation and the
process. The file comes first. Asking may have an effect, such as reading the file again.
-/

namespace XmlBounds

/-- The sources outside the program. -/
structure Sources (m : Type → Type) where
  deployment : String → m (Option String)
  process : String → m (Option String)

namespace Sources

variable {m : Type → Type} [Monad m]

def ofProperties (deployment process : Properties) : Sources m where
  deployment name := pure (deployment.find? name)
  process name := pure (process.find? name)

/-- The values that the sources have for a property, the file's first. -/
def candidates (sources : Sources m) (name : String) : m (List (Resolved String)) := do
  let file ← sources.deployment name
  let process ← sources.process name
  return (file.map (⟨·, .deploymentFile⟩)).toList ++ (process.map (⟨·, .processProperty⟩)).toList

/-- The first candidate that is a number. A number that is not positive lifts the limit. -/
def firstLimit (fallback : Int32) : List (Resolved String) → Resolved Int32
  | [] => ⟨fallback, .default⟩
  | c :: rest =>
      match Text.readInt32 (Text.trim c.value.toList) with
      | .ok n => ⟨if 0 < n then n else Limit.unlimited.toInt32, c.origin⟩
      | .error _ => firstLimit fallback rest

def firstText (fallback : String) : List (Resolved String) → Resolved String
  | [] => ⟨fallback, .default⟩
  | c :: _ => c

/-- Whether the first candidate reads `true`, in any case and between blanks. -/
def firstSwitch (fallback : Bool) : List (Resolved String) → Resolved Bool
  | [] => ⟨fallback, .default⟩
  | c :: _ => ⟨Text.sameIgnoringCase (Text.trimmed c.value) "true", c.origin⟩

/-- The limit that the sources have under a name. -/
def limit (sources : Sources m) (name : String) (fallback : Int32) : m (Resolved Int32) :=
  return firstLimit fallback (← sources.candidates name)

/-- The text that the sources have under a name. -/
def text (sources : Sources m) (name fallback : String) : m (Resolved String) :=
  return firstText fallback (← sources.candidates name)

/-- The switch that the sources have under a name. -/
def switch (sources : Sources m) (name : String) (fallback : Bool) : m (Resolved Bool) :=
  return firstSwitch fallback (← sources.candidates name)

end Sources

end XmlBounds
