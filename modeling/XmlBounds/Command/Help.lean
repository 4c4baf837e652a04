import XmlBounds.Command.Arguments
import XmlBounds.Command.Render

/-!
# Help

What the program says of itself: what it does, how it is called, and what may stand in a call. The
names in a section stand in one column and what they mean in another.
-/

namespace XmlBounds.Command

/-- A line of help: what may be written, and what it means. -/
structure HelpLine where
  name : String
  meaning : String
  deriving DecidableEq, Repr

/-- What help says about a topic. -/
structure HelpPage where
  purpose : String
  call : String
  sections : List (String × List HelpLine)
  deriving DecidableEq, Repr

def sectionText (title : String) (lines : List HelpLine) : String :=
  let width := (lines.map (·.name.length)).foldl max 0
  let line (l : HelpLine) : String :=
    "  " ++ l.name ++ String.ofList (List.replicate (width - l.name.length + 2) ' ') ++ l.meaning
  "\n".intercalate (s!"{title}:" :: lines.map line)

def HelpPage.text (page : HelpPage) : String :=
  "\n\n".intercalate ([page.purpose, s!"Usage: {programName} {page.call}"] ++
    page.sections.map fun (title, lines) => sectionText title lines) ++ "\n"

def helpOption : HelpLine := ⟨"-h, --help", "Print help"⟩

def optionLines : List HelpLine := [
  ⟨"    --secure", "Force secure processing on"⟩,
  ⟨"    --no-secure", "Turn secure processing off"⟩,
  ⟨"    --set <KEY=VALUE>",
    "Set a limit or access list, e.g. jdk.xml.entityExpansionLimit=1000"⟩,
  ⟨"    --feature <KEY=BOOL>",
    "Set a feature, e.g. http://apache.org/xml/features/disallow-doctype-decl=false"⟩]

def Topic.page : Topic → HelpPage
  | program =>
      { purpose := "XML resource-limit checker"
        call := "<COMMAND>"
        sections := [
          ("Commands", [
            ⟨"check", "Check a document against the effective limits"⟩,
            ⟨"limits", "Show the effective limits and where they come from"⟩,
            ⟨"help", "Print this message or the help of the given subcommand(s)"⟩]),
          ("Options", [helpOption, ⟨"-V, --version", "Print version"⟩])] }
  | check =>
      { purpose := "Check a document against the effective limits"
        call := "check [OPTIONS] <FILE>"
        sections := [
          ("Arguments", [⟨"<FILE>", "Path to the XML file to check"⟩]),
          ("Options", optionLines ++ [⟨"-j, --json", "Output the report as JSON"⟩, helpOption])] }
  | limits =>
      { purpose := "Show the effective limits and where they come from"
        call := "limits [OPTIONS]"
        sections := [
          ("Options", optionLines ++ [⟨"-j, --json", "Output as JSON"⟩, helpOption])] }
  | help =>
      { purpose := "Print this message or the help of the given subcommand(s)"
        call := "help [COMMAND]..."
        sections := [("Arguments", [⟨"[COMMAND]...", "Print help for the subcommand(s)"⟩])] }

end XmlBounds.Command
