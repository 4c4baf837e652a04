import XmlBounds.Command.Run

/-!
# The program

The program runs as a function of a snapshot of what it can see. Where the run opens files that the
snapshot does not have, they are added to it and the run is done again; nothing is printed before
the snapshot is complete.
-/

namespace XmlBounds.Program

/-- The part of the environment that the program goes by. -/
def environment : IO Environment := do
  let names := Environment.homeVariable ::
    Command.environmentNames ++ Command.environmentNames.map Environment.spelling
  return ⟨← names.filterMapM fun name => do return (← IO.getEnv name).map (name, ·)⟩

/-- The installation that a program belongs to: the directory above that of the program. -/
def homeOf (program : String) : Option String :=
  match (LocalPath.ofText program).names.reverse with
  | _ :: _ :: above => (LocalPath.ofNames above.reverse).toText?
  | _ => none

/-- Adds to a snapshot what stands at each step along a path, up to the first file or to where
there is nothing that has a name in text. -/
def survey (files : Files) (here : List FileName) : List FileName → IO Files
  | [] => return files
  | step :: rest => do
      let next := if LocalPath.isUp step then here.dropLast else here ++ [step]
      let some path := (LocalPath.ofNames next).toText? | return files
      try
        let content ← IO.FS.readBinFile path
        return { files with entries := (next, content.data.toList) :: files.entries }
      catch
        | .inappropriateType .. =>
            survey { files with directories := next :: files.directories } next rest
        | _ => return files

/-- Adds to a snapshot what stands at a path. -/
def look (files : Files) (path : LocalPath) : IO Files :=
  survey files (if path.isAbsolute then [] else files.start) path.names

def openedPaths (journal : List Entry) : List LocalPath :=
  journal.filterMap fun
    | .opened _ path => some path
    | _ => none

/-- Runs until the snapshot has every file that the run opens. -/
partial def settle (world : Command.World) (known : List LocalPath) (args : List String) :
    IO Command.Outcome := do
  let (outcome, journal) := Command.run world args
  match (openedPaths journal).filter (· ∉ known) with
  | [] => return outcome
  | path :: _ =>
      let files ← look world.files path
      settle { world with files } (path :: known) args

/-- The paths that a run reads in any case. -/
def firstPaths (propertiesPath : Option String) (args : List String) : List LocalPath :=
  let documents := match Command.Invocation.read args with
    | some (.check file _) => [file]
    | _ => []
  (propertiesPath.toList ++ documents).map .ofText

end XmlBounds.Program

/-- Runs the program on its command line. -/
def main (args : List String) : IO UInt32 := do
  let directory := toString (← IO.currentDir)
  let environment ← XmlBounds.Program.environment
  let home := environment.home?.or
    (XmlBounds.Program.homeOf (toString (← IO.appPath)))
  let propertiesPath := home.map XmlBounds.Environment.propertiesPath
  let files ← (XmlBounds.Program.firstPaths propertiesPath args).foldlM XmlBounds.Program.look
    ⟨directory, [], []⟩
  let outcome ← XmlBounds.Program.settle ⟨environment, files, propertiesPath⟩ [] args
  IO.print outcome.output
  IO.eprint outcome.errors
  return UInt32.ofNat outcome.status
