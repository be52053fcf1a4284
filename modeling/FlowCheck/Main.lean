import FlowCheck.Command

/-!
# The program

Reads the files that a request names, runs the request, and writes what comes out of it.
-/

namespace FlowCheck.Program

/-- Adds the files at some paths to a folder. Those that cannot be read stay absent. -/
def addFiles (folder : Folder) (paths : List String) : IO Folder :=
  paths.foldlM (fun folder path => do
    let place := Path.absolute folder.directory path
    try
      let text ← IO.FS.readFile place
      return { folder with files := folder.files ++ [(place, text)] }
    catch _ => return folder) folder

/-- The variables of the settings. -/
def environment : IO Environment := do
  let names := Settings.names.map Environment.nameOf
  let found ← (names ++ names.map Text.upper).mapM fun name => do
    let text ← IO.getEnv name
    return text.map fun text => (name, text)
  return found.filterMap id

/-- Writes what comes out of a run. -/
def finish (outcome : Command.Outcome) : IO UInt32 := do
  if let some (path, text) := outcome.save then
    IO.FS.writeFile path text
  IO.print outcome.out
  IO.eprint outcome.err
  return outcome.code.toNat.toUInt32

/-- Runs a request. -/
def run (request : Command.Request) : IO UInt32 := do
  let directory ← IO.currentDir
  let folder ← addFiles ⟨directory.toString, []⟩ request.paths
  let folder ← addFiles folder (request.sourcePaths folder)
  match request.runIn (← environment) folder with
  | .ok outcome => finish outcome
  | .error fault =>
    IO.eprintln fault.message
    return 1

end FlowCheck.Program

open FlowCheck in
/-- Checks workflow documents and draws their graphs. -/
def main (arguments : List String) : IO UInt32 := do
  match Command.Request.read arguments with
  | .ok request => Program.run request
  | .error .help =>
    IO.println Command.Request.usage
    return 0
  | .error (.misuse error) =>
    IO.eprintln (Command.Request.usage ++ "\narazzo-check: error: " ++ error.message)
    return 2
