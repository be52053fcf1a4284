import FlowCheck.Command.Drawing
import FlowCheck.Command.Listing
import FlowCheck.Settings.Reader

/-!
# The command

A command line is read, the settings are taken from the environment, and the request is run on the
files of a folder.
-/

namespace FlowCheck.Command

/-- Runs a request with settings. -/
def Request.run (request : Request) (settings : Settings) (folder : Folder) :
    Except Fault Outcome :=
  match request with
  | .validate request => request.run settings folder
  | .visualize request => request.run settings folder
  | .list document => Listing.run folder document

/-- Runs a request in an environment. -/
def Request.runIn (request : Request) (environment : Environment) (folder : Folder) :
    Except Fault Outcome :=
  match Settings.ofEnvironment environment with
  | .error errors =>
    .ok (Outcome.refused "Invalid configuration" (SettingError.report errors))
  | .ok settings => request.run settings folder

/-- The paths of the files that a request names. -/
def Request.paths (request : Request) : List String :=
  match request with
  | .validate request => request.document :: request.extra.map (·.path)
  | .visualize request => [request.document]
  | .list document => [document]

/-- The paths of the sources of the document of a request, as far as it can be loaded. -/
def Request.sourcePaths (request : Request) (folder : Folder) : List String :=
  match request.paths with
  | [] => []
  | path :: _ =>
    match Document.load folder path with
    | .error _ => []
    | .ok document =>
      let base := Source.baseOf folder.directory path
      (document.sources.filter fun source => !source.isSkipped && !source.isRemote).map
        fun source => Source.pathOf base source.url

end FlowCheck.Command
