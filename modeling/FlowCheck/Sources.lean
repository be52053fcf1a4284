import FlowCheck.Catalog
import FlowCheck.Loading

/-!
# Loading the sources of a document

The API descriptions that a document names are loaded into a catalog one after the other. A source
of another type is skipped, and one that cannot be loaded leaves an error and the catalog as it
was.
-/

namespace FlowCheck

/-- Why a source is not in the catalog. -/
inductive SourceFailure where
  /-- The source is not a file. -/
  | remote
  /-- The file is not there. -/
  | absent (path : String)
  /-- The file holds no API description that is accepted. -/
  | rejected (reason : Rejection)
deriving DecidableEq, Inhabited

/-- The message for a failure. -/
def SourceFailure.message : SourceFailure → String
  | .remote => "remote URLs are not supported"
  | .absent path => (LoadError.absent path).message
  | .rejected reason => reason.message

/-- A source that could not be loaded. -/
structure SourceError where
  /-- The name of the source. -/
  source : String
  /-- Where the description should have been. -/
  url : String
  /-- What went wrong. -/
  failure : SourceFailure
deriving DecidableEq, Inhabited

/-- An error in one line. -/
def SourceError.text (error : SourceError) : String :=
  s!"source '{error.source}' ({error.url}): {error.failure.message}"

/-- What loading sources leads to. -/
structure SourceResult where
  /-- The catalog with the sources that were loaded. -/
  catalog : Catalog
  /-- The errors in the order of the sources. -/
  errors : List SourceError
deriving Inhabited

/-- No source failed. -/
def SourceResult.isOk (result : SourceResult) : Bool :=
  result.errors.isEmpty

namespace Source

/-- The type of the sources that are loaded. -/
def apiType : String := "openapi"

/-- The start of an address that is a path. -/
def fileStart : String := "file://"

/-- The starts of addresses of other machines. -/
def remoteStarts : List String := ["http://", "https://"]

/-- The source has a type of its own that is not loaded. -/
def isSkipped (source : Source) : Bool :=
  source.type.isGiven && !source.type.isStr apiType

/-- The source is on another machine. -/
def isRemote (source : Source) : Bool :=
  remoteStarts.any fun start => start.toList.isPrefixOf source.url.toList

/-- The directory from which addresses count: that of the document, or the working directory. -/
def baseOf (directory : String) (document : String) : String :=
  if document.isEmpty then directory else Path.parent (Path.absolute directory document)

/-- The path for an address. -/
def pathOf (base url : String) : String :=
  let url :=
    match fileStart.toList.isPrefixOf? url.toList with
    | some rest => String.ofList rest
    | none => url
  if Path.isAbsolute url then url else Path.absolute base url

/-- Loads a source into the catalog. -/
def load (folder : Folder) (base : String) (result : SourceResult) (source : Source) :
    Except Fault SourceResult :=
  let fail (failure : SourceFailure) : SourceResult :=
    { result with errors := result.errors ++ [⟨source.name, source.url, failure⟩] }
  if source.isSkipped then .ok result
  else if source.isRemote then .ok (fail .remote)
  else
    match Api.load folder (pathOf base source.url) with
    | .ok api => .ok { result with catalog := result.catalog.add source.name api }
    | .error (.rejected reason) => .ok (fail (.rejected reason))
    | .error (.absent path) => .ok (fail (.absent path))
    | .error (.fault fault) => .error fault

end Source

/-- Loads sources into a catalog. `document` is the path of the document that names them. -/
def loadSources (folder : Folder) (document : String) (sources : List Source)
    (catalog : Catalog) : Except Fault SourceResult :=
  let base := Source.baseOf folder.directory document
  sources.foldlM (Source.load folder base) ⟨catalog, []⟩

end FlowCheck
