import FlowCheck.Api
import FlowCheck.Keyed
import FlowCheck.LoadError
import FlowCheck.Value.Display

/-!
# Reading API descriptions

`Api.ofValue` takes the operations and their parameters out of a document. Entries that are not
what the format asks for are skipped; a parameter may refer to a reusable one of the same
document. `Api.accept` adds the conditions on the version and on the number of paths.
-/

namespace FlowCheck

namespace Api

/-- The start of a reference to a reusable parameter. -/
def reusableStart : String := "#/components/parameters/"

/-- The versions of the format that are understood, by their beginnings. -/
def supported : List String := ["3.0", "3.1"]

/-- The text starts with another text. -/
def startsWith (text start : String) : Bool :=
  start.toList.isPrefixOf text.toList

/-- The entries of a value that is given; what is not given counts as an empty mapping. -/
def givenEntries (value : Value) : Except Fault Entries :=
  if value.isGiven then
    match value with
    | .map entries => .ok entries
    | _ => .error .notMapping
  else .ok []

/-- The mapping that describes a parameter: the entry itself, or the reusable parameter that it
refers to. Other entries describe none. -/
def parameterEntries (raw components : Value) : Except Fault (Option Entries) :=
  match raw with
  | .map entries =>
    match Entries.get entries "$ref" with
    | .null => .ok (some entries)
    | .str reference =>
      match reusableStart.toList.isPrefixOf? reference.toList with
      | none => .ok none
      | some name => do
        let all ← givenEntries components
        let parameters ← givenEntries (Entries.get all "parameters")
        match Entries.get parameters (String.ofList name) with
        | .map target => return some target
        | _ => return none
    | _ => .ok none
  | _ => .ok none

/-- The parameter that an entry of a parameter list declares, if it declares one. -/
def parameter? (raw components : Value) : Except Fault (Option ApiParameter) := do
  match ← parameterEntries raw components with
  | none => return none
  | some entries =>
    match Entries.find? entries "name", Entries.find? entries "in" with
    | some name, some location =>
      let name ← name.text
      let location ← location.text
      let required :=
        match Entries.get entries "required" with
        | .bool b => b
        | _ => false
      return some ⟨name, location, required, Entries.get entries "description"⟩
    | _, _ => return none

/-- The parameters that a parameter list declares. -/
def parameters (raw components : Value) : Except Fault (List ApiParameter) :=
  match raw with
  | .list items => do
    let found ← items.mapM fun item => parameter? item components
    return found.filterMap id
  | _ => .ok []

/-- The operation's own parameters, then the shared ones that none of them overrides. -/
def mergeParameters (own shared : List ApiParameter) : List ApiParameter :=
  own ++ shared.filter fun parameter => !own.any (·.key == parameter.key)

/-- The operation that a mapping describes. -/
def operation (entries : Entries) (shared : List ApiParameter) (components : Value) :
    Except Fault Operation := do
  let own ← parameters (Entries.get entries "parameters") components
  let responses := Entries.get entries "responses"
  return {
    operationId := Entries.get entries "operationId"
    summary := Entries.get entries "summary"
    description := Entries.get entries "description"
    parameters := mergeParameters own shared
    requestBody := Entries.get entries "requestBody"
    responses := if responses.isGiven then responses else .map [] }

/-- Adds the operation of one entry of a path item, if the entry is one. -/
def addOperation (shared : List ApiParameter) (components : Value)
    (operations : List (Method × Operation)) (entry : Value × Value) :
    Except Fault (List (Method × Operation)) := do
  let name ← entry.1.text
  match Method.ofText? name, entry.2 with
  | some method, .map entries =>
    let found ← operation entries shared components
    return Keyed.put method found operations
  | _, _ => return operations

/-- The path item that a mapping describes. -/
def pathItem (entries : Entries) (components : Value) : Except Fault PathItem := do
  let shared ← parameters (Entries.get entries "parameters") components
  let operations ← entries.foldlM (addOperation shared components) []
  return ⟨operations, shared⟩

/-- Adds the path item of one entry of the paths, if the entry is a mapping. -/
def addPath (components : Value) (paths : List (String × PathItem)) (entry : Value × Value) :
    Except Fault (List (String × PathItem)) :=
  match entry.2 with
  | .map entries => do
    let item ← pathItem entries components
    let path ← entry.1.text
    return Keyed.put path item paths
  | _ => .ok paths

/-- The text of a field, or the empty text where the field is not there. -/
def fieldText (entries : Entries) (field : String) : Except Fault String :=
  match Entries.find? entries field with
  | some value => value.text
  | none => .ok ""

/-- The API description that a value holds. -/
def ofValue (value : Value) : Except LoadError Api :=
  match value with
  | .map entries =>
    match Entries.find? entries "openapi" with
    | none => LoadError.refuse (.missingField "openapi" "OpenAPI document")
    | some version => do
      let info := Entries.get entries "info"
      let rawPaths := Entries.get entries "paths"
      let pathEntries ←
        if rawPaths.isGiven then
          match rawPaths with
          | .map paths => pure paths
          | _ => LoadError.refuse .pathsNotMapping
        else pure []
      let paths ← Fault.stop (pathEntries.foldlM (addPath (Entries.get entries "components")) [])
      let version ← Fault.stop version.text
      let info ← Fault.stop (givenEntries info)
      let title ← Fault.stop (fieldText info "title")
      let release ← Fault.stop (fieldText info "version")
      return ⟨version, title, release, paths⟩
  | other => LoadError.refuse (.notMapping "OpenAPI document" other.kind)

/-- The conditions that an API description has to meet: a version that is understood and at
least one path. -/
def accept (api : Api) : Except LoadError Api :=
  if !supported.any (startsWith api.version) then
    LoadError.refuse (.unsupportedApiVersion api.version)
  else if api.paths.isEmpty then LoadError.refuse .noPaths
  else .ok api

/-- The accepted API description that a value holds. -/
def read (value : Value) : Except LoadError Api :=
  ofValue value >>= accept

end Api

end FlowCheck
