import FlowCheck.Api.Reader
import FlowCheck.Document.Rules
import FlowCheck.Document.Writer
import FlowCheck.Folder
import FlowCheck.Yaml.Node.Value
import FlowCheck.Yaml.Printer

/-!
# Documents in files

A file is read as YAML, and the value in it as a workflow document or as an API description. A
workflow document can be written back.
-/

namespace FlowCheck

/-- The value that the text of a file holds; `path` is named when the text is not YAML. -/
def readYaml (path text : String) : Except LoadError Value :=
  match Yaml.loadFile text with
  | .ok value => .ok value
  | .error .malformed => LoadError.refuse (.notYaml path)
  | .error (.fault fault) => .error (.fault fault)

/-- The value in the file at a path. -/
def Folder.load (folder : Folder) (path : String) : Except LoadError Value :=
  folder.read path >>= readYaml path

/-- The workflow document in the file at a path. -/
def Document.load (folder : Folder) (path : String) : Except LoadError Document :=
  folder.load path >>= Document.read

/-- A workflow document as YAML text. -/
def Document.dump (document : Document) : Except Fault String :=
  Yaml.dump document.toValue

/-- Writes a workflow document to a file. -/
def Document.save (document : Document) (folder : Folder) (path : String) :
    Except Fault Folder := do
  let text ← document.dump
  folder.write path text

/-- The API description in the file at a path. -/
def Api.load (folder : Folder) (path : String) : Except LoadError Api :=
  folder.load path >>= Api.read

end FlowCheck
