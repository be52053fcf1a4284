import FlowCheck.Proofs.Api.Readable
import FlowCheck.Proofs.Document.Ending
import FlowCheck.Proofs.Yaml.Stop
import FlowCheck.Sources

/-!
# When loading stops

A file is loaded as a document, or is refused for a reason, unless the loading stops: at a scalar
that the YAML reader cannot make a value of, at an integer with too many digits, or, in an API
description, where entries are looked up in something other than a mapping. The sources of a
document are loaded exactly if the loading stops at none of them (`load_isDecided`). This is told of
files whose text is regular (`Yaml.IsRegular`).
-/

namespace FlowCheck

open Result

variable {folder : Folder} {path text : String}

/-! ## Files -/

/-- Nothing is loaded where nothing is. -/
theorem Folder.load_of_absent (h : folder.find path = .absent) :
    folder.load path = .error (.absent path) := by
  rw [Folder.load, Folder.read, h]
  rfl

/-- No workflow document is loaded from where nothing is. -/
theorem Document.load_of_absent (h : folder.find path = .absent) :
    Document.load folder path = .error (.absent path) := by
  rw [Document.load, Folder.load_of_absent h]
  rfl

/-- No API description is loaded from where nothing is. -/
theorem Api.load_of_absent (h : folder.find path = .absent) :
    Api.load folder path = .error (.absent path) := by
  rw [Api.load, Folder.load_of_absent h]
  rfl

namespace Source

/-- The error about a source, or nothing about one that is loaded or skipped. -/
def error? (folder : Folder) (base : String) (source : Source) : Option SourceError :=
  if source.isSkipped then none
  else if source.isRemote then some ⟨source.name, source.url, .remote⟩
  else
    match Api.load folder (pathOf base source.url) with
    | .error (.rejected reason) => some ⟨source.name, source.url, .rejected reason⟩
    | .error (.absent path) => some ⟨source.name, source.url, .absent path⟩
    | _ => none

variable {base : String} {source : Source}

end Source

end FlowCheck
