import FlowCheck.LoadError
import FlowCheck.Path
import FlowCheck.Text.Lines

/-!
# Folders of text files

The files that can be read and written: a working directory, and the texts of the files that are
known. A path is followed part by part, and every part but the last has to lead to a directory.
-/

namespace FlowCheck

/-- A working directory, and files. -/
structure Folder where
  /-- The absolute path of the working directory. -/
  directory : String
  /-- The texts of the files, by their absolute paths. -/
  files : List (String × String)
deriving Inhabited

/-- What a path leads to. -/
inductive Folder.Entry where
  /-- Nothing. -/
  | absent
  /-- A directory. -/
  | directory
  /-- A file with its text. -/
  | file (text : String)
deriving DecidableEq, Inhabited

namespace Folder

/-- The place that an absolute path names: its parts. -/
def placeOf (path : String) : List String :=
  (Path.parts path).filter (· != "")

/-- The place of the working directory. -/
def here (folder : Folder) : List String :=
  placeOf folder.directory

/-- What stands at a place. The working directory and the directories of files are there. -/
def entry (folder : Folder) (place : List String) : Entry :=
  match folder.files.find? fun file => placeOf file.1 == place with
  | some file => .file file.2
  | none =>
    if place.isPrefixOf folder.here ||
        folder.files.any fun file => place.isPrefixOf (placeOf file.1) then .directory
    else .absent

/-- The place that one part of a path leads to from a directory. -/
def step (folder : Folder) (place : List String) (part : String) : Except Entry (List String) :=
  let found := folder.entry place
  if found ≠ .directory then .error found
  else if part = "" || part = "." then .ok place
  else if part = ".." then .ok place.dropLast
  else .ok (place ++ [part])

/-- The place that a path leads to, or what stands in its way. -/
def place (folder : Folder) (path : String) : Except Entry (List String) :=
  let start := if Path.isAbsolute path then [] else folder.here
  (Path.parts path).foldlM folder.step start

/-- What a path leads to. -/
def find (folder : Folder) (path : String) : Entry :=
  if path.isEmpty then .absent
  else
    match folder.place path with
    | .ok place => folder.entry place
    | .error _ => .absent

/-- The text of a file, with line feeds for all line ends. -/
def read (folder : Folder) (path : String) : Except LoadError String :=
  match folder.find path with
  | .absent => .error (.absent path)
  | .directory => .error (.fault .isDirectory)
  | .file text => .ok (String.ofList (Text.unixLines text.toList))

/-- Puts a text into a file, whatever was in it before. -/
def put (folder : Folder) (place : List String) (text : String) : Folder :=
  { folder with
    files := folder.files.filter (placeOf ·.1 != place) ++
      [("/" ++ String.intercalate "/" place, text)] }

/-- Writes a file. Its directory has to be there already. -/
def write (folder : Folder) (path text : String) : Except Fault Folder :=
  match folder.place path with
  | .error (.file _) => .error .notDirectory
  | .error _ => .error (.noDirectory path)
  | .ok place =>
    match folder.entry place with
    | .directory => .error .isDirectory
    | _ => .ok (folder.put place text)

end Folder

end FlowCheck
