/-!
# Paths of files

Paths are texts with slashes between their parts. One that starts with a slash is absolute.
-/

namespace FlowCheck.Path

/-- The path does not depend on a directory. -/
def isAbsolute (path : String) : Bool :=
  path.toList.head? == some '/'

/-- The parts of a path between its slashes. -/
def parts (path : String) : List String :=
  (path.toList.splitOn '/').map String.ofList

/-- A path inside a directory; an absolute path stays as it is. -/
def join (directory path : String) : String :=
  if isAbsolute path then path
  else if directory.isEmpty || directory.toList.getLast? == some '/' then directory ++ path
  else directory ++ "/" ++ path

/-- The slashes at the start of a normal path: two are kept, more count as one. -/
def root (path : String) : String :=
  match path.toList with
  | '/' :: '/' :: '/' :: _ => "/"
  | '/' :: '/' :: _ => "//"
  | '/' :: _ => "/"
  | _ => ""

/-- Adds a part to those of a normal path, the last one first. A step up takes back the last part;
at the start of an absolute path it is dropped. -/
def addPart (absolute : Bool) (kept : List String) (part : String) : List String :=
  if part = "" || part = "." then kept
  else if part = ".." then
    match kept with
    | last :: rest => if last = ".." then ".." :: kept else rest
    | [] => if absolute then [] else [".."]
  else part :: kept

/-- The normal form of a path: no empty part, no part that stays where it is, and steps up only
at the start of a relative path. -/
def normalize (path : String) : String :=
  let kept := (parts path).foldl (addPart (isAbsolute path)) []
  let text := root path ++ String.intercalate "/" kept.reverse
  if text.isEmpty then "." else text

/-- The directory part of a path. -/
def parent (path : String) : String :=
  let head := (path.toList.reverse.dropWhile (· ≠ '/')).reverse
  if head.all (· == '/') then String.ofList head
  else String.ofList (head.reverse.dropWhile (· == '/')).reverse

/-- The normal absolute path of a path that is relative to a directory. -/
def absolute (directory path : String) : String :=
  normalize (join directory path)

end FlowCheck.Path
