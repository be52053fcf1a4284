import FlowCheck.Api.Reader
import FlowCheck.Text.Blank

/-!
# Catalogs of API descriptions

A catalog holds API descriptions under source names, in the order in which the names were added.
A lookup searches the sources in that order and takes the first hit. An operation id may name its
source; then only that source is searched.
-/

namespace FlowCheck

/-- The start of an operation id that names its source. -/
def sourceStart : String := "$sourceDescriptions."

/-- Splits an operation id that names its source into source and bare id. Other ids have no
source. -/
def splitId (id : String) : Option String × String :=
  match sourceStart.toList.isPrefixOf? id.toList with
  | none => (none, id)
  | some rest =>
    let source := rest.takeWhile (· ≠ '.')
    let bare := (rest.dropWhile (· ≠ '.')).drop 1
    if source.isEmpty || bare.isEmpty then (none, id)
    else (some (String.ofList source), String.ofList bare)

/-- Splits an operation path into its method, in upper case, and the path after the first blank.
There is none unless both are there. -/
def splitPath? (text : String) : Option (String × String) :=
  let trimmed := Text.trim text.toList
  let method := trimmed.takeWhile (· ≠ ' ')
  let path := Text.trim (trimmed.dropWhile (· ≠ ' '))
  if method.isEmpty || path.isEmpty then none
  else some (Text.upper (String.ofList method), String.ofList path)

/-- API descriptions under source names. -/
structure Catalog where
  /-- The sources in the order of their first addition, each name once. -/
  sources : List (String × Api)
deriving Inhabited

/-- An endpoint with the source that declares it. -/
structure Hit where
  /-- The name of the source. -/
  source : String
  /-- The endpoint. -/
  endpoint : Endpoint
deriving Inhabited

namespace Catalog

/-- The catalog without sources. -/
def empty : Catalog := ⟨[]⟩

/-- Adds a source. A name that is there keeps its place and takes the new description. -/
def add (catalog : Catalog) (name : String) (api : Api) : Catalog :=
  ⟨Keyed.put name api catalog.sources⟩

/-- The description under a name. -/
def api? (catalog : Catalog) (name : String) : Option Api :=
  catalog.sources.lookup name

/-- The source names. -/
def names (catalog : Catalog) : List String :=
  catalog.sources.map Prod.fst

/-- The sources to search: all of them, or the one with a name. -/
def searched (catalog : Catalog) (source : Option String) : List (String × Api) :=
  catalog.sources.filter fun entry => source.all (entry.1 == ·)

/-- The first operation with a bare id, in all sources or in one. -/
def byBareId? (catalog : Catalog) (id : String) (source : Option String) : Option Hit :=
  (catalog.searched source).findSome? fun entry =>
    (entry.2.byId? id Method.all).map fun endpoint => ⟨entry.1, endpoint⟩

/-- The first operation with an id. Where no source is asked for, the id may name one. -/
def byId? (catalog : Catalog) (id : String) (source : Option String) : Option Hit :=
  match source with
  | some _ => catalog.byBareId? id source
  | none => catalog.byBareId? (splitId id).2 (splitId id).1

/-- The first operation under a path with a method, given by its name in any case. -/
def byPath? (catalog : Catalog) (path method : String) : Option Hit :=
  (Method.ofText? method).bind fun method =>
    catalog.sources.findSome? fun entry =>
      (entry.2.operation? path method).map fun operation => ⟨entry.1, ⟨path, method, operation⟩⟩

/-- The operation ids of all sources or of one. -/
def operationIds (catalog : Catalog) (source : Option String) : List Value :=
  (catalog.searched source).flatMap fun entry => entry.2.operationIds

/-- All operations as method, blank and path. -/
def operationPaths (catalog : Catalog) : List String :=
  catalog.sources.flatMap fun entry =>
    (entry.2.endpoints Method.all).map fun endpoint => endpoint.method.name ++ " " ++ endpoint.path

end Catalog

end FlowCheck
