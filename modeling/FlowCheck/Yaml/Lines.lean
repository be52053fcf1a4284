import FlowCheck.Keyed
import FlowCheck.Yaml.Node.Value

/-!
# Lines of a YAML document

The line of every key and item, under the path that leads there. A path joins keys with points and
numbers items between brackets. Lines are counted from 1.
-/

namespace FlowCheck.Yaml

/-- Lines by path. A repeated path keeps its first place and takes the last line. -/
abbrev LineMap := List (String × Nat)

namespace Node

/-- A kind of node with its tag and content. -/
def labelled (kind tag content : String) : String :=
  kind ++ "(tag=" ++ Text.quoted tag ++ ", value=" ++ content ++ ")"

mutual

/-- A node as it shows inside the path of a key that is a collection. -/
def display : Node → Except Fault String
  | .scalar tag text _ => .ok (labelled "ScalarNode" tag (Text.quoted text))
  | .sequence tag items _ => do
    let items ← displayItems items
    return labelled "SequenceNode" tag ("[" ++ String.intercalate ", " items ++ "]")
  | .mapping tag entries _ => do
    let entries ← displayEntries entries
    return labelled "MappingNode" tag ("[" ++ String.intercalate ", " entries ++ "]")
  | .within _ => .error .endless
termination_by structural node => node

/-- The items of a list, each as it shows. -/
def displayItems : List Node → Except Fault (List String)
  | [] => .ok []
  | item :: rest => do
    let first ← item.display
    let others ← displayItems rest
    return first :: others
termination_by structural items => items

/-- The entries of a mapping, each as a pair. -/
def displayEntries : List (Node × Node) → Except Fault (List String)
  | [] => .ok []
  | (key, value) :: rest => do
    let key ← key.display
    let value ← value.display
    let others ← displayEntries rest
    return ("(" ++ key ++ ", " ++ value ++ ")") :: others
termination_by structural entries => entries

end

/-- A key as a part of a path: a scalar by its text, a collection by its content. -/
def pathPart : Node → Except Fault String
  | .scalar _ text _ => .ok text
  | .sequence _ items _ => do
    let items ← displayItems items
    return "[" ++ String.intercalate ", " items ++ "]"
  | .mapping _ entries _ => do
    let entries ← displayEntries entries
    return "[" ++ String.intercalate ", " entries ++ "]"
  | .within _ => .error .endless

/-- The path of a key under the path of its mapping. -/
def keyPath (path key : String) : String :=
  if path.isEmpty then key else path ++ "." ++ key

mutual

/-- The lines of everything inside a node, as often as it stands there. -/
def lines (path : String) : Node → Except Fault LineMap
  | .scalar .. => .ok []
  | .sequence _ items _ => itemLines path 0 items
  | .mapping _ entries _ => entryLines path entries
  | .within _ => .error .endless
termination_by structural node => node

/-- The lines of items from a number on. -/
def itemLines (path : String) (index : Nat) : List Node → Except Fault LineMap
  | [] => .ok []
  | item :: rest => do
    let here := s!"{path}[{index}]"
    let inside ← item.lines here
    let others ← itemLines path (index + 1) rest
    return (here, item.line + 1) :: inside ++ others
termination_by structural items => items

/-- The lines of entries. -/
def entryLines (path : String) : List (Node × Node) → Except Fault LineMap
  | [] => .ok []
  | (key, value) :: rest => do
    let part ← key.pathPart
    let here := keyPath path part
    let inside ← value.lines here
    let others ← entryLines path rest
    return (here, key.line + 1) :: inside ++ others
termination_by structural entries => entries

end

end Node

namespace LineMap

/-- The lines of a text by path. A text that is not YAML has none. -/
def ofText (text : String) : Except Fault LineMap :=
  match Node.ofText? text.toList with
  | .error .malformed => .ok []
  | .error (.fault fault) => .error fault
  | .ok none => .ok []
  | .ok (some root) => do
    let found ← root.lines ""
    return found.foldl (fun all entry => Keyed.put entry.1 entry.2 all) []

/-- The line of the first of some paths that has one. -/
def line? (lines : LineMap) (paths : List String) : Option Nat :=
  paths.findSome? fun path => List.lookup path lines

end LineMap

end FlowCheck.Yaml
