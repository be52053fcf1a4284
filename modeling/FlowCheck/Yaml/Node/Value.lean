import FlowCheck.Yaml.Node.Reader

/-!
# From nodes to values

The tags say what the nodes become. Before that, the entries under merge keys move into their
mapping. They come first, so that the mapping's own entries win, and of several merged mappings
the earlier one wins.

A document can have several nodes that cannot be what their tags say. The one that is reported is
the first of those that are nested least: a collection is filled only after everything on its own
level has been looked at.

A collection that holds an alias of itself has no finite value, and the reading of a value stops at
the alias. Lists of pairs are lists of lists of two.
-/

namespace FlowCheck.Yaml.Node

/-- An entry under a merge key. -/
def isMerge (entry : Node × Node) : Bool :=
  entry.1.tag == Tag.merge

/-- The mappings with these tags take in what they merge. -/
def takesMerges (tag : String) : Bool :=
  tag == Tag.map || tag == Tag.set

/-- The lists with these tags are lists of pairs. -/
def holdsPairs (tag : String) : Bool :=
  tag == Tag.omap || tag == Tag.pairs

/-- The node with another tag. -/
def withTag (tag : String) : Node → Node
  | .scalar _ text line => .scalar tag text line
  | .sequence _ items line => .sequence tag items line
  | .mapping _ entries line => .mapping tag entries line
  | .within line => .within line

/-- A key that stands for its mapping is a text where it is an ordinary key. -/
def plainKey (entry : Node × Node) : Node × Node :=
  (if entry.1.tag == Tag.value then entry.1.withTag Tag.str else entry.1, entry.2)

/-- The entries with those under merge keys in front. -/
def mergesFirst (entries : List (Node × Node)) : List (Node × Node) :=
  entries.filter isMerge ++ entries.filter fun entry => !isMerge entry

mutual

/-- A node in which all merge keys are resolved. A merge key whose value has no entries stays, in
front of its mapping. -/
def merged : Node → Node
  | .scalar tag text line => .scalar tag text line
  | .sequence tag items line =>
    .sequence tag (if holdsPairs tag then mergedPairs items else mergedItems items) line
  | .mapping tag entries line =>
    let entries :=
      if takesMerges tag then mergesFirst (broughtEntries entries ++ ownEntries entries)
      else mergedEntries entries
    .mapping tag entries line
  | .within line => .within line
termination_by structural node => node

/-- The items of a list with all merge keys resolved. -/
def mergedItems : List Node → List Node
  | [] => []
  | item :: rest => item.merged :: mergedItems rest
termination_by structural items => items

/-- The items of a list of pairs with the merge keys inside of the pairs resolved. -/
def mergedPairs : List Node → List Node
  | [] => []
  | .mapping tag entries line :: rest =>
    .mapping tag (mergedEntries entries) line :: mergedPairs rest
  | item :: rest => item :: mergedPairs rest
termination_by structural items => items

/-- The entries of a mapping with all merge keys inside of them resolved. -/
def mergedEntries : List (Node × Node) → List (Node × Node)
  | [] => []
  | (key, value) :: rest => (key.merged, value.merged) :: mergedEntries rest
termination_by structural entries => entries

/-- The entries of a mapping that are not under merge keys, with all merge keys inside of them
resolved. -/
def ownEntries : List (Node × Node) → List (Node × Node)
  | [] => []
  | (key, value) :: rest =>
    if key.tag == Tag.merge then ownEntries rest
    else plainKey (key.merged, value.merged) :: ownEntries rest
termination_by structural entries => entries

/-- The entries that the merge keys of a mapping bring in. -/
def broughtEntries : List (Node × Node) → List (Node × Node)
  | [] => []
  | (key, value) :: rest =>
    if key.tag == Tag.merge then broughtBy key value ++ broughtEntries rest
    else broughtEntries rest
termination_by structural entries => entries

/-- The entries that a merge key with a value brings in: those of a mapping, whatever its tag, or of
the mappings in a list, the last one first. The merge key stays where there are none. -/
def broughtBy (key : Node) : Node → List (Node × Node)
  | .mapping _ entries _ => broughtEntries entries ++ ownEntries entries
  | .sequence _ items _ => broughtByAll key items
  | value => [(key, value)]
termination_by structural value => value

/-- The entries that a merge key brings in from the mappings in a list. -/
def broughtByAll (key : Node) : List Node → List (Node × Node)
  | [] => []
  | .mapping _ entries _ :: rest =>
    broughtByAll key rest ++ (broughtEntries entries ++ ownEntries entries)
  | item :: rest => broughtByAll key rest ++ [(key, item)]
termination_by structural items => items

end

mutual

/-- The text of a node with a scalar's tag: its own, or that of the value under the key that
stands for a mapping. -/
def scalarText? : Node → Option String
  | .scalar _ text _ => some text
  | .mapping _ entries _ => standInText? entries
  | _ => none
termination_by structural node => node

/-- The text under the key that stands for a mapping. -/
def standInText? : List (Node × Node) → Option String
  | [] => none
  | (key, value) :: rest =>
    if key.tag == Tag.value then value.scalarText? else standInText? rest
termination_by structural entries => entries

end

/-- What a node with a tag becomes. -/
inductive Shape where
  /-- A scalar. -/
  | scalar
  /-- A list. -/
  | list
  /-- A mapping. -/
  | map
  /-- A set: the keys of a mapping. -/
  | set
  /-- A list of pairs. -/
  | pairs
deriving DecidableEq

/-- The shape for a tag, if the tag is known. -/
def shape? (tag : String) : Option Shape :=
  if tag == Tag.seq then some .list
  else if tag == Tag.map then some .map
  else if tag == Tag.set then some .set
  else if holdsPairs tag then some .pairs
  else if (Schema.scalarValue? tag "").isSome then some .scalar
  else none

/-- A mapping stands in place of a timestamp. No other value than a scalar's own text is read as
one. -/
def isTimestampMapping : Node → Bool
  | .mapping tag _ _ => tag == Tag.standard "timestamp"
  | _ => false

/-- The value of a node with a scalar's tag. -/
def scalarValue (node : Node) : Except ReadError Value :=
  match node.scalarText? with
  | none => .error .malformed
  | some text =>
    if node.isTimestampMapping then .error (.fault .timestampNotText)
    else (Schema.scalarValue? node.tag text).getD (.error .malformed)

/-- The value can be a key. -/
def isKey : Value → Bool
  | .list _ => false
  | .map _ => false
  | .set _ => false
  | _ => true

mutual

/-- The value of a node whose tags all fit. -/
def value : Node → Value
  | .sequence tag items line =>
    match shape? tag with
    | some .pairs => .list (pairValues items)
    | some .scalar => ((Node.sequence tag items line).scalarValue.toOption).getD .null
    | _ => .list (itemValues items)
  | .mapping tag entries line =>
    match shape? tag with
    | some .scalar => ((Node.mapping tag entries line).scalarValue.toOption).getD .null
    | some .set => .set ((Entries.ofPairs (entryValues entries)).map Prod.fst)
    | _ => .map (Entries.ofPairs (entryValues entries))
  | node => (node.scalarValue.toOption).getD .null
termination_by structural node => node

/-- The values of the items of a list. -/
def itemValues : List Node → List Value
  | [] => []
  | item :: rest => item.value :: itemValues rest
termination_by structural items => items

/-- The keys and values of a mapping, as often as they stand there. -/
def entryValues : List (Node × Node) → List (Value × Value)
  | [] => []
  | (key, value) :: rest => (key.value, value.value) :: entryValues rest
termination_by structural entries => entries

/-- The pairs that the items of a list are. -/
def pairValues : List Node → List Value
  | [] => []
  | .mapping _ entries _ :: rest =>
    ((entryValues entries).map fun entry => Value.list [entry.1, entry.2]) ++ pairValues rest
  | _ :: rest => pairValues rest
termination_by structural items => items

end

/-- A node that cannot be what its tag says. -/
structure Issue where
  /-- The depth at which the error is found. -/
  depth : Nat
  /-- The node. -/
  node : Node
  /-- The error. -/
  error : ReadError
deriving Inhabited

/-- The issue of a scalar, if it has one. -/
def scalarIssue (depth : Nat) (node : Node) : List Issue :=
  match node.scalarValue with
  | .ok _ => []
  | .error e => [⟨depth, node, e⟩]

/-- The issue of a key that cannot be one. -/
def keyIssue (depth : Nat) (key : Node) : List Issue :=
  if isKey key.value then [] else [⟨depth, key, .malformed⟩]

mutual

/-- The issues of a node at a depth, in the order of the document. -/
def issues (depth : Nat) : Node → List Issue
  | .scalar tag text line =>
    match shape? tag with
    | some .scalar => scalarIssue depth (.scalar tag text line)
    | some _ => [⟨depth + 1, .scalar tag text line, .malformed⟩]
    | none => [⟨depth, .scalar tag text line, .malformed⟩]
  | .sequence tag items line =>
    match shape? tag with
    | some .list => itemIssues (depth + 1) items
    | some .pairs => pairIssues (depth + 1) (.sequence tag items line) items
    | some .scalar => scalarIssue depth (.sequence tag items line)
    | some _ => [⟨depth + 1, .sequence tag items line, .malformed⟩]
    | none => [⟨depth, .sequence tag items line, .malformed⟩]
  | .mapping tag entries line =>
    match shape? tag with
    | some .map => entryIssues (depth + 1) entries
    | some .set => entryIssues (depth + 1) entries
    | some .scalar => scalarIssue depth (.mapping tag entries line)
    | some _ => [⟨depth + 1, .mapping tag entries line, .malformed⟩]
    | none => [⟨depth, .mapping tag entries line, .malformed⟩]
  | .within line => [⟨depth, .within line, .fault .endless⟩]
termination_by structural node => node

/-- The issues of the items of a list. -/
def itemIssues (depth : Nat) : List Node → List Issue
  | [] => []
  | item :: rest => item.issues depth ++ itemIssues depth rest
termination_by structural items => items

/-- The issues of the entries of a mapping. -/
def entryIssues (depth : Nat) : List (Node × Node) → List Issue
  | [] => []
  | (key, value) :: rest =>
    key.issues depth ++ keyIssue depth key ++ value.issues depth ++ entryIssues depth rest
termination_by structural entries => entries

/-- The issues of the items of a list of pairs: each item has to be a mapping with one entry. -/
def pairIssues (depth : Nat) (list : Node) : List Node → List Issue
  | [] => []
  | .mapping _ [(key, value)] _ :: rest =>
    key.issues depth ++ value.issues depth ++ pairIssues depth list rest
  | _ :: rest => ⟨depth, list, .malformed⟩ :: pairIssues depth list rest
termination_by structural items => items

end

/-- The first of the issues that are nested least. -/
def firstIssue? (all : List Issue) : Option Issue :=
  all.foldl
    (fun best issue =>
      match best with
      | none => some issue
      | some first => if issue.depth < first.depth then some issue else some first)
    none

/-- The value of a node. -/
def toValue (node : Node) : Except ReadError Value :=
  let node := node.merged
  match firstIssue? (node.issues 0) with
  | some issue => .error issue.error
  | none => .ok node.value

end FlowCheck.Yaml.Node

namespace FlowCheck.Yaml

/-- The value of the root of a document, if there is one; without a document it is null. -/
def rootValue : Option Node → Except ReadError Value
  | none => .ok .null
  | some root => root.toValue

/-- The value of the document that a text holds. -/
def load (text : String) : Except ReadError Value :=
  Node.ofText? text.toList >>= rootValue

/-- The value of the document that a file with a text holds. -/
def loadFile (text : String) : Except ReadError Value :=
  Node.ofFile? text.toList >>= rootValue

end FlowCheck.Yaml
