import FlowCheck.Yaml.Node
import FlowCheck.Yaml.Token.Lexer

/-!
# From tokens to nodes

A text holds at most one document. Block collections end where their indentation does, collections
in brackets at their closing bracket. Anchors name nodes, each name once in a document, and an
alias stands for the node that was named before it. The node is then part of the tree at each of its
places.
-/

namespace FlowCheck.Yaml

/-- The state of reading nodes. -/
structure NodeReader where
  /-- The tokens that are left. -/
  tokens : List Placed
  /-- The error behind the last token, if the text ends with one. -/
  ending : Option ReadError
  /-- The meanings of the tag handles. -/
  handles : List (String × String)
  /-- The nodes by anchor. -/
  anchors : List (String × Node)
deriving Inhabited

namespace NodeReader

/-- A step of reading nodes. -/
abbrev Read := StateT NodeReader (Except ReadError)

/-- Reading ends because the text is not YAML. -/
def refuse {α : Type} : Read α :=
  throw .malformed

/-- The next token. -/
def peek : Read Placed := do
  let reader ← get
  match reader.tokens with
  | token :: _ => return token
  | [] => throw (reader.ending.getD .malformed)

/-- Takes the next token. -/
def skip : Read Unit :=
  modify fun reader => { reader with tokens := reader.tokens.tail }

/-- Takes the next token if it is the given one. -/
def accept (token : Token) : Read Bool := do
  let next ← peek
  if next.token == token then
    skip
    return true
  else return false

/-- Takes the next token, which has to be the given one. -/
def expect (token : Token) : Read Unit := do
  if !(← accept token) then refuse

/-- The handles that need no directive. -/
def standardHandles : List (String × String) :=
  [("!", "!"), ("!!", Tag.standard "")]

/-- What stands in front of a node. -/
structure Properties where
  /-- The anchor. -/
  anchor : Option String := none
  /-- The tag. -/
  tag : Option String := none
  /-- The line of the first of them. -/
  line : Option Nat := none

/-- The tag that a handle and a rest make up. -/
def fullTag (handle : Option String) (rest : String) : Read String := do
  match handle with
  | none => return rest
  | some handle =>
    match (← get).handles.lookup handle with
    | some meaning => return meaning ++ rest
    | none => refuse

/-- A tag as it is written: a handle, if there is one, and the rest. -/
abbrev WrittenTag := Option String × String

/-- Takes an anchor, if there is one. -/
def anchor? : Read (Option (String × Nat)) := do
  let next ← peek
  match next.token with
  | .anchor name =>
    skip
    return some (name, next.line)
  | _ => return none

/-- Takes a tag, if there is one. -/
def tag? : Read (Option (WrittenTag × Nat)) := do
  let next ← peek
  match next.token with
  | .tag handle rest =>
    skip
    return some ((handle, rest), next.line)
  | _ => return none

/-- Takes an anchor and a tag in either order. The handle of the tag is looked up after both. -/
def properties : Read Properties := do
  match ← anchor? with
  | some (name, line) =>
    match ← tag? with
    | some ((handle, rest), _) =>
      return { anchor := some name, tag := some (← fullTag handle rest), line := some line }
    | none => return { anchor := some name, line := some line }
  | none =>
    match ← tag? with
    | some ((handle, rest), line) =>
      let anchor ← anchor?
      return {
        anchor := anchor.map Prod.fst
        tag := some (← fullTag handle rest)
        line := some line }
    | none => return {}

/-- Names a node. A name is given once. -/
def name (anchor : Option String) (node : Node) : Read Unit := do
  match anchor with
  | none => pure ()
  | some name =>
    if ((← get).anchors.lookup name).isSome then refuse
    modify fun reader => { reader with anchors := (name, node) :: reader.anchors }

/-- Gives the node of a name that stood for the inside of a collection until now. -/
def complete (anchor : Option String) (node : Node) : Read Unit := do
  match anchor with
  | none => pure ()
  | some name => modify fun reader => { reader with anchors := (name, node) :: reader.anchors }

/-- The node of an alias. -/
def named (name : String) : Read Node := do
  match (← get).anchors.lookup name with
  | some node => return node
  | none => refuse

/-- The tag is left out, or says nothing. -/
def isOpen (tag : Option String) : Bool :=
  tag.all (· == "!")

/-- The tag of a scalar. -/
def scalarTag (tag : Option String) (text : String) (plain : Bool) : String :=
  match tag with
  | some "!" => Schema.plainTag text
  | some tag => tag
  | none => if plain then Schema.plainTag text else Tag.str

/-- Reads a collection with its properties: the inside by `inside`, then the whole by `build`. -/
def collection {α : Type} (properties : Properties) (line : Nat) (inside : Read α)
    (build : α → Node) : Read Node := do
  -- an alias inside of the collection finds that the collection has not ended yet
  name properties.anchor (.within line)
  let content ← inside
  let node := build content
  complete properties.anchor node
  return node

/-- The next token is one of the given ones. -/
def nextIsOneOf (tokens : List Token) : Read Bool := do
  return tokens.contains (← peek).token

mutual

/-- A node. `inBlock` tells whether block collections may stand here, and `unindented` whether the
items of a list may stand here without further indentation. -/
def node : (depth : Nat) → (inBlock unindented : Bool) → Read Node
  | 0, _, _ => refuse
  | depth + 1, inBlock, unindented => do
    match (← peek).token with
    | .alias name =>
      skip
      named name
    | _ =>
      let properties ← properties
      let next ← peek
      let line := properties.line.getD next.line
      let tag := properties.tag
      let list (items : List Node) :=
        Node.sequence (if isOpen tag then Tag.seq else tag.getD "") items line
      let map (entries : List (Node × Node)) :=
        Node.mapping (if isOpen tag then Tag.map else tag.getD "") entries line
      match next.token, inBlock with
      | .scalar text plain, _ =>
        skip
        let node := Node.scalar (scalarTag tag text plain) text line
        name properties.anchor node
        return node
      | .flowSequenceStart, _ =>
        skip
        collection properties line (flowItems depth true) list
      | .flowMappingStart, _ =>
        skip
        collection properties line (flowEntries depth true) map
      | .blockSequenceStart, true =>
        skip
        collection properties line (blockItems depth) list
      | .blockMappingStart, true =>
        skip
        collection properties line (blockEntries depth) map
      | token, _ =>
        if unindented && token == .blockEntry then
          collection properties line (unindentedItems depth) list
        -- an anchor or a tag alone belongs to an empty scalar
        else if properties.line.isSome then
          let node := Node.scalar (scalarTag tag "" true) "" line
          name properties.anchor node
          return node
        else refuse

/-- A node, unless one of the given tokens shows that it is left out. -/
def nodeUnless : (depth : Nat) → (enders : List Token) → (line : Nat) →
    (inBlock unindented : Bool) → Read Node
  | 0, _, _, _, _ => refuse
  | depth + 1, enders, line, inBlock, unindented => do
    if ← nextIsOneOf enders then return Node.missing line
    node depth inBlock unindented

/-- The items of a block list up to its end. -/
def blockItems : (depth : Nat) → Read (List Node)
  | 0 => refuse
  | depth + 1 => do
    let start ← peek
    if ← accept .blockEntry then
      let item ← nodeUnless depth [.blockEntry, .blockEnd] start.line true false
      let others ← blockItems depth
      return item :: others
    else
      expect .blockEnd
      return []

/-- The items of a list without indentation of its own. -/
def unindentedItems : (depth : Nat) → Read (List Node)
  | 0 => refuse
  | depth + 1 => do
    let start ← peek
    if ← accept .blockEntry then
      let item ← nodeUnless depth [.blockEntry, .key, .value, .blockEnd] start.line true false
      let others ← unindentedItems depth
      return item :: others
    else return []

/-- The entries of a block mapping up to its end. -/
def blockEntries : (depth : Nat) → Read (List (Node × Node))
  | 0 => refuse
  | depth + 1 => do
    let start ← peek
    if ← accept .key then
      let key ← nodeUnless depth [.key, .value, .blockEnd] start.line true true
      let middle ← peek
      let value ←
        if ← accept .value then
          nodeUnless depth [.key, .value, .blockEnd] middle.line true true
        else pure (Node.missing middle.line)
      let others ← blockEntries depth
      return (key, value) :: others
    else
      expect .blockEnd
      return []

/-- The value after a key in brackets. -/
def flowValue : (depth : Nat) → (closing : Token) → Read Node
  | 0, _ => refuse
  | depth + 1, closing => do
    let middle ← peek
    if ← accept .value then nodeUnless depth [.flowEntry, closing] middle.line false false
    else return Node.missing middle.line

/-- The items of a list in brackets up to its end. A key starts a mapping of one entry. -/
def flowItems : (depth : Nat) → (first : Bool) → Read (List Node)
  | 0, _ => refuse
  | depth + 1, first => do
    if ← accept .flowSequenceEnd then return []
    if !first then expect .flowEntry
    let start ← peek
    if ← accept .key then
      let key ← nodeUnless depth [.value, .flowEntry, .flowSequenceEnd] start.line false false
      let value ← flowValue depth .flowSequenceEnd
      let others ← flowItems depth false
      return Node.mapping Tag.map [(key, value)] start.line :: others
    -- a comma may come last
    else if ← accept .flowSequenceEnd then return []
    else
      let item ← node depth false false
      let others ← flowItems depth false
      return item :: others

/-- The entries of a mapping in brackets up to its end. -/
def flowEntries : (depth : Nat) → (first : Bool) → Read (List (Node × Node))
  | 0, _ => refuse
  | depth + 1, first => do
    if ← accept .flowMappingEnd then return []
    if !first then expect .flowEntry
    let start ← peek
    if ← accept .key then
      let key ← nodeUnless depth [.value, .flowEntry, .flowMappingEnd] start.line false false
      let value ← flowValue depth .flowMappingEnd
      let others ← flowEntries depth false
      return (key, value) :: others
    -- a comma may come last
    else if ← accept .flowMappingEnd then return []
    else
      let key ← node depth false false
      let next ← peek
      let others ← flowEntries depth false
      return (key, Node.missing next.line) :: others

end

/-- Takes directives. The version is given once and its major number is 1; a handle is given
once. -/
def directives : (count : Nat) → (versioned : Bool) → (handles : List (String × String)) →
    Read (List (String × String))
  | 0, _, handles => return handles
  | count + 1, versioned, handles => do
    match (← peek).token with
    | .directive (.version major) =>
      skip
      if versioned || major ≠ 1 then refuse
      directives count true handles
    | .directive (.handle name meaning) =>
      skip
      if (handles.lookup name).isSome then refuse
      directives count versioned ((name, meaning) :: handles)
    | .directive .other =>
      skip
      directives count versioned handles
    | _ => return handles

/-- Takes marks at the end of a document. -/
def documentEnds : (count : Nat) → Read Unit
  | 0 => pure ()
  | count + 1 => do
    if ← accept .documentEnd then documentEnds count

/-- The root of a document that starts without a mark. -/
def bareDocument (depth : Nat) : Read Node := do
  modify fun reader => { reader with handles := standardHandles }
  node depth true false

/-- The root of a document that starts with directives or a mark. -/
def markedDocument (depth : Nat) : Read Node := do
  let handles ← directives (← get).tokens.length false []
  modify fun reader => { reader with handles := handles ++ standardHandles }
  expect .documentStart
  let next ← peek
  match next.token with
  -- the document ends where the next one starts, and may be empty
  | .directive _ => return Node.missing next.line
  | .documentStart => return Node.missing next.line
  | .documentEnd => return Node.missing next.line
  | .streamEnd => return Node.missing next.line
  | _ => node depth true false

/-- Takes the end of the text. The directives of another document are taken before it turns out that
there is one. -/
def noDocument : Read Unit := do
  if !(← accept .streamEnd) then
    let _ ← directives (← get).tokens.length false []
    let _ ← peek
    refuse

/-- The root of the only document of a text, if there is one. -/
def document (depth : Nat) : Read (Option Node) := do
  match (← peek).token with
  | .streamEnd => return none
  | token =>
    let marked :=
      match token with
      | .directive _ => true
      | .documentStart => true
      | _ => false
    let root ← if marked then markedDocument depth else bareDocument depth
    documentEnds (← get).tokens.length
    noDocument
    return some root

end NodeReader

namespace Node

/-- The root of the document that the tokens of a text make up, if there is one. Every level of
nesting takes a token and at most three rounds. -/
def ofTokens? (text : List Char) : Except ReadError (Option Node) :=
  let (found, ending) := tokens text
  let reader : NodeReader := ⟨found, ending, [], []⟩
  (NodeReader.document (4 * found.length + 8) |>.run reader).map Prod.fst

/-- The root of the document that a text holds, if there is one. All characters of a text are looked
at first. -/
def ofText? (text : List Char) : Except ReadError (Option Node) :=
  if text.all isAllowed then ofTokens? text else .error .malformed

/-- The number of characters of a file that are read at once. -/
def portion : Nat := 4096

/-- The place where the portion of a file with a character starts. The first two portions are read
together. -/
def portionStart (place : Nat) : Nat :=
  if place < 2 * portion then 0 else place / portion * portion

/-- The root of the document that a file holds, if there is one. The characters of a file are looked
at portion by portion: reading may stop before the portion with one that is not allowed. -/
def ofFile? (text : List Char) : Except ReadError (Option Node) :=
  match text.findIdx? (!isAllowed ·) with
  | none => ofTokens? text
  | some place =>
    -- the character stands for the whole portion, since nothing is read from it
    match ofTokens? (text.take (portionStart place) ++ (text.drop place).take 1) with
    | .error (.fault fault) => .error (.fault fault)
    | _ => .error .malformed

end Node

end FlowCheck.Yaml
