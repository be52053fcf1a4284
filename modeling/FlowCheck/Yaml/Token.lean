import FlowCheck.Yaml.Cursor

/-!
# Tokens of a YAML text

The units that the structure of a document is made of, each with the line where it starts.
-/

namespace FlowCheck.Yaml

/-- A line above a document that starts with `%`. -/
inductive Directive where
  /-- The version of the format, by its major number. -/
  | version (major : Nat)
  /-- The meaning of a tag handle. -/
  | handle (name meaning : String)
  /-- Any other directive. -/
  | other
deriving DecidableEq, Inhabited

/-- A token. -/
inductive Token where
  | streamEnd
  | directive (content : Directive)
  | documentStart
  | documentEnd
  | blockSequenceStart
  | blockMappingStart
  | blockEnd
  | flowSequenceStart
  | flowSequenceEnd
  | flowMappingStart
  | flowMappingEnd
  | blockEntry
  | flowEntry
  | key
  | value
  /-- A reference to an anchor. -/
  | alias (name : String)
  /-- The name of the node that follows. -/
  | anchor (name : String)
  /-- The tag of the node that follows: a handle, if there is one, and the rest. -/
  | tag (handle : Option String) (rest : String)
  /-- A scalar; it is plain if it is not quoted and not a block. -/
  | scalar (text : String) (plain : Bool)
deriving DecidableEq, Inhabited

/-- A token with the line where it starts. -/
structure Placed where
  /-- The token. -/
  token : Token
  /-- The line, counted from 0. -/
  line : Nat
deriving DecidableEq, Inhabited

end FlowCheck.Yaml
