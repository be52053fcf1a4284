import FlowCheck.Yaml.Schema

/-!
# Nodes of a YAML document

A document as a tree: scalars by their text, and collections, each with its tag and the line where
it starts. An alias is replaced by the node that it refers to.
-/

namespace FlowCheck.Yaml

/-- A node. -/
inductive Node where
  /-- A scalar. -/
  | scalar (tag text : String) (line : Nat)
  /-- A list. -/
  | sequence (tag : String) (items : List Node) (line : Nat)
  /-- A mapping. -/
  | mapping (tag : String) (entries : List (Node × Node)) (line : Nat)
  /-- An alias of a collection that it stands in. -/
  | within (line : Nat)
deriving Inhabited

namespace Node

/-- The line where a node starts, counted from 0. -/
def line : Node → Nat
  | .scalar _ _ line => line
  | .sequence _ _ line => line
  | .mapping _ _ line => line
  | .within line => line

/-- The tag of a node. -/
def tag : Node → String
  | .scalar tag _ _ => tag
  | .sequence tag _ _ => tag
  | .mapping tag _ _ => tag
  | .within _ => ""

/-- The empty scalar that stands for a node that is left out. -/
def missing (line : Nat) : Node :=
  .scalar (Schema.plainTag "") "" line

end Node

end FlowCheck.Yaml
