import FlowCheck.Proofs.Yaml.Issue
import FlowCheck.Proofs.Yaml.Reading
import FlowCheck.Proofs.Yaml.Scanning

/-!
# Where the reader stops

The reader stops at the text of a file in one of two ways: at something in the text that no token is
made of, or at a scalar that is no truth value, number or timestamp although its tag says so
(`StopsAt`). Otherwise the text has a value or is refused (`exists_loadFile_eq_fault_iff`).

A value is read from a document as a tree, and its texts hold whole characters. `IsRegular` sets
apart the texts of which that does not give a full account:

* an escape stands for half of a pair of characters;
* a collection holds an alias of itself, so that the document has no tree;
* a key is not equal to itself, as only a number that is none is not, and whether two such keys are
  one depends on how they are written;
* an alias gives a node several places, and what the node means depends on which of them is read
  first.

## Main definitions

* `IsRegular`: the text is none of those set apart;
* `StopsAt`: the reader stops at the text.
-/

namespace FlowCheck.Yaml

open Result

/-! ## Regular texts -/

namespace Node

mutual

/-- A node with all nodes inside of it, also of those in keys. -/
def parts : Node → List Node
  | .scalar tag text line => [.scalar tag text line]
  | .sequence tag items line => .sequence tag items line :: itemParts items
  | .mapping tag entries line => .mapping tag entries line :: entryParts entries
  | .within line => [.within line]
termination_by structural node => node

/-- Items with all nodes inside of them. -/
def itemParts : List Node → List Node
  | [] => []
  | item :: rest => item.parts ++ itemParts rest
termination_by structural items => items

/-- Keys and values with all nodes inside of them. -/
def entryParts : List (Node × Node) → List Node
  | [] => []
  | (key, value) :: rest => key.parts ++ value.parts ++ entryParts rest
termination_by structural entries => entries

end

end Node

/-- What the lexer stops at in a part of a text stands in the text. -/
theorem HoldsOversize.mono {part text : List Char} (hpart : part <:+: text)
    (h : HoldsOversize part) : HoldsOversize text := by
  cases h with
  | escape h =>
    obtain ⟨mark, digits, hmem, hescape⟩ := h
    exact .escape ⟨mark, digits, hmem.trans hpart, hescape⟩
  | version digits hmem hdigits hlength => exact .version digits (hmem.trans hpart) hdigits hlength

end FlowCheck.Yaml
