import FlowCheck.Number.Binary64

/-!
# Similarity of texts

Two texts are compared by their matching blocks. The longest common block is taken first, then
the same is done with what stands before it in both texts and with what stands after it. The
similarity is twice the number of matched characters divided by the sum of the lengths.

A block is sought through an index of the characters of the reference. In a reference of 200 or
more characters those that make up over a hundredth of it are left out of the index; they extend
a block at either side but never start one.

Two estimates are found faster: from the characters that the texts share in any order, and from
their lengths alone.
-/

namespace FlowCheck.Text

/-- A common block: where it starts in both texts, and its size. -/
structure Block where
  /-- The start in the first text. -/
  first : Nat
  /-- The start in the second text. -/
  second : Nat
  /-- The size. -/
  size : Nat
deriving DecidableEq, Inhabited

/-- The number of equal characters at the start of both texts. -/
def commonStart : List Char → List Char → Nat
  | a :: as, b :: bs => if a = b then commonStart as bs + 1 else 0
  | _, _ => 0

/-- For each place of the second text, the size of the block of indexed characters that ends
there and at the character `a`; `before` holds the sizes for the character in front of `a`. -/
def blockEnds (indexed : Char → Bool) (a : Char) (second : List Char) (before : List Nat) :
    List Nat :=
  List.zipWith (fun b size => if b = a && indexed b then size + 1 else 0) second (0 :: before)

/-- The larger block of `best` and those that end at place `i` of the first text; the earlier one
if they are of one size. -/
def largerBlock (i : Nat) : (j : Nat) → Block → List Nat → Block
  | _, best, [] => best
  | j, best, size :: rest =>
    let best := if best.size < size then ⟨i + 1 - size, j + 1 - size, size⟩ else best
    largerBlock i (j + 1) best rest

/-- The largest block of indexed characters in what is left of the first text from place `i`. -/
def scanBlocks (indexed : Char → Bool) (second : List Char) :
    (i : Nat) → Block → (before : List Nat) → List Char → Block
  | _, best, _, [] => best
  | i, best, before, a :: rest =>
    let sizes := blockEnds indexed a second before
    scanBlocks indexed second (i + 1) (largerBlock i 0 best sizes) sizes rest

/-- The first of the largest common blocks, extended at both sides by equal characters. -/
def longestBlock (indexed : Char → Bool) (first second : List Char) : Block :=
  let found := scanBlocks indexed second 0 ⟨0, 0, 0⟩ (second.map fun _ => 0) first
  let before :=
    commonStart (first.take found.first).reverse (second.take found.second).reverse
  let after :=
    commonStart (first.drop (found.first + found.size)) (second.drop (found.second + found.size))
  ⟨found.first - before, found.second - before, before + found.size + after⟩

/-- The number of characters in matching blocks; every block takes at least one character of the
first text, so its length bounds the number of rounds. -/
def matchedWithin (indexed : Char → Bool) : (rounds : Nat) → List Char → List Char → Nat
  | 0, _, _ => 0
  | rounds + 1, first, second =>
    let block := longestBlock indexed first second
    if block.size = 0 then 0
    else
      block.size +
        matchedWithin indexed rounds (first.take block.first) (second.take block.second) +
        matchedWithin indexed rounds (first.drop (block.first + block.size))
          (second.drop (block.second + block.size))

/-- The length from which frequent characters are left out of the index. -/
def indexThreshold : Nat := 200

/-- The character of the reference is in the index. -/
def isIndexed (reference : List Char) (c : Char) : Bool :=
  reference.length < indexThreshold || reference.count c ≤ reference.length / 100 + 1

/-- The characters of the reference that are not in the index. -/
def frequent (reference : List Char) : List Char :=
  if reference.length < indexThreshold then []
  else reference.eraseDups.filter fun c => !isIndexed reference c

/-- The number of characters of a text in blocks that match the reference. -/
def matched (text reference : List Char) : Nat :=
  let common := frequent reference
  matchedWithin (fun c => !common.contains c) (text.length + 1) text reference

/-- The number of characters that a text shares with another, whatever their order. -/
def shared : List Char → List Char → Nat
  | [], _ => 0
  | c :: rest, other =>
    if other.contains c then shared rest (other.erase c) + 1 else shared rest other

/-- The similarity of two texts with a number of matched characters; empty texts are equal. -/
def ratio (count : Nat) (text reference : List Char) : Binary64 :=
  let total := text.length + reference.length
  if total = 0 then .one else .ofRatio false (2 * count) total

/-- The similarity of a text to the reference, between 0 and 1. -/
def similarity (text reference : List Char) : Binary64 :=
  ratio (matched text reference) text reference

/-- The similarity that a text would have if all characters that it shares were matched. -/
def sharedSimilarity (text reference : List Char) : Binary64 :=
  ratio (shared text reference) text reference

/-- The similarity that a text would have if one text were part of the other. -/
def lengthSimilarity (text reference : List Char) : Binary64 :=
  ratio (min text.length reference.length) text reference

end FlowCheck.Text
