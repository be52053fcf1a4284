import FlowCheck.Proofs.Result
import FlowCheck.Yaml.Lines
import Mathlib.Data.List.Nodup

/-!
# Places of keys and items

The lines of a document are kept under paths, and a path is one text for the keys and the numbers on
the way. Here the way itself is kept, as a list of turns, so that two places with the same path can
be told apart. The lines of a node are those of its places, each under the path of its way
(`lines_eq`). Keys that are empty or hold a point or an opening bracket can make two ways one path;
without such keys, and with distinct keys in each mapping, all paths are different
(`nodup_paths`).

## Main definitions

* `Turn`, `Spot`, `Node.spots`: the places of a node, with their ways and lines;
* `lastLine?`: the line of the last place with a path;
* `Node.ends`: no collection holds an alias of itself;
* `Node.hasDistinctKeys`: in each mapping the keys are distinct;
* `Turn.IsPlain`: the turn stays visible in a path.
-/

namespace FlowCheck.Yaml

/-- A step of the way to a place: to the value under a key, or to an item of a list. -/
inductive Turn where
  /-- The key, as it stands in a path. -/
  | key (part : String)
  /-- The number of the item. -/
  | item (index : ℕ)
deriving DecidableEq

/-- The path goes on by the turn. -/
def Turn.extend (path : String) : Turn → String
  | .key part => Node.keyPath path part
  | .item index => s!"{path}[{index}]"

/-- A place of a key or an item. -/
structure Spot where
  /-- The way from the root. -/
  way : List Turn
  /-- The line, counted from 1. -/
  line : ℕ
deriving DecidableEq

namespace Spot

/-- The path of a place, behind a path. -/
def pathBehind (path : String) (spot : Spot) : String :=
  spot.way.foldl Turn.extend path

/-- The path of a place. -/
def path (spot : Spot) : String :=
  spot.pathBehind ""

/-- The place behind one turn more. -/
def under (turn : Turn) (spot : Spot) : Spot :=
  { spot with way := turn :: spot.way }

end Spot

/-- The line of the last place with a path. -/
def lastLine? (spots : List Spot) (path : String) : Option ℕ :=
  (spots.reverse.find? (·.path == path)).map (·.line)

namespace Node

/-- The text of a key in paths. -/
def partText (key : Node) : String :=
  key.pathPart.toOption.getD ""

mutual

/-- The places of all keys and items inside a node, as often as they stand there. -/
def spots : Node → List Spot
  | .scalar .. => []
  | .sequence _ items _ => itemSpots 0 items
  | .mapping _ entries _ => entrySpots entries
  | .within _ => []
termination_by structural node => node

/-- The places of items from a number on. -/
def itemSpots (index : ℕ) : List Node → List Spot
  | [] => []
  | item :: rest =>
    ⟨[.item index], item.line + 1⟩ :: item.spots.map (·.under (.item index)) ++
      itemSpots (index + 1) rest
termination_by structural items => items

/-- The places of entries. -/
def entrySpots : List (Node × Node) → List Spot
  | [] => []
  | (key, value) :: rest =>
    ⟨[.key key.partText], key.line + 1⟩ :: value.spots.map (·.under (.key key.partText)) ++
      entrySpots rest
termination_by structural entries => entries

end

mutual

/-- No collection inside the node, also of those in keys, holds an alias of itself. -/
def ends : Node → Bool
  | .scalar .. => true
  | .sequence _ items _ => itemsEnd items
  | .mapping _ entries _ => entriesEnd entries
  | .within _ => false
termination_by structural node => node

/-- All items end. -/
def itemsEnd : List Node → Bool
  | [] => true
  | item :: rest => item.ends && itemsEnd rest
termination_by structural items => items

/-- All keys and values end. -/
def entriesEnd : List (Node × Node) → Bool
  | [] => true
  | (key, value) :: rest => key.ends && value.ends && entriesEnd rest
termination_by structural entries => entries

end

/-! ## Lines and places -/

mutual

/-- A node that ends can be shown. -/
theorem exists_display : (node : Node) → node.ends = true → ∃ text, node.display = .ok text
  | .scalar .., _ => ⟨_, rfl⟩
  | .sequence _ items _, h => by
    obtain ⟨texts, htexts⟩ := exists_displayItems items h
    exact ⟨_, by rw [display, htexts]; rfl⟩
  | .mapping _ entries _, h => by
    obtain ⟨texts, htexts⟩ := exists_displayEntries entries h
    exact ⟨_, by rw [display, htexts]; rfl⟩

/-- Items that end can be shown. -/
theorem exists_displayItems :
    (items : List Node) → itemsEnd items = true → ∃ texts, displayItems items = .ok texts
  | [], _ => ⟨_, rfl⟩
  | item :: rest, h => by
    rw [itemsEnd, Bool.and_eq_true] at h
    obtain ⟨text, htext⟩ := exists_display item h.1
    obtain ⟨texts, htexts⟩ := exists_displayItems rest h.2
    exact ⟨_, by rw [displayItems, htext, htexts]; rfl⟩

/-- Entries that end can be shown. -/
theorem exists_displayEntries :
    (entries : List (Node × Node)) → entriesEnd entries = true →
      ∃ texts, displayEntries entries = .ok texts
  | [], _ => ⟨_, rfl⟩
  | (key, value) :: rest, h => by
    rw [entriesEnd, Bool.and_eq_true, Bool.and_eq_true] at h
    obtain ⟨keyText, hkey⟩ := exists_display key h.1.1
    obtain ⟨valueText, hvalue⟩ := exists_display value h.1.2
    obtain ⟨texts, htexts⟩ := exists_displayEntries rest h.2
    exact ⟨_, by rw [displayEntries, hkey, hvalue, htexts]; rfl⟩

end

/-- A key that ends has a text in paths. -/
theorem pathPart_eq {key : Node} (h : key.ends = true) : key.pathPart = .ok key.partText := by
  have hpart : ∃ text, key.pathPart = .ok text := by
    cases key with
    | scalar tag text line => exact ⟨_, rfl⟩
    | sequence tag items line =>
      obtain ⟨texts, htexts⟩ := exists_displayItems items h
      exact ⟨_, by rw [pathPart, htexts]; rfl⟩
    | mapping tag entries line =>
      obtain ⟨texts, htexts⟩ := exists_displayEntries entries h
      exact ⟨_, by rw [pathPart, htexts]; rfl⟩
    | within line => cases h
  obtain ⟨text, htext⟩ := hpart
  rw [partText, htext]
  rfl

mutual

/-- The lines of a node that ends are those of its places, each under the path of its way. -/
theorem lines_eq (path : String) : (node : Node) → node.ends = true →
    node.lines path = .ok (node.spots.map fun spot => (spot.pathBehind path, spot.line))
  | .scalar .., _ => rfl
  | .sequence _ items _, h => itemLines_eq path 0 items h
  | .mapping _ entries _, h => entryLines_eq path entries h

/-- The lines of items that end are those of their places. -/
theorem itemLines_eq (path : String) (index : ℕ) : (items : List Node) → itemsEnd items = true →
    itemLines path index items =
      .ok ((itemSpots index items).map fun spot => (spot.pathBehind path, spot.line))
  | [], _ => rfl
  | item :: rest, h => by
    rw [itemsEnd, Bool.and_eq_true] at h
    rw [itemLines, lines_eq _ item h.1, itemLines_eq path (index + 1) rest h.2, itemSpots]
    simp only [List.map_append, List.map_cons, List.map_map]
    rfl

/-- The lines of entries that end are those of their places. -/
theorem entryLines_eq (path : String) : (entries : List (Node × Node)) →
    entriesEnd entries = true → entryLines path entries =
      .ok ((entrySpots entries).map fun spot => (spot.pathBehind path, spot.line))
  | [], _ => rfl
  | (key, value) :: rest, h => by
    rw [entriesEnd, Bool.and_eq_true, Bool.and_eq_true] at h
    rw [entryLines, pathPart_eq h.1.1, Result.ok_bind]
    -- the path of the entry has to be known before the lines behind it
    show (value.lines (keyPath path key.partText) >>= _) = _
    rw [lines_eq _ value h.1.2, entryLines_eq path rest h.2, entrySpots]
    simp only [List.map_append, List.map_cons, List.map_map]
    rfl

end

/-! ## Ways to places -/

/-- Behind a turn all ways start with it. -/
theorem way_of_mem_under {turn : Turn} {line : ℕ} {spots : List Spot} {spot : Spot}
    (h : spot ∈ ⟨[turn], line⟩ :: spots.map (·.under turn)) :
    ∃ rest, spot.way = turn :: rest := by
  rcases List.mem_cons.1 h with rfl | hinside
  · exact ⟨[], rfl⟩
  · obtain ⟨inner, -, rfl⟩ := List.mem_map.1 hinside
    exact ⟨inner.way, rfl⟩

/-- Behind the first turn to an item the way is one inside of the item. -/
theorem exists_of_mem_itemSpots {spot : Spot} {index : ℕ} {items : List Node}
    (h : spot ∈ itemSpots index items) :
    ∃ i, index ≤ i ∧ ∃ rest, spot.way = .item i :: rest := by
  induction items generalizing index with
  | nil => cases h
  | cons item items ih =>
    rw [itemSpots, List.mem_append] at h
    rcases h with hfirst | hrest
    · exact ⟨index, Nat.le_refl _, way_of_mem_under hfirst⟩
    · obtain ⟨i, hi, hway⟩ := ih hrest
      exact ⟨i, by omega, hway⟩

/-- Behind the first turn to a key the way is one inside of its value. -/
theorem exists_of_mem_entrySpots {spot : Spot} {entries : List (Node × Node)}
    (h : spot ∈ entrySpots entries) :
    ∃ entry ∈ entries, ∃ rest, spot.way = .key entry.1.partText :: rest := by
  induction entries with
  | nil => cases h
  | cons entry entries ih =>
    rw [entrySpots, List.mem_append] at h
    rcases h with hfirst | hrest
    · exact ⟨entry, List.mem_cons_self, way_of_mem_under hfirst⟩
    · obtain ⟨found, hfound, hway⟩ := ih hrest
      exact ⟨found, List.mem_cons_of_mem _ hfound, hway⟩

/-- The place of a key is among those of its mapping. -/
theorem mem_entrySpots {key value : Node} {entries : List (Node × Node)}
    (h : (key, value) ∈ entries) :
    ⟨[.key key.partText], key.line + 1⟩ ∈ entrySpots entries := by
  induction entries with
  | nil => cases h
  | cons entry entries ih =>
    rw [entrySpots]
    rcases List.mem_cons.1 h with rfl | hrest
    · simp
    · exact List.mem_append_right _ (ih hrest)

/-- The places inside a value are among those of its mapping, behind one turn more. -/
theorem under_mem_entrySpots {key value : Node} {entries : List (Node × Node)}
    (h : (key, value) ∈ entries) {spot : Spot} (hspot : spot ∈ value.spots) :
    spot.under (.key key.partText) ∈ entrySpots entries := by
  induction entries with
  | nil => cases h
  | cons entry entries ih =>
    rw [entrySpots]
    rcases List.mem_cons.1 h with rfl | hrest
    · exact List.mem_append_left _ (List.mem_cons_of_mem _ (List.mem_map_of_mem hspot))
    · exact List.mem_append_right _ (ih hrest)

/-- The places inside an item are among those of its list, behind one turn more. -/
theorem under_mem_itemSpots {item : Node} {items : List Node} {index i : ℕ}
    (h : items[i]? = some item) {spot : Spot} (hspot : spot ∈ item.spots) :
    spot.under (.item (index + i)) ∈ itemSpots index items := by
  induction items generalizing index i with
  | nil => simp at h
  | cons first rest ih =>
    rw [itemSpots]
    cases i with
    | zero =>
      obtain rfl : first = item := Option.some.inj h
      exact List.mem_append_left _ (List.mem_cons_of_mem _ (List.mem_map_of_mem hspot))
    | succ i =>
      rw [show index + (i + 1) = index + 1 + i by omega]
      exact List.mem_append_right _ (ih h)

/-! ## Paths that tell places apart -/

mutual

/-- In each mapping of the node the keys are distinct. -/
def hasDistinctKeys : Node → Bool
  | .scalar .. => true
  | .sequence _ items _ => itemsHaveDistinctKeys items
  | .mapping _ entries _ =>
    decide (entries.map (·.1.partText)).Nodup && valuesHaveDistinctKeys entries
  | .within _ => true
termination_by structural node => node

/-- In each mapping of the items the keys are distinct. -/
def itemsHaveDistinctKeys : List Node → Bool
  | [] => true
  | item :: rest => item.hasDistinctKeys && itemsHaveDistinctKeys rest
termination_by structural items => items

/-- In each mapping of the values the keys are distinct. -/
def valuesHaveDistinctKeys : List (Node × Node) → Bool
  | [] => true
  | (_, value) :: rest => value.hasDistinctKeys && valuesHaveDistinctKeys rest
termination_by structural entries => entries

end

/-- The way to a place takes a turn. -/
theorem way_ne_nil {node : Node} {spot : Spot} (h : spot ∈ node.spots) : spot.way ≠ [] := by
  cases node with
  | scalar tag text line => cases h
  | sequence tag items line =>
    obtain ⟨i, -, rest, hway⟩ := exists_of_mem_itemSpots h
    exact hway ▸ List.cons_ne_nil _ _
  | mapping tag entries line =>
    obtain ⟨entry, -, rest, hway⟩ := exists_of_mem_entrySpots h
    exact hway ▸ List.cons_ne_nil _ _
  | within line => cases h

/-- Places that are told apart inside of a node are so behind one turn more. -/
theorem nodup_ways_under (turn : Turn) (line : ℕ) {node : Node}
    (h : (node.spots.map (·.way)).Nodup) :
    ((⟨[turn], line⟩ :: node.spots.map (·.under turn)).map (·.way)).Nodup := by
  have hways : (node.spots.map (·.under turn)).map (·.way) =
      (node.spots.map (·.way)).map (turn :: ·) := by
    rw [List.map_map, List.map_map]
    rfl
  rw [List.map_cons, hways, List.nodup_cons]
  refine ⟨?_, h.map fun _ _ heq => (List.cons.inj heq).2⟩
  rw [List.mem_map]
  rintro ⟨way, hway, heq⟩
  obtain ⟨spot, hspot, rfl⟩ := List.mem_map.1 hway
  exact way_ne_nil hspot (List.cons.inj heq).2

mutual

/-- With distinct keys all ways are different. -/
theorem nodup_ways : (node : Node) → node.hasDistinctKeys = true → (node.spots.map (·.way)).Nodup
  | .scalar .., _ => List.nodup_nil
  | .sequence _ items _, h => nodup_itemWays 0 items h
  | .mapping _ entries _, h => by
    rw [hasDistinctKeys, Bool.and_eq_true, decide_eq_true_eq] at h
    exact nodup_entryWays entries h.1 h.2
  | .within _, _ => List.nodup_nil

/-- With distinct keys in the items all ways from them are different. -/
theorem nodup_itemWays (index : ℕ) : (items : List Node) → itemsHaveDistinctKeys items = true →
    ((itemSpots index items).map (·.way)).Nodup
  | [], _ => List.nodup_nil
  | item :: rest, h => by
    rw [itemsHaveDistinctKeys, Bool.and_eq_true] at h
    have hfirst := nodup_ways_under (.item index) (item.line + 1) (nodup_ways item h.1)
    rw [itemSpots, List.map_append]
    refine List.nodup_append.2 ⟨hfirst, nodup_itemWays (index + 1) rest h.2, ?_⟩
    -- the ways start with different numbers
    rintro way hway other hother rfl
    obtain ⟨spot, hspot, rfl⟩ := List.mem_map.1 hway
    obtain ⟨otherSpot, hotherSpot, heq⟩ := List.mem_map.1 hother
    obtain ⟨tail, htail⟩ := way_of_mem_under hspot
    obtain ⟨i, hi, otherTail, hotherTail⟩ := exists_of_mem_itemSpots hotherSpot
    rw [htail, hotherTail] at heq
    have hnumber : i = index := Turn.item.inj (List.cons.inj heq).1
    omega

/-- With distinct keys of the entries all ways from them are different. -/
theorem nodup_entryWays : (entries : List (Node × Node)) → (entries.map (·.1.partText)).Nodup →
    valuesHaveDistinctKeys entries = true → ((entrySpots entries).map (·.way)).Nodup
  | [], _, _ => List.nodup_nil
  | (key, value) :: rest, hnodup, h => by
    rw [valuesHaveDistinctKeys, Bool.and_eq_true] at h
    rw [List.map_cons, List.nodup_cons] at hnodup
    have hfirst := nodup_ways_under (.key key.partText) (key.line + 1) (nodup_ways value h.1)
    rw [entrySpots, List.map_append]
    refine List.nodup_append.2 ⟨hfirst, nodup_entryWays rest hnodup.2 h.2, ?_⟩
    -- the ways start with different keys
    rintro way hway other hother rfl
    obtain ⟨spot, hspot, rfl⟩ := List.mem_map.1 hway
    obtain ⟨otherSpot, hotherSpot, heq⟩ := List.mem_map.1 hother
    obtain ⟨tail, htail⟩ := way_of_mem_under hspot
    obtain ⟨entry, hentry, otherTail, hotherTail⟩ := exists_of_mem_entrySpots hotherSpot
    rw [htail, hotherTail] at heq
    have hpart : entry.1.partText = key.partText := Turn.key.inj (List.cons.inj heq).1
    exact hnodup.1 (hpart ▸ List.mem_map_of_mem hentry)

end

end Node

/-! ## Ways and paths -/

namespace Turn

/-- The turn is to an item, or by a key that is not empty and has no point and no opening
bracket. -/
def IsPlain : Turn → Prop
  | .key part => part ≠ "" ∧ '.' ∉ part.toList ∧ '[' ∉ part.toList
  | .item _ => True

instance : DecidablePred IsPlain
  | .key part => inferInstanceAs (Decidable (part ≠ "" ∧ '.' ∉ part.toList ∧ '[' ∉ part.toList))
  | .item _ => inferInstanceAs (Decidable True)

/-- What a turn adds to a path. -/
def chars : Turn → List Char
  | .key part => '.' :: part.toList
  | .item index => '[' :: (Nat.toDigits 10 index ++ [']'])

/-- A path that is not empty goes on by what the turn adds. -/
theorem toList_extend {path : String} (h : path ≠ "") (turn : Turn) :
    (turn.extend path).toList = path.toList ++ turn.chars := by
  cases turn with
  | key part =>
    have hpath : path.isEmpty = false := by simpa using h
    rw [extend, Node.keyPath, hpath, if_neg Bool.false_ne_true]
    simp [chars]
  | item index =>
    rw [extend, chars, ← Nat.toList_repr]
    simp [toString]

/-- A path that is not empty goes on by what the turns add. -/
theorem toList_foldl_extend {path : String} (h : path ≠ "") (way : List Turn) :
    (way.foldl extend path).toList = path.toList ++ way.flatMap chars := by
  induction way generalizing path with
  | nil => simp
  | cons turn rest ih =>
    have hnext : turn.extend path ≠ "" := by
      rw [ne_eq, ← String.toList_eq_nil_iff, toList_extend h]
      simp [h]
    rw [List.foldl_cons, ih hnext, toList_extend h, List.flatMap_cons, List.append_assoc]

/-- No plain key goes over into the turns behind it. -/
theorem takeWhile_part {part : String} (hpoint : '.' ∉ part.toList) (hbracket : '[' ∉ part.toList)
    (way : List Turn) :
    (part.toList ++ way.flatMap chars).takeWhile (fun c => c ≠ '.' ∧ c ≠ '[') = part.toList := by
  have hpart : ∀ c ∈ part.toList, decide (c ≠ '.' ∧ c ≠ '[') = true := fun c hc =>
    decide_eq_true ⟨ne_of_mem_of_not_mem hc hpoint, ne_of_mem_of_not_mem hc hbracket⟩
  have hway : (way.flatMap chars).takeWhile (fun c => c ≠ '.' ∧ c ≠ '[') = [] := by
    cases way with
    | nil => rfl
    | cons turn rest => cases turn <;> simp [chars]
  rw [List.takeWhile_append_of_pos hpart, hway, List.append_nil]

/-- The number of an item ends at the bracket. -/
theorem takeWhile_digits (index : ℕ) (rest : List Char) :
    (Nat.toDigits 10 index ++ ']' :: rest).takeWhile (· ≠ ']') = Nat.toDigits 10 index := by
  have hdigits : ∀ c ∈ Nat.toDigits 10 index, decide (c ≠ ']') = true := by
    intro c hc
    have hdigit := Nat.isDigit_of_mem_toDigits (by decide) (by decide) hc
    exact decide_eq_true fun heq => absurd (heq ▸ hdigit) (by decide)
  rw [List.takeWhile_append_of_pos hdigits]
  simp

/-- The first of two plain turns that start the same text is the same, and so is what follows. -/
theorem append_chars_inj {turn turn' : Turn} (hturn : turn.IsPlain) (hturn' : turn'.IsPlain)
    {way other : List Turn}
    (h : turn.chars ++ way.flatMap chars = turn'.chars ++ other.flatMap chars) :
    turn = turn' ∧ way.flatMap chars = other.flatMap chars := by
  cases turn with
  | key part =>
    cases turn' with
    | key part' =>
      have hrest : part.toList ++ way.flatMap chars = part'.toList ++ other.flatMap chars :=
        (List.cons.inj h).2
      -- both keys are what stands in front of the next point or bracket
      have hpart := congrArg (List.takeWhile fun c => c ≠ '.' ∧ c ≠ '[') hrest
      rw [takeWhile_part hturn.2.1 hturn.2.2, takeWhile_part hturn'.2.1 hturn'.2.2] at hpart
      obtain rfl := String.toList_inj.1 hpart
      exact ⟨rfl, List.append_cancel_left hrest⟩
    | item index' => simp [chars] at h
  | item index =>
    cases turn' with
    | key part' => simp [chars] at h
    | item index' =>
      have hrest : Nat.toDigits 10 index ++ ']' :: way.flatMap chars =
          Nat.toDigits 10 index' ++ ']' :: other.flatMap chars := by
        simpa [chars] using h
      have hdigits := congrArg (List.takeWhile (· ≠ ']')) hrest
      rw [takeWhile_digits, takeWhile_digits] at hdigits
      -- the digits give the number back
      have hindex := congrArg (Nat.ofDigitChars 10 · 0) hdigits
      simp only [Nat.ofDigitChars_toDigits (b := 10) (by decide) (by decide)] at hindex
      obtain rfl : index = index' := hindex
      exact ⟨rfl, (List.cons.inj (List.append_cancel_left hrest)).2⟩

/-- Plain turns that add the same to a path are the same. -/
theorem flatMap_chars_inj {way other : List Turn} (hway : ∀ turn ∈ way, turn.IsPlain)
    (hother : ∀ turn ∈ other, turn.IsPlain)
    (h : way.flatMap chars = other.flatMap chars) : way = other := by
  induction way generalizing other with
  | nil =>
    cases other with
    | nil => rfl
    | cons turn rest => cases turn <;> simp [chars] at h
  | cons turn rest ih =>
    cases other with
    | nil => cases turn <;> simp [chars] at h
    | cons turn' rest' =>
      rw [List.forall_mem_cons] at hway hother
      rw [List.flatMap_cons, List.flatMap_cons] at h
      obtain ⟨rfl, hrest⟩ := append_chars_inj hway.1 hother.1 h
      rw [ih hway.2 hother.2 hrest]

end Turn

/-- The path of a place, with a point in front, is what the turns of its way add. -/
theorem Spot.toList_path {spot : Spot} {part : String} {rest : List Turn}
    (hway : spot.way = .key part :: rest) (hpart : part ≠ "") :
    '.' :: spot.path.toList = spot.way.flatMap Turn.chars := by
  have hpath : spot.path = rest.foldl Turn.extend part := by
    rw [path, pathBehind, hway, List.foldl_cons]
    rfl
  rw [hpath, Turn.toList_foldl_extend hpart, hway, List.flatMap_cons]
  rfl

/-- Places in a mapping that have the same path are the same way from it, if their ways are
plain. -/
theorem Node.way_eq_of_path_eq {entries : List (Node × Node)} {spot other : Spot}
    (hspot : spot ∈ entrySpots entries) (hother : other ∈ entrySpots entries)
    (hplain : ∀ turn ∈ spot.way, turn.IsPlain) (hplainOther : ∀ turn ∈ other.way, turn.IsPlain)
    (h : spot.path = other.path) : spot.way = other.way := by
  obtain ⟨entry, -, rest, hway⟩ := exists_of_mem_entrySpots hspot
  obtain ⟨entry', -, rest', hway'⟩ := exists_of_mem_entrySpots hother
  have hkey : entry.1.partText ≠ "" := (hplain (.key _) (hway ▸ List.mem_cons_self)).1
  have hkey' : entry'.1.partText ≠ "" := (hplainOther (.key _) (hway' ▸ List.mem_cons_self)).1
  refine Turn.flatMap_chars_inj hplain hplainOther ?_
  rw [← Spot.toList_path hway hkey, ← Spot.toList_path hway' hkey', h]

/-- Where the keys in each mapping are distinct and all ways are plain, no two places of a mapping
have the same path. -/
theorem Node.nodup_paths {tag : String} {entries : List (Node × Node)} {line : ℕ}
    (hdistinct : (Node.mapping tag entries line).hasDistinctKeys = true)
    (hplain : ∀ spot ∈ entrySpots entries, ∀ turn ∈ spot.way, turn.IsPlain) :
    ((entrySpots entries).map (·.path)).Nodup := by
  have hways : ((entrySpots entries).map (·.way)).Nodup := nodup_ways _ hdistinct
  have hpaths : (entrySpots entries).Pairwise fun spot other => spot.path ≠ other.path := by
    refine (List.pairwise_map.1 hways).imp_of_mem fun hspot hother hne heq => hne ?_
    exact way_eq_of_path_eq hspot hother (hplain _ hspot) (hplain _ hother) heq
  exact List.pairwise_map.2 hpaths

/-! ## Lines by path -/

/-- The lines of the places, put one after the other under their paths, leave the line of the last
place with a path. -/
theorem LineMap.line?_foldl_put (spots : List Spot) (path : String) :
    LineMap.line? ((spots.map fun spot => (spot.path, spot.line)).foldl
      (fun all entry => Keyed.put entry.1 entry.2 all) []) [path] = lastLine? spots path := by
  rw [LineMap.line?, List.findSome?_singleton, Keyed.lookup_foldl_put, List.lookup_nil,
    Option.or_none, ← List.map_reverse, Keyed.lookup_map]
  rfl

/-- Where no two places have the same path, each is the last one with its path. -/
theorem lastLine?_of_mem {spots : List Spot} (hnodup : (spots.map (·.path)).Nodup) {spot : Spot}
    (h : spot ∈ spots) : lastLine? spots spot.path = some spot.line := by
  have hkeys : ((spots.reverse.map fun spot => (spot.path, spot.line)).map Prod.fst).Nodup := by
    rw [List.map_map, List.map_reverse]
    exact List.nodup_reverse.2 hnodup
  rw [lastLine?, ← Keyed.lookup_map]
  exact Keyed.lookup_of_mem hkeys (List.mem_map_of_mem (List.mem_reverse.2 h))

end FlowCheck.Yaml
