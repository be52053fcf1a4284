import FlowCheck.Text.Similarity
import FlowCheck.Value.Display

/-!
# Suggestions

Names that are similar to one that was not found. Each name is offered once and never the
reference itself; the most similar come first, and of names that are as similar the later one in
the order of texts.
-/

namespace FlowCheck

/-- A bound on the similarity as it was given: a whole number, or one with a point. -/
inductive Cutoff where
  /-- A whole number. -/
  | whole (n : Int)
  /-- A number with a point. -/
  | real (x : Binary64)
deriving Inhabited

namespace Cutoff

/-- The bound that holds when none is given. -/
def standard : Cutoff := .real .threeFifths

/-- The number. -/
def value : Cutoff → Binary64
  | .whole n => .ofInt n
  | .real x => x

/-- The bound is between 0 and 1. -/
def isValid : Cutoff → Bool
  | .whole n => n == 0 || n == 1
  | .real x => Binary64.zero.le x && x.le .one

/-- The bound as text. -/
def text : Cutoff → String
  | .whole n => toString n
  | .real x => x.text

end Cutoff

/-- Why names cannot be suggested. -/
inductive SuggestError where
  /-- Less than one name is asked for. -/
  | limit (n : Int)
  /-- The bound is not between 0 and 1. -/
  | cutoff (bound : Cutoff)
  /-- A candidate or the reference cannot be compared. -/
  | fault (fault : Fault)
deriving Inhabited

/-- The message for a limit or a bound that cannot be used; a fault has none. -/
def SuggestError.message : SuggestError → String
  | .limit n => s!"n must be > 0: {n}"
  | .cutoff bound => s!"cutoff must be in [0.0, 1.0]: " ++ bound.text
  | .fault _ => ""

/-- An error as a fault, where no limit or bound of its own was given. -/
def SuggestError.toFault : SuggestError → Fault
  | .limit _ => .badBound
  | .cutoff _ => .badBound
  | .fault reason => reason

namespace Suggestion

/-- The number of names that are offered when nothing else is asked for. -/
def standardLimit : Int := 3

/-- A candidate that holds other values is never a name. -/
def isCollection : Value → Bool
  | .list _ => true
  | .map _ => true
  | .set _ => true
  | _ => false

/-- The characters of a candidate. A byte string has none in common with a text. -/
def name? : Value → Except Fault (Option String)
  | .str s => .ok (some s)
  | .bytes _ => .ok none
  | _ => .error .noLength

/-- A name before another in the list of suggestions. -/
def isBefore (a b : Binary64 × String) : Bool :=
  b.1.lt a.1 || (b.1.same a.1 && decide (b.2 ≤ a.2))

/-- The similarity of a name that is similar enough. The estimates are tried first. -/
def score? (reference : String) (bound : Binary64) (name : String) : Option Binary64 :=
  let text := name.toList
  let other := reference.toList
  if bound.le (Text.lengthSimilarity text other) && bound.le (Text.sharedSimilarity text other) then
    let score := Text.similarity text other
    if bound.le score then some score else none
  else none

/-- The names that are similar enough, the most similar first. -/
def ranked (reference : String) (names : List String) (bound : Binary64) : List String :=
  let scored := (names.eraseDups.filter (· ≠ reference)).filterMap fun name =>
    (score? reference bound name).map fun score => (score, name)
  (scored.mergeSort isBefore).map Prod.snd

/-- The names to offer among the candidates. -/
def names (reference : String) (candidates : List Value) (limit : Int) (cutoff : Cutoff) :
    Except SuggestError (List String) :=
  if candidates.any isCollection then .error (.fault .notName)
  else if limit ≤ 0 then .error (.limit limit)
  else if !cutoff.isValid then .error (.cutoff cutoff)
  else
    match candidates.mapM name? with
    | .error fault => .error (.fault fault)
    | .ok found =>
      .ok ((ranked reference (found.filterMap id) cutoff.value).take limit.toNat)

/-- The names to offer as text, if there are any. -/
def text? (names : List String) : Option String :=
  if names.isEmpty then none
  else some (String.intercalate ", " (names.map fun name => "'" ++ name ++ "'"))

end Suggestion

/-- The names to offer among the candidates as text, if there are any. -/
def suggest (reference : String) (candidates : List Value) (limit : Int) (cutoff : Cutoff) :
    Except SuggestError (Option String) :=
  (Suggestion.names reference candidates limit cutoff).map Suggestion.text?

end FlowCheck
