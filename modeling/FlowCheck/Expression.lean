import FlowCheck.Text.Blank
import FlowCheck.Value

/-!
# Runtime expressions

Texts that refer to data of a running workflow: an input, an output of a step, the body or a
header of the current response, or its status code. An expression starts with `$`; a text that
starts with `$` and has none of the known forms is kept as an unknown expression.

A text can also hold expressions among other characters. `embedded` finds them, and `collect`
finds those in all the texts of a nested value.
-/

namespace FlowCheck

/-- What an expression refers to. -/
inductive Reference where
  /-- A field of the workflow's inputs. -/
  | input (path : String)
  /-- A field of an output of a step. -/
  | stepOutput (step path : String)
  /-- The response body, or a field of it. -/
  | responseBody (path : String)
  /-- A header of the response. -/
  | responseHeader (name : String)
  /-- The status code of the response. -/
  | statusCode
  /-- A form that is not known, with its text. -/
  | unknown (text : String)
deriving DecidableEq, Inhabited

/-- An expression: what it refers to, and its text. -/
structure Expression where
  /-- What the expression refers to. -/
  target : Reference
  /-- The text of the expression. -/
  raw : String
deriving DecidableEq, Inhabited

namespace Reference

/-- The step whose output is referred to. -/
def step? : Reference → Option String
  | .stepOutput step _ => some step
  | _ => none

/-- The name of the output: the path up to its first point. -/
def outputName (path : String) : String :=
  String.ofList (path.toList.takeWhile (· ≠ '.'))

/-- What follows a fixed beginning of a text. -/
def after? (start : String) (text : List Char) : Option (List Char) :=
  start.toList.isPrefixOf? text

/-- What follows a fixed beginning of a text, when it is not empty. -/
def tail? (start : String) (text : List Char) : Option String :=
  match after? start text with
  | some (c :: rest) => some (String.ofList (c :: rest))
  | _ => none

/-- A character of a step id inside an expression. -/
def isStepChar (c : Char) : Bool :=
  c ≠ '.' && !Text.isBlank c

/-- Reads `$inputs.` and a path. -/
def input? (text : List Char) : Option Reference :=
  (tail? "$inputs." text).map .input

/-- Reads `$steps.`, a step id, `.outputs.` and a path. -/
def stepOutput? (text : List Char) : Option Reference :=
  match after? "$steps." text with
  | none => none
  | some rest =>
    let step := rest.takeWhile isStepChar
    if step.isEmpty then none
    else
      (tail? ".outputs." (rest.dropWhile isStepChar)).map
        (.stepOutput (String.ofList step))

/-- Reads `$response.body`, alone or with a final line feed, with a point and a path, or with a
pointer. -/
def responseBody? (text : List Char) : Option Reference :=
  match after? "$response.body" text with
  | some [] => some (.responseBody "")
  | some ['\n'] => some (.responseBody "")
  | some ('.' :: c :: rest) => some (.responseBody (String.ofList (c :: rest)))
  | some ('#' :: rest) => some (.responseBody (String.ofList ('#' :: rest)))
  | _ => none

/-- Reads `$response.header.` and a name. -/
def responseHeader? (text : List Char) : Option Reference :=
  (tail? "$response.header." text).map .responseHeader

/-- What a text that starts with `$` refers to. -/
def ofText (text : List Char) : Reference :=
  if text = "$statusCode".toList then .statusCode
  else
    ((input? text).or ((stepOutput? text).or ((responseBody? text).or
      (responseHeader? text)))).getD (.unknown (String.ofList text))

end Reference

namespace Expression

/-- The text is written as an expression. -/
def isExpression (text : String) : Bool :=
  text.toList.head? == some '$'

/-- The expression that a whole text is. -/
def ofText? (text : String) : Option Expression :=
  if isExpression text then some ⟨Reference.ofText text.toList, text⟩ else none

/-- The expression that a whole value is; only texts are expressions. -/
def ofValue? (value : Value) : Option Expression :=
  value.str?.bind ofText?

/-- An ASCII letter. -/
def isLetter (c : Char) : Bool :=
  ('a' ≤ c && c ≤ 'z') || ('A' ≤ c && c ≤ 'Z')

/-- A character that continues an expression inside a text. -/
def isTokenChar (c : Char) : Bool :=
  isLetter c || ('0' ≤ c && c ≤ '9') || ['_', '-', '.', '#', '/', '~'].contains c

/-- The tokens of a text: at every `$` before a letter the longest run of token characters,
without the points at its end. -/
def tokens : List Char → List (List Char)
  | [] => []
  | c :: rest =>
    -- no character of a token is a dollar sign, so that no token starts inside of another
    if c = '$' && rest.head?.any isLetter then
      (c :: Text.dropEndWhile (· == '.') (rest.takeWhile isTokenChar)) :: tokens rest
    else tokens rest

/-- The expressions inside a text, in order. -/
def embedded (text : String) : List Expression :=
  (tokens text.toList).map fun token => ⟨Reference.ofText token, String.ofList token⟩

mutual

/-- The expressions inside all texts of a value; the keys of mappings are not searched. -/
def collect : Value → List Expression
  | .str s => embedded s
  | .list items => collectItems items
  | .map entries => collectEntries entries
  | _ => []
termination_by structural value => value

/-- The expressions inside the items of a list. -/
def collectItems : List Value → List Expression
  | [] => []
  | item :: rest => collect item ++ collectItems rest
termination_by structural items => items

/-- The expressions inside the values of a mapping. -/
def collectEntries : List (Value × Value) → List Expression
  | [] => []
  | (_, value) :: rest => collect value ++ collectEntries rest
termination_by structural entries => entries

end

/-- The first of every group of expressions that refer to the same thing, in order. -/
def distinct : List Expression → List Expression :=
  List.foldl
    (fun kept e => if kept.any (·.target == e.target) then kept else kept ++ [e]) []

end Expression

end FlowCheck
