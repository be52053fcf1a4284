import FlowCheck.Document
import FlowCheck.Expression

/-!
# References between steps

The expressions that a step holds, and the steps whose outputs it needs. The request of a step is
made of its parameter values and its payload; the checks look also at the replacements in the
payload and at the conditions for success.
-/

namespace FlowCheck

/-- A group of texts under a name. -/
abbrev Groups := List (String × List String)

/-- Adds a text to the group of a name; a new name comes last. -/
def addToGroup (name text : String) : Groups → Groups
  | [] => [(name, [text])]
  | (n, texts) :: rest =>
    if n == name then (n, texts ++ [text]) :: rest else (n, texts) :: addToGroup name text rest

/-- Adds an expression that refers to an output of a step to the group of that step. -/
def addReference (groups : Groups) (e : Expression) : Groups :=
  match e.target with
  | .stepOutput id _ => addToGroup id e.raw groups
  | _ => groups

namespace Step

/-- The values of the parameters and the payload. -/
def requestValues (step : Step) : List Value :=
  step.parameters.map (·.value) ++ (step.requestBody.map fun body => body.payload).toList

/-- The values that the checks look at. -/
def checkedValues (step : Step) : List Value :=
  step.parameters.map (·.value) ++
    (step.requestBody.map fun body => [body.payload, body.replacements]).getD [] ++
    (step.criteria.getD []).flatMap fun criterion =>
      [criterion.context, .str criterion.condition, criterion.value]

/-- The distinct expressions in the values that the checks look at, in order. -/
def expressions (step : Step) : List Expression :=
  Expression.distinct (Expression.collectItems step.checkedValues)

/-- The steps whose outputs the request needs, in the order of their first occurrence, each with
the texts of the expressions that refer to it. -/
def dependencies (step : Step) : Groups :=
  (Expression.collectItems step.requestValues).foldl addReference []

end Step

end FlowCheck
