import FlowCheck.Graph.Sorting
import FlowCheck.Report
import FlowCheck.Value.Display

/-!
# Checks of a flow graph

A graph with a cycle is not valid. Nodes that nothing leads to and several ends are worth a
warning, and a valid graph is told its order.
-/

namespace FlowCheck

/-- Why a graph is not valid. -/
inductive GraphError where
  /-- There is a cycle. -/
  | cyclic
  /-- There is no order; the step is the first without a place in it. -/
  | noOrder (step : String)
deriving DecidableEq, Inhabited

/-- The message for a step without a place in the order. -/
def GraphError.noPlace (step : String) : String :=
  s!"cycle detected at step '{step}'"

/-- The message for an error. -/
def GraphError.message : GraphError → String
  | .cyclic => "Graph contains cycles (not a DAG)"
  | .noOrder step => "Failed to compute topological order: " ++ noPlace step

/-- What is worth knowing about a graph. -/
inductive GraphWarning where
  /-- Nothing leads to these steps. -/
  | unreachable (steps : List String)
  /-- Nothing follows these steps. -/
  | deadEnds (steps : List String)
  /-- The steps in order. -/
  | order (steps : List String)
deriving DecidableEq, Inhabited

/-- The message for a warning. -/
def GraphWarning.message : GraphWarning → String
  | .unreachable steps =>
    s!"Found {steps.length} unreachable nodes: " ++ Value.listing steps
  | .deadEnds steps =>
    s!"Found {steps.length} nodes with no outgoing edges: " ++ Value.listing steps
  | .order steps => "Topological order: " ++ String.intercalate " → " steps

/-- What is said about a graph in the end. -/
abbrev GraphVerdict := Verdict GraphError GraphWarning

namespace FlowGraph

/-- The verdict on a graph whose links are between its nodes. -/
def verdict (graph : FlowGraph) : GraphVerdict :=
  let ids := List.map graph.stepId
  let unreachable := ids graph.unreachable
  let deadEnds := ids graph.deadEnds
  let verdict : GraphVerdict := Verdict.empty
  let verdict := if graph.cycle?.isSome then verdict.addError .cyclic else verdict
  let verdict :=
    if unreachable.isEmpty then verdict else verdict.addWarning (.unreachable unreachable)
  let verdict :=
    if deadEnds.length > 1 then verdict.addWarning (.deadEnds deadEnds) else verdict
  match graph.order with
  | .ok order => verdict.addWarning (.order (ids order))
  | .error stuck => verdict.addError (.noOrder (graph.stepId stuck))

/-- The results of all checks, with step ids for nodes. -/
structure Checks where
  /-- The verdict. -/
  verdict : GraphVerdict
  /-- The steps of a cycle. -/
  cycle : Option (List String)
  /-- The steps in order, or the first step without a place. -/
  order : Except String (List String)
  /-- The steps that nothing leads to. -/
  unreachable : List String
  /-- The steps that nothing follows. -/
  deadEnds : List String

/-- All checks of a graph. A link to or from a node that is not there stops them. -/
def checks (graph : FlowGraph) : Except Fault Checks :=
  if graph.linksInRange then
    let ids := List.map graph.stepId
    .ok {
      verdict := graph.verdict
      cycle := graph.cycle?.map ids
      order := (graph.order.map ids).mapError graph.stepId
      unreachable := ids graph.unreachable
      deadEnds := ids graph.deadEnds }
  else .error .noSuchNode

end FlowGraph

end FlowCheck
