import FlowCheck.Consistency.Finding
import FlowCheck.Folder
import FlowCheck.Yaml.Lines

/-!
# Where workflows and steps stand

The line of every `workflowId` and `stepId` in the text of a document, and findings with these
lines filled in.
-/

namespace FlowCheck

/-- The lines of workflows and steps by their ids. -/
structure Positions where
  /-- The lines of workflows. -/
  workflows : List (String × Nat)
  /-- The lines of steps, by workflow and step. -/
  steps : List ((String × String) × Nat)
deriving Inhabited

namespace Positions

/-- No lines. -/
def empty : Positions := ⟨[], []⟩

/-- The items of a value that is a list. -/
def itemsOf : Value → Option (List Value)
  | .list items => some items
  | _ => none

/-- The entries of a value that is a mapping with a text key. -/
def entriesWith (key : String) : Value → Option Entries
  | .map entries => if Entries.has entries key then some entries else none
  | _ => none

/-- Adds the line of a step of a workflow. -/
def addStep (lines : Yaml.LineMap) (workflow path : String) (positions : Positions)
    (entry : Value × Nat) : Except Fault Positions :=
  match entriesWith "stepId" entry.1, lines.line? [s!"{path}.steps[{entry.2}].stepId"] with
  | some entries, some line => do
    let id ← (Entries.get entries "stepId").text
    return { positions with steps := Keyed.put (workflow, id) line positions.steps }
  | _, _ => .ok positions

/-- Adds the lines of a workflow and its steps. -/
def addWorkflow (lines : Yaml.LineMap) (positions : Positions) (entry : Value × Nat) :
    Except Fault Positions :=
  match entriesWith "workflowId" entry.1 with
  | none => .ok positions
  | some entries => do
    let path := s!"workflows[{entry.2}]"
    let id ← (Entries.get entries "workflowId").text
    let positions :=
      match lines.line? [path ++ ".workflowId"] with
      | some line => { positions with workflows := Keyed.put id line positions.workflows }
      | none => positions
    let steps := (itemsOf (Entries.get entries "steps")).getD []
    steps.zipIdx.foldlM (addStep lines id path) positions

/-- The lines in a text. A text that is not YAML has none. -/
def ofText (text : String) : Except Fault Positions :=
  match Yaml.load text with
  | .error .malformed => .ok empty
  | .error (.fault fault) => .error fault
  | .ok (.map entries) =>
    match itemsOf (Entries.get entries "workflows") with
    | none => .ok empty
    | some workflows => do
      let lines ← Yaml.LineMap.ofText text
      workflows.zipIdx.foldlM (addWorkflow lines) empty
  | .ok _ => .ok empty

/-- The line of a step, or else of its workflow. -/
def line? (positions : Positions) (workflow step : Option String) : Option Nat :=
  match workflow with
  | none => none
  | some workflow =>
    (step.bind fun step => positions.steps.lookup (workflow, step)).or
      (positions.workflows.lookup workflow)

end Positions

/-- A place with its file, and with its line unless it has one. -/
def Place.locate (place : Place) (file : String) (positions : Positions) : Place :=
  { place with
    file := some file
    line := place.line.or ((positions.line? place.workflow place.step).map Int.ofNat) }

/-- Findings with file and lines. -/
def Report.locate (findings : Findings) (file : String) (positions : Positions) : Findings where
  errors := findings.errors.map fun finding =>
    { finding with place := finding.place.locate file positions }
  warnings := findings.warnings.map fun finding =>
    { finding with place := finding.place.locate file positions }

/-- A verdict with file and lines. -/
def Verdict.locate (verdict : ConsistencyVerdict) (file : String) (positions : Positions) :
    ConsistencyVerdict where
  toReport := verdict.toReport.locate file positions
  isValid := verdict.isValid
  isValid_iff := by simp [Report.locate, verdict.isValid_iff]

/-- A verdict on the document with a text, with file and lines. -/
def Verdict.annotate (verdict : ConsistencyVerdict) (file text : String) :
    Except Fault ConsistencyVerdict := do
  let positions ← Positions.ofText text
  return verdict.locate file positions

/-- The text of a file, or the empty text if there is none to read. -/
def Folder.textOrEmpty (folder : Folder) (path : String) : String :=
  match folder.read path with
  | .ok text => text
  | .error _ => ""

end FlowCheck
