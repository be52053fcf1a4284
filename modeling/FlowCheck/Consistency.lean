import FlowCheck.Consistency.DataFlow
import FlowCheck.Consistency.Parameters

/-!
# Consistency of a document with its sources

Four phases. Errors about what steps refer to end the run; otherwise the findings of the other
phases follow one another.
-/

namespace FlowCheck

/-- The phases of the checks. -/
inductive Phase where
  /-- What steps refer to. -/
  | targets
  /-- The parameters of steps and operations. -/
  | parameters
  /-- The data between steps. -/
  | data
  /-- The schemas of payloads, about which nothing is reported. -/
  | schemas
deriving DecidableEq, Inhabited

/-- The findings of one phase. -/
def Phase.run (phase : Phase) (document : Document) (catalog : Catalog) (cutoff : Cutoff) :
    Except SuggestError Findings :=
  match phase with
  | .targets => checkTargets document catalog cutoff
  | .parameters => SuggestError.stop (checkParameters document catalog)
  | .data => .ok (checkDataFlow document)
  | .schemas => .ok Report.empty

/-- The verdict on a document and its sources. -/
def checkConsistency (document : Document) (catalog : Catalog) (cutoff : Cutoff) :
    Except SuggestError ConsistencyVerdict := do
  let targets ← Phase.targets.run document catalog cutoff
  let verdict := Verdict.empty.extend targets
  if !verdict.errors.isEmpty then return verdict
  [Phase.parameters, .data, .schemas].foldlM
    (fun verdict phase => (phase.run document catalog cutoff).map verdict.extend) verdict

end FlowCheck
