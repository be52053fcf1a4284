import FlowCheck.Console.Notice
import FlowCheck.Folder
import FlowCheck.Sources

/-!
# Outcomes

What a run leads to: an exit code, what it prints, and a file that it asks to have written.
-/

namespace FlowCheck.Command

/-- How a run ends. -/
inductive ExitCode where
  /-- There is nothing to complain about. -/
  | clean
  /-- There are findings. -/
  | findings
  /-- The input cannot be used. -/
  | badInput
deriving DecidableEq, Inhabited

/-- The number of an exit code. -/
def ExitCode.toNat : ExitCode → Nat
  | .clean => 0
  | .findings => 1
  | .badInput => 2

/-- What a run leads to. -/
structure Outcome where
  /-- How the run ends. -/
  code : ExitCode
  /-- The text for the standard output. -/
  out : String := ""
  /-- The text for the error console. -/
  err : String := ""
  /-- The path and the text of a file to write. -/
  save : Option (String × String) := none
deriving DecidableEq, Inhabited

namespace Outcome

/-- The input cannot be used, for the reason in `text`. -/
def refused (title text : String) : Outcome :=
  { code := .badInput, err := Console.failure title text }

/-- The files after the one that the run asks for is written. -/
def saved (outcome : Outcome) (folder : Folder) : Except Fault Folder :=
  match outcome.save with
  | none => .ok folder
  | some (path, text) => folder.write path text

end Outcome

/-- Goes on with a document that could be loaded. Of one that could not the user is told. -/
def withLoaded {α : Type} (title : String) (loaded : Except LoadError α)
    (next : α → Except Fault Outcome) : Except Fault Outcome :=
  match loaded with
  | .ok a => next a
  | .error (.fault fault) => .error fault
  | .error error => .ok (Outcome.refused title error.message)

/-- Goes on with the workflow document at a path. -/
def withDocument (folder : Folder) (path : String) (next : Document → Except Fault Outcome) :
    Except Fault Outcome :=
  withLoaded "Could not load Arazzo document" (Document.load folder path) next

end FlowCheck.Command
