import FlowCheck.Consistency.Finding
import FlowCheck.Console.Table
import FlowCheck.Settings

/-!
# Rows of a validation report

A row says where something was found, how bad it is, and what it is. Rows are written as lines or
as a table; a quiet report leaves warnings out.
-/

namespace FlowCheck.Command

/-- How bad a finding is. -/
inductive Severity where
  /-- An error. -/
  | error
  /-- A warning. -/
  | warning
  /-- Something else, by its name. -/
  | other (name : String)
deriving DecidableEq, Inhabited

namespace Severity

/-- The name of a severity. -/
def name : Severity → String
  | .error => "error"
  | .warning => "warning"
  | .other name => name

/-- The severity with a name. -/
def ofName (name : String) : Severity :=
  if name = "error" then .error
  else if name = "warning" then .warning
  else .other name

/-- The style in which a severity is shown. -/
def style : Severity → String
  | .error => "red"
  | _ => "yellow"

end Severity

/-- A row of a report. -/
structure Row where
  /-- How bad it is. -/
  severity : Severity
  /-- The file. -/
  file : String
  /-- The line in the file. -/
  line : Option Int
  /-- What part of the document it is about. -/
  context : String
  /-- What was found. -/
  message : String
  /-- Names that may be meant. -/
  suggestion : Option String := none
deriving DecidableEq, Inhabited

namespace Row

/-- The context of a finding about a step or a workflow. -/
def contextOf (workflow step : Option String) : String :=
  match filled? workflow, filled? step with
  | some workflow, some step => s!"workflow '{workflow}', step '{step}'"
  | some workflow, none => s!"workflow '{workflow}'"
  | none, some step => s!"step '{step}'"
  | none, none => ""

/-- The message with its context. -/
def messageInContext (row : Row) : String :=
  match filled? (some row.context) with
  | some context => row.message ++ s!" (in {context})"
  | none => row.message

/-- The file with the line. -/
def place (row : Row) : String :=
  match row.line with
  | some line => row.file ++ s!":{line}"
  | none => row.file

/-- A row in one line. -/
def text (row : Row) : String :=
  let line := row.place ++ ": " ++ row.severity.name ++ ": " ++ row.messageInContext
  match filled? row.suggestion with
  | some names => line ++ ". Did you mean " ++ names ++ "?"
  | none => line

/-- The row is written in a report. -/
def isShown (quiet : Bool) (row : Row) : Bool :=
  !quiet || row.severity ≠ .warning

/-- The cells of a row in a table. -/
def cells (row : Row) : List String :=
  let line := row.line.filter (· != 0)
  [Console.Markup.escape row.file, (line.map fun n => s!"{n}").getD "-",
    Console.Markup.styled row.severity.style row.severity.name,
    Console.Markup.escape row.messageInContext,
    ((filled? row.suggestion).map Console.Markup.escape).getD "-"]

/-- Rows as lines. -/
def printLines (quiet : Bool) (rows : List Row) : String :=
  String.join ((rows.filter (isShown quiet)).map fun row =>
    Console.printed (Console.Markup.styled row.severity.style (Console.Markup.escape row.text)))

/-- Rows as a table. Without any row there is no table. -/
def printTable (quiet : Bool) (rows : List Row) : String :=
  if rows.isEmpty then ""
  else
    Console.Table.printed {
      title := "Validation Results"
      columns := ["File", "Line", "Severity", "Message", "Suggestion"]
      rows := (rows.filter (isShown quiet)).map cells }

/-- Rows in a format. -/
def print (format : OutputFormat) (quiet : Bool) (rows : List Row) : String :=
  match format with
  | .text => printLines quiet rows
  | .table => printTable quiet rows

end Row

end FlowCheck.Command
