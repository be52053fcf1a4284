import FlowCheck.Console.Panel

/-!
# Notices

How the end of a run is told to its user: a failure as a panel with the details below it, and a
success in one line. Where the text of a failure shows a common cause, the panel names the cause
and what to do about it.
-/

namespace FlowCheck.Console

/-- A common cause of failures. -/
structure Cause where
  /-- The text of a failure, with case folded, shows the cause. -/
  shows : List Char → Bool
  /-- What is wrong. -/
  message : String
  /-- What to do about it. -/
  action : String

namespace Cause

/-- One of the words stands in the text. -/
def anyOf (words : List String) (text : List Char) : Bool :=
  words.any (Text.holds text)

/-- The words stand in the text one after the other, on one line. -/
def onOneLine (first second : String) (text : List Char) : Bool :=
  (text.splitOn '\n').any fun line =>
    (Text.after? first.toList line).any fun rest => Text.holds rest second

/-- The common causes. The first that shows counts. -/
def all : List Cause :=
  [
    ⟨anyOf ["file not found", "no such file"], "File not found",
      "Check the path, relative source URLs resolve against the Arazzo file's directory"⟩,
    ⟨anyOf ["failed to parse yaml"], "The file is not valid YAML",
      "Fix the syntax error at the line reported below"⟩,
    ⟨anyOf ["unsupported arazzo version"], "Unsupported Arazzo version",
      "Only Arazzo 1.x documents are supported, check the `arazzo` field"⟩,
    ⟨anyOf ["unsupported openapi version"], "Unsupported OpenAPI version",
      "Only OpenAPI 3.0.x and 3.1.x documents are supported"⟩,
    ⟨anyOf ["duplicate workflowid", "duplicate stepid"], "Duplicate identifier",
      "Workflow ids must be unique in the document, step ids within their workflow"⟩,
    ⟨anyOf ["must specify one of", "more than one operation reference"],
      "Step operation reference",
      "Give each step exactly one of operationId, operationPath or workflowId"⟩,
    ⟨anyOf ["remote urls are not supported"], "Remote source description",
      "Download the OpenAPI document and pass it with `--openapi NAME=PATH`"⟩,
    ⟨onOneLine "validation error" " for arazzocheckconfig",
      "Invalid ARAZZO_CHECK_* environment setting",
      "Fix or unset the environment variable named below"⟩
  ]

/-- The cause that the text of a failure shows. -/
def detect? (text : String) : Option Cause :=
  let folded := Text.fold text.toList
  all.find? fun cause => cause.shows folded

end Cause

/-- The number of lines of details that are shown, from the end. -/
def shownDetails : Nat := 10

/-- The details of a failure: the last lines of its text. -/
def details (text : String) : List String :=
  let lines := Text.lines (String.ofList (Text.trim text.toList))
  lines.drop (lines.length - shownDetails)

/-- The text of the panel for a failure. -/
def failurePanel (title text : String) : String :=
  match Cause.detect? text with
  | some cause => "✗ " ++ title ++ "\n\n" ++ cause.message ++ "\n\n→ Fix: " ++ cause.action ++ "\n"
  | none => "✗ " ++ title

/-- What is printed about a failure. -/
def failure (title text : String) : String :=
  let lines := (details text).map fun line =>
    printed ("  [dim]│[/dim] " ++ Markup.escape line)
  "\n" ++ panel (failurePanel title text).toList ++ printed "\n[dim]Details:[/dim]" ++
    String.join lines ++ "\n"

/-- What is printed about a success. -/
def success (message : String) : String :=
  printed ("[green]✓[/green] " ++ Markup.escape message)

end FlowCheck.Console
