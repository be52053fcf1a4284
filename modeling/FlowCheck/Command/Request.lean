import FlowCheck.Command.Arguments
import FlowCheck.Settings

/-!
# Requests

What a command line asks for: one of three commands with its options.
-/

namespace FlowCheck.Command

/-- The request to validate a document. -/
structure Validate where
  /-- The path of the document. -/
  document : String
  /-- API descriptions beside those that the document names. -/
  extra : List NamedPath := []
  /-- How findings are written. -/
  format : Option OutputFormat := none
  /-- Warnings count like errors. -/
  strict : Bool := false
  /-- Only errors and the summary are written. -/
  quiet : Bool := false
deriving DecidableEq, Inhabited

/-- The request to draw the graph of a workflow. -/
structure Visualize where
  /-- The path of the document. -/
  document : String
  /-- The id of the workflow; the first one counts if there is none. -/
  workflow : Option String := none
  /-- How the graph is written. -/
  format : Option GraphFormat := none
  /-- The file for the graph. -/
  output : Option String := none
deriving DecidableEq, Inhabited

/-- A request. -/
inductive Request where
  /-- Validate a document. -/
  | validate (request : Validate)
  /-- Draw the graph of a workflow. -/
  | visualize (request : Visualize)
  /-- List the workflows and steps of a document. -/
  | list (document : String)
deriving DecidableEq, Inhabited

namespace Flag

/-- The level of log records. -/
def logLevel : Flag :=
  { long := "--log-level"
    value := some (.oneOf ["DEBUG", "INFO", "WARNING", "ERROR", "CRITICAL"]) }

/-- A further API description. -/
def openapi : Flag := { long := "--openapi", value := some .namedPath }

/-- How findings are written. -/
def outputFormat : Flag :=
  { long := "--format", value := some (.oneOf (OutputFormat.all.map (·.name))) }

/-- Warnings count like errors. -/
def warningsAsErrors : Flag := { long := "--warnings-as-errors", short := some "-W" }

/-- Only errors and the summary. -/
def quiet : Flag := { long := "--quiet", short := some "-q" }

/-- The id of a workflow. -/
def workflow : Flag := { long := "--workflow", value := some .any }

/-- How a graph is written. -/
def graphFormat : Flag :=
  { long := "--format", value := some (.oneOf (GraphFormat.all.map (·.name))) }

/-- The file for a graph. -/
def output : Flag := { long := "--output", short := some "-o", value := some .any }

end Flag

namespace Request

/-- The flags before the name of a command. -/
def mainFlags : List Flag := [.help, .logLevel]

/-- The flags of `validate`. -/
def validateFlags : List Flag :=
  [.help, .openapi, .outputFormat, .warningsAsErrors, .quiet]

/-- The flags of `visualize`. -/
def visualizeFlags : List Flag := [.help, .workflow, .graphFormat, .output]

/-- The flags of `list`. -/
def listFlags : List Flag := [.help]

/-- How the program is called. -/
def usage : String :=
  String.intercalate "\n" [
    "usage: arazzo-check [-h] [--log-level LEVEL] COMMAND ...",
    "",
    "  validate DOCUMENT [--openapi NAME=PATH]... [--format text|table]",
    "           [--warnings-as-errors | -W] [--quiet | -q]",
    "  visualize DOCUMENT [--workflow ID] [--format dot|json|mermaid] [--output | -o FILE]",
    "  list DOCUMENT"]

/-- The arguments of a command and the path of its document. -/
def readOperands (flags : List Flag) (words : List String) : Except Stop (Arguments × String) := do
  let words ← (Word.readAll flags words).mapError Stop.misuse
  let arguments ← Arguments.read flags {} words
  match arguments.operand with
  | some document => return (arguments, document)
  | none => .error (.misuse (.missing "arazzo"))

/-- Reads the words after `validate`. -/
def readValidate (words : List String) : Except Stop (Request × List String) := do
  let (arguments, document) ← readOperands validateFlags words
  let request := {
    document
    extra := (arguments.all .openapi).filterMap NamedPath.ofText?
    format := (arguments.value? .outputFormat).bind OutputFormat.ofName?
    strict := arguments.has .warningsAsErrors
    quiet := arguments.has .quiet }
  return (.validate request, arguments.others)

/-- Reads the words after `visualize`. -/
def readVisualize (words : List String) : Except Stop (Request × List String) := do
  let (arguments, document) ← readOperands visualizeFlags words
  let request := {
    document
    workflow := arguments.value? .workflow
    format := (arguments.value? .graphFormat).bind GraphFormat.ofName?
    output := arguments.value? .output }
  return (.visualize request, arguments.others)

/-- Reads the words after `list`. -/
def readList (words : List String) : Except Stop (Request × List String) := do
  let (arguments, document) ← readOperands listFlags words
  return (.list document, arguments.others)

/-- Reads a command and the words after it. -/
def readCommand (name : String) (words : List String) : Except Stop (Request × List String) :=
  match name with
  | "validate" => readValidate words
  | "visualize" => readVisualize words
  | "list" => readList words
  | _ => .error (.misuse (.unknownCommand name))

/-- Reads a command line. -/
def read (words : List String) : Except Stop Request := do
  let words ← (Word.readAll mainFlags words).mapError Stop.misuse
  let (before, ⟨command, _⟩) ← Arguments.takeFlags mainFlags {} words
  match command.map (·.text) with
  | [] => .error (.misuse (.missing "command"))
  | name :: rest =>
    let (request, others) ← readCommand name rest
    let others := before.others ++ others
    if others.isEmpty then return request
    else .error (.misuse (.unrecognized others))

end Request

end FlowCheck.Command
