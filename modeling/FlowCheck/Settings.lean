import FlowCheck.Graph.Build
import FlowCheck.Consistency.Suggestion
import FlowCheck.Text.Fold
import FlowCheck.Text.Upper

/-!
# Settings

What a run of the program takes from its environment: how findings and graphs are written, which
edges a graph has, and how similar a suggestion has to be. `Settings` can only hold what is
allowed; `SettingError` says what is wrong with a text that was given for a setting.
-/

namespace FlowCheck

/-- How findings are written. -/
inductive OutputFormat where
  /-- A line for each finding. -/
  | text
  /-- A table. -/
  | table
deriving DecidableEq, Inhabited

/-- How a graph is written. -/
inductive GraphFormat where
  /-- As DOT. -/
  | dot
  /-- As JSON. -/
  | json
  /-- As a Mermaid flowchart. -/
  | mermaid
deriving DecidableEq, Inhabited

namespace OutputFormat

/-- All formats. -/
def all : List OutputFormat := [.text, .table]

/-- The name of a format. -/
def name : OutputFormat → String
  | .text => "text"
  | .table => "table"

/-- The format with a name. -/
def ofName? (name : String) : Option OutputFormat :=
  all.find? fun format => format.name == name

end OutputFormat

namespace GraphFormat

/-- All formats. -/
def all : List GraphFormat := [.dot, .json, .mermaid]

/-- The name of a format. -/
def name : GraphFormat → String
  | .dot => "dot"
  | .json => "json"
  | .mermaid => "mermaid"

/-- The format with a name. -/
def ofName? (name : String) : Option GraphFormat :=
  all.find? fun format => format.name == name

end GraphFormat

/-- The levels from which log records are written. -/
inductive LogLevel where
  | critical | debug | error | info | warn | warning
deriving DecidableEq, Inhabited

namespace LogLevel

/-- All levels, in the order of their names. -/
def all : List LogLevel := [.critical, .debug, .error, .info, .warn, .warning]

/-- The name of a level. -/
def name : LogLevel → String
  | .critical => "CRITICAL"
  | .debug => "DEBUG"
  | .error => "ERROR"
  | .info => "INFO"
  | .warn => "WARN"
  | .warning => "WARNING"

/-- The level with a name. -/
def ofName? (name : String) : Option LogLevel :=
  all.find? fun level => level.name == name

end LogLevel

/-- A bound on similarity above 0 and at most 1. -/
structure Threshold where
  /-- The bound. -/
  value : Binary64
  /-- The bound is above 0. -/
  positive : Binary64.zero.lt value = true
  /-- The bound is at most 1. -/
  atMostOne : value.le .one = true

/-- The bound when none is given. -/
def Threshold.standard : Threshold := ⟨.threeFifths, by decide +kernel, by decide +kernel⟩

instance : Inhabited Threshold := ⟨.standard⟩

/-- What a run takes from its environment. -/
structure Settings where
  /-- The level from which log records are written. -/
  logLevel : LogLevel := .warning
  /-- How findings are written. -/
  outputFormat : OutputFormat := .text
  /-- How a graph is written. -/
  graphFormat : GraphFormat := .mermaid
  /-- Which groups of edges a graph has. -/
  graph : FlowGraph.Options := {}
  /-- How similar a suggestion has to be. -/
  cutoff : Threshold := .standard
deriving Inhabited

/-- What is wrong with the text for a setting. -/
inductive SettingProblem where
  /-- Not the name of a level. -/
  | unknownLevel
  /-- Not one of the names that are allowed. -/
  | unsupported (allowed : List String)
  /-- Not a word for a truth value. -/
  | notTruth
  /-- Not a number. -/
  | notNumber
  /-- A number that is not above 0 and at most 1. -/
  | outOfRange (value : Binary64)
deriving Inhabited

/-- A text for a setting that is not allowed. -/
structure SettingError where
  /-- The name of the setting. -/
  setting : String
  /-- The text. -/
  text : String
  /-- What is wrong with it. -/
  problem : SettingProblem
deriving Inhabited

namespace SettingError

/-- The kind of an error. -/
def kind (error : SettingError) : String :=
  match error.problem with
  | .unknownLevel | .unsupported _ | .outOfRange _ => "value_error"
  | .notTruth => "bool_parsing"
  | .notNumber => "float_parsing"

/-- The message for an error. -/
def message (error : SettingError) : String :=
  match error.problem with
  | .unknownLevel =>
    "Value error, " ++ error.setting ++ "=" ++ Text.quoted error.text ++
      " is not a valid log level. Valid values: " ++
      String.intercalate ", " (LogLevel.all.map (·.name))
  | .unsupported allowed =>
    "Value error, " ++ error.setting ++ "=" ++ Text.quoted error.text ++
      " is not supported. Valid values: " ++ String.intercalate ", " allowed
  | .notTruth => "Input should be a valid boolean, unable to interpret input"
  | .notNumber => "Input should be a valid number, unable to parse string as a number"
  | .outOfRange value =>
    "Value error, " ++ error.setting ++ "=" ++ value.text ++ " must be in (0, 1]"

/-- What the settings are called in reports about them. -/
def title : String := "ArazzoCheckConfig"

/-- A report of errors. -/
def report (errors : List SettingError) : String :=
  let count := s!"{errors.length} validation error" ++ (if errors.length = 1 then "" else "s")
  String.intercalate "\n" ((count ++ " for " ++ title) :: errors.map fun error =>
    error.setting ++ "\n  " ++ error.message ++ " [type=" ++ error.kind ++ ", input_value=" ++
      Text.quoted error.text ++ "]")

end SettingError

end FlowCheck
