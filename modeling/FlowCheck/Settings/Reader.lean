import FlowCheck.Settings

/-!
# Settings from the environment

Each setting has a variable of its own, whose name may be written in any case. A variable that is
not there leaves the setting as it is by default; the errors of all settings are reported together,
in the order of the settings.
-/

namespace FlowCheck

/-- The variables of an environment with their texts. -/
abbrev Environment := List (String × String)

/-- The name of the variable for a setting, in small letters. -/
def Environment.nameOf (setting : String) : String :=
  "arazzo_check_" ++ setting

/-- The text for a setting, from the last of its variables. -/
def Environment.text? (environment : Environment) (setting : String) : Option String :=
  (environment.reverse.find? fun entry =>
    Text.lower entry.1 == Environment.nameOf setting).map Prod.snd

namespace Settings

/-- A reader for the text of a setting. -/
abbrev TextReader (α : Type) := String → Except SettingProblem α

/-- Reads the name of a level. -/
def readLevel : TextReader LogLevel := fun text =>
  match LogLevel.ofName? (Text.upper text) with
  | some level => .ok level
  | none => .error .unknownLevel

/-- Reads the name of a format of findings. -/
def readOutputFormat : TextReader OutputFormat := fun text =>
  match OutputFormat.ofName? (Text.lower text) with
  | some format => .ok format
  | none => .error (.unsupported (OutputFormat.all.map (·.name)))

/-- Reads the name of a format of graphs. -/
def readGraphFormat : TextReader GraphFormat := fun text =>
  match GraphFormat.ofName? (Text.lower text) with
  | some format => .ok format
  | none => .error (.unsupported (GraphFormat.all.map (·.name)))

/-- The words for truth. -/
def trueWords : List String := ["1", "on", "t", "true", "y", "yes"]

/-- The words for falsehood. -/
def falseWords : List String := ["0", "off", "f", "false", "n", "no"]

/-- Reads a word for a truth value. -/
def readBool : TextReader Bool := fun text =>
  let word := String.ofList (text.toList.map Char.toLower)
  if trueWords.contains word then .ok true
  else if falseWords.contains word then .ok false
  else .error .notTruth

/-- A blank around a number. The information separators are not among them. -/
def isNumberBlank (c : Char) : Bool :=
  Text.isBlank c && !(0x1c ≤ c.toNat && c.toNat ≤ 0x1f)

/-- A text without the underscores between its characters. None may stand at an end or beside
another one. -/
def dropUnderscores (text : List Char) : Option (List Char) :=
  if (text.splitOn '_').all fun part => !part.isEmpty then some (text.filter (· ≠ '_')) else none

/-- The number that a text stands for: with blanks around it, or with underscores in it. -/
def number? (text : String) : Option Binary64 :=
  let trimmed := Text.dropEndWhile isNumberBlank (text.toList.dropWhile isNumberBlank)
  (Binary64.ofText? trimmed).or ((dropUnderscores text.toList).bind Binary64.ofText?)

/-- Reads a bound on similarity. -/
def readThreshold : TextReader Threshold := fun text =>
  match number? text with
  | none => .error .notNumber
  | some value =>
    if h : Binary64.zero.lt value = true ∧ value.le .one = true then .ok ⟨value, h.1, h.2⟩
    else .error (.outOfRange value)

/-- The value of a setting: what its variable says, or the default. -/
def value {α : Type} (environment : Environment) (setting : String) (reader : TextReader α)
    (default : α) : Except SettingError α :=
  match environment.text? setting with
  | none => .ok default
  | some text => (reader text).mapError fun problem => ⟨setting, text, problem⟩

/-- The error of a result. -/
def errorOf {α : Type} : Except SettingError α → List SettingError
  | .ok _ => []
  | .error error => [error]

/-- The names of the settings. -/
def names : List String :=
  ["log_level", "output_format", "graph_format", "conditional_self_loops",
    "data_dependency_edges", "suggestion_cutoff"]

/-- The settings of an environment. -/
def ofEnvironment (environment : Environment) : Except (List SettingError) Settings :=
  let standard : Settings := {}
  let logLevel := value environment "log_level" readLevel standard.logLevel
  let outputFormat := value environment "output_format" readOutputFormat standard.outputFormat
  let graphFormat := value environment "graph_format" readGraphFormat standard.graphFormat
  let loops := value environment "conditional_self_loops" readBool standard.graph.loops
  let dataEdges := value environment "data_dependency_edges" readBool standard.graph.dataEdges
  let cutoff := value environment "suggestion_cutoff" readThreshold standard.cutoff
  match logLevel, outputFormat, graphFormat, loops, dataEdges, cutoff with
  | .ok logLevel, .ok outputFormat, .ok graphFormat, .ok loops, .ok dataEdges, .ok cutoff =>
    .ok { logLevel, outputFormat, graphFormat, graph := { loops, dataEdges }, cutoff }
  | _, _, _, _, _, _ =>
    .error (errorOf logLevel ++ errorOf outputFormat ++ errorOf graphFormat ++ errorOf loops ++
      errorOf dataEdges ++ errorOf cutoff)

/-- The settings that are kept for later. -/
abbrev Cache := Option Settings

/-- The ways to ask for settings. -/
inductive Call where
  /-- Read them, and keep nothing. -/
  | read
  /-- Read them and keep them. -/
  | load
  /-- Take those that are kept, or else read and keep them. -/
  | get
deriving DecidableEq, Inhabited

/-- Reads the settings and keeps them. Settings that cannot be read leave what is kept. -/
def Cache.load (cache : Cache) (environment : Environment) :
    Except (List SettingError) Settings × Cache :=
  match ofEnvironment environment with
  | .ok settings => (.ok settings, some settings)
  | .error errors => (.error errors, cache)

/-- The settings that are kept, or else those of the environment, which are then kept. -/
def Cache.get (cache : Cache) (environment : Environment) :
    Except (List SettingError) Settings × Cache :=
  match cache with
  | some settings => (.ok settings, cache)
  | none => cache.load environment

/-- The answer to a call in an environment, and what is kept after it. -/
def Call.run (call : Call) (cache : Cache) (environment : Environment) :
    Except (List SettingError) Settings × Cache :=
  match call with
  | .read => (ofEnvironment environment, cache)
  | .load => cache.load environment
  | .get => cache.get environment

end Settings

end FlowCheck
