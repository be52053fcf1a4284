import FlowCheck.Text.Upper

/-!
# Levels of log records

Records from the two parts of the program go to one handler. A level is given as a number or as
the name of one, in any case; a name that is not known counts as a warning.
-/

namespace FlowCheck.Logging

/-- A level as it is asked for. -/
inductive Level where
  /-- The number of a level. -/
  | number (n : Int)
  /-- The name of a level. -/
  | name (text : String)
deriving DecidableEq, Inhabited

/-- The level of warnings. -/
def warning : Int := 30

/-- The levels that have a name. -/
def named : List (String × Int) :=
  [("CRITICAL", 50), ("FATAL", 50), ("ERROR", 40), ("WARN", 30), ("WARNING", 30), ("INFO", 20),
    ("DEBUG", 10), ("NOTSET", 0)]

/-- The number of a level. -/
def Level.toInt : Level → Int
  | .number n => n
  | .name text => (named.lookup (Text.upper text)).getD warning

/-- What writes records. -/
structure Handler where
  /-- Records below the level are dropped. -/
  level : Int
  /-- How a record is written. -/
  format : String
deriving DecidableEq, Inhabited

/-- Where records of one part of the program go. -/
structure Logger where
  /-- The name of the part. -/
  name : String
  /-- Records below the level are dropped. -/
  level : Int
  /-- Records also go to the handlers of all parts. -/
  propagates : Bool
  /-- The handlers. -/
  handlers : List Handler
deriving DecidableEq, Inhabited

/-- The parts of the program. -/
def parts : List String := ["arazzo_common", "arazzo_core"]

/-- The handler for a level. -/
def handlerFor (level : Level) : Handler :=
  ⟨level.toInt, "%(name)s: %(message)s"⟩

/-- The loggers for a level. A handler that was there before is replaced. -/
def configure (level : Level) : List Logger :=
  let handler := handlerFor level
  parts.map fun name => ⟨name, handler.level, false, [handler]⟩

end FlowCheck.Logging
