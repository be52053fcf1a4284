import FlowCheck.Text.Quoted

/-!
# Faults

What can stop an operation on data whose shape it does not expect. A fault is not a finding about
a document: it says that the data could not be handled at all.
-/

namespace FlowCheck

/-- The reason why data could not be handled. -/
inductive Fault where
  /-- An entry was looked up in something other than a mapping. -/
  | notMapping
  /-- A text was needed and something else was found. -/
  | notText
  /-- Something that holds other values was offered as a name to suggest. -/
  | notName
  /-- Something without a length was compared with a text. -/
  | noLength
  /-- The value has no form in JSON. -/
  | notJson
  /-- An integer has more digits than are ever written or read in decimal. -/
  | numberTooLong
  /-- A scalar that counts as a number is not one. -/
  | notNumber
  /-- A scalar that counts as a number is empty. -/
  | emptyNumber
  /-- A number is larger than all that are handled. -/
  | numberTooLarge
  /-- A scalar that counts as a truth value is not one of its words. -/
  | notTruthValue
  /-- A scalar that counts as a timestamp is not written as one. -/
  | notTimestamp
  /-- A mapping that stands for a scalar counts as a timestamp. -/
  | timestampNotText
  /-- A timestamp names a day or a time of day that does not exist. -/
  | noSuchTime
  /-- An escape names a character that does not exist. -/
  | noSuchCharacter
  /-- A collection contains itself. -/
  | endless
  /-- A directory was found in place of a file. -/
  | isDirectory
  /-- A file was found in place of a directory. -/
  | notDirectory
  /-- The directory of a file to write is not there. -/
  | noDirectory (path : String)
  /-- Something other than a text was to be shown in a listing. -/
  | notShown
  /-- Suggestions were asked for with a limit or a bound that cannot be used. -/
  | badBound
  /-- An edge of a graph leads to or from a node that is not there. -/
  | noSuchNode
deriving DecidableEq, Inhabited

/-- The message for a fault. -/
def Fault.message : Fault → String
  | .notMapping => "an entry was looked up in something other than a mapping"
  | .notText => "a text was needed and something else was found"
  | .notName => "a value that holds other values cannot be suggested"
  | .noLength => "a value without a length was compared with a text"
  | .notJson => "a value has no form in JSON"
  | .numberTooLong => "an integer has too many digits"
  | .notNumber => "a scalar is not a number"
  | .emptyNumber => "a scalar that should be a number is empty"
  | .numberTooLarge => "a number is too large"
  | .notTruthValue => "a scalar is not a truth value"
  | .notTimestamp => "a scalar is not a timestamp"
  | .timestampNotText => "a mapping stands in place of a timestamp"
  | .noSuchTime => "a timestamp names a time that does not exist"
  | .noSuchCharacter => "an escape names a character that does not exist"
  | .endless => "a collection contains itself"
  | .isDirectory => "a directory was found in place of a file"
  | .notDirectory => "a file was found in place of a directory"
  | .noDirectory path => "[Errno 2] No such file or directory: " ++ Text.quoted path
  | .notShown => "something other than a text was to be shown"
  | .badBound => "suggestions were asked for with a bound that cannot be used"
  | .noSuchNode => "an edge leads to or from a node that is not there"

end FlowCheck
