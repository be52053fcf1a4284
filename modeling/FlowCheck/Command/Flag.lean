import FlowCheck.Text.Quoted

/-!
# Flags and words of a command line

A word of a command line names a flag, or is plain. A flag has a long name after two dashes, which
may be cut short, and perhaps a short name after one. Its value follows in the next word, after an
equals sign, or directly after the short name; short names of flags without a value may be written
together. After a word of two dashes all words are plain.
-/

namespace FlowCheck.Command

/-- An API description that is named on the command line. -/
structure NamedPath where
  /-- The name of the source. -/
  name : String
  /-- The path of the file. -/
  path : String
deriving DecidableEq, Inhabited

/-- The name and the path on the two sides of the first equals sign; neither may be empty. -/
def NamedPath.ofText? (text : String) : Option NamedPath :=
  let name := text.toList.takeWhile (· ≠ '=')
  let path := (text.toList.dropWhile (· ≠ '=')).drop 1
  if name.isEmpty || path.isEmpty then none
  else some ⟨String.ofList name, String.ofList path⟩

/-- The message for a text that is no name with a path. -/
def NamedPath.expected (text : String) : String :=
  "expected NAME=PATH, got " ++ Text.quoted text

/-- What the value of a flag has to be. -/
inductive ValueRule where
  /-- Any text. -/
  | any
  /-- One of these words. -/
  | oneOf (words : List String)
  /-- A name with a path. -/
  | namedPath
deriving DecidableEq, Inhabited

/-- A flag. -/
structure Flag where
  /-- The long name, with its dashes. -/
  long : String
  /-- The short name, with its dash. -/
  short : Option String := none
  /-- What the value has to be; `none` for a flag without a value. -/
  value : Option ValueRule := none
deriving DecidableEq, Inhabited

/-- Why a command line is not understood. -/
inductive UsageError where
  /-- A word is the start of several flags. -/
  | ambiguous (word : String)
  /-- A flag has no value after it. -/
  | noValue (flag : String)
  /-- A flag that takes no value has one. -/
  | extraValue (flag value : String)
  /-- The value of a flag is not one of the words that are allowed. -/
  | badChoice (flag value : String)
  /-- The value of a flag is no name with a path. -/
  | notNamedPath (flag value : String)
  /-- A word that has to be there is not. -/
  | missing (what : String)
  /-- There is no command of this name. -/
  | unknownCommand (name : String)
  /-- These words are not understood. -/
  | unrecognized (words : List String)
deriving DecidableEq, Inhabited

/-- The message for a command line that is not understood. -/
def UsageError.message : UsageError → String
  | .ambiguous word => s!"ambiguous option: {word}"
  | .noValue flag => s!"argument {flag}: expected one argument"
  | .extraValue flag value =>
    s!"argument {flag}: ignored explicit argument " ++ Text.quoted value
  | .badChoice flag value => s!"argument {flag}: invalid choice: " ++ Text.quoted value
  | .notNamedPath flag value => s!"argument {flag}: " ++ NamedPath.expected value
  | .missing what => s!"the following arguments are required: {what}"
  | .unknownCommand name => "argument command: invalid choice: " ++ Text.quoted name
  | .unrecognized words => "unrecognized arguments: " ++ String.intercalate " " words

namespace Flag

/-- The names of a flag. -/
def names (flag : Flag) : List String :=
  flag.long :: flag.short.toList

/-- The flag with a name. -/
def named? (flags : List Flag) (name : String) : Option Flag :=
  flags.find? fun flag => flag.names.contains name

/-- Says why a text cannot be the value of a flag. -/
def check (flag : Flag) (text : String) : Except UsageError Unit :=
  match flag.value with
  | some (.oneOf words) =>
    if words.contains text then .ok () else .error (.badChoice flag.long text)
  | some .namedPath =>
    if (NamedPath.ofText? text).isSome then .ok () else .error (.notNamedPath flag.long text)
  | _ => .ok ()

end Flag

/-- A word of a command line. -/
inductive Word where
  /-- A word that names no flag. -/
  | plain (text : String)
  /-- Two dashes. -/
  | separator
  /-- A word that has the form of a flag and names none. -/
  | unknown (text : String)
  /-- A flag under one of its names, perhaps with more in the same word: after an equals sign, or
  directly after the name. -/
  | named (text name : String) (flag : Flag) (value : Option (Bool × List Char))
deriving Inhabited

namespace Word

/-- The word as it is written. -/
def text : Word → String
  | .plain text => text
  | .separator => "--"
  | .unknown text => text
  | .named text _ _ _ => text

/-- The parts of a word before and after its first equals sign. -/
def splitValue (text : List Char) : String × Option (List Char) :=
  let name := String.ofList (text.takeWhile (· ≠ '='))
  match text.dropWhile (· ≠ '=') with
  | '=' :: value => (name, some value)
  | _ => (name, none)

/-- The readings of a word as a flag whose long name is cut short. -/
def longReadings (flags : List Flag) (text : List Char) : List Word :=
  let (start, value) := splitValue text
  (flags.filter fun flag => start.toList.isPrefixOf flag.long.toList).map fun flag =>
    .named (String.ofList text) flag.long flag (value.map (true, ·))

/-- The readings of a word as a flag with a short name and what stands after it. -/
def shortReadings (flags : List Flag) (text : List Char) : List Word :=
  let name := String.ofList (text.take 2)
  (flags.filter (·.short == some name)).map fun flag =>
    .named (String.ofList text) name flag (some (false, text.drop 2))

/-- The readings of a word as an abbreviation. -/
def readings (flags : List Flag) (text : List Char) : List Word :=
  if text.take 2 = ['-', '-'] then longReadings flags text else shortReadings flags text

/-- A dash and a number. -/
def isNegativeNumber (text : List Char) : Bool :=
  let body := text.drop 1
  let fraction := (body.dropWhile Char.isDigit).drop 1
  !body.isEmpty &&
    (body.all Char.isDigit ||
      ((body.dropWhile Char.isDigit).head? == some '.' && !fraction.isEmpty &&
        fraction.all Char.isDigit))

/-- The exact reading of a word that starts with a dash. -/
def byFullName? (flags : List Flag) (text : List Char) : Option Word :=
  let whole := String.ofList text
  let (name, value) := splitValue text
  match Flag.named? flags whole, Flag.named? flags name with
  | some flag, _ => some (.named whole whole flag none)
  | none, some flag => value.map fun value => .named whole name flag (some (true, value))
  | none, none => none

/-- Reads a word that stands before any separator. -/
def read (flags : List Flag) (text : String) : Except UsageError Word :=
  let chars := text.toList
  if chars.head? ≠ some '-' || text = "-" then .ok (.plain text)
  else
    match byFullName? flags chars, readings flags chars with
    | some word, _ => .ok word
    | none, [word] => .ok word
    | none, _ :: _ => .error (.ambiguous text)
    | none, [] =>
      if isNegativeNumber chars || chars.contains ' ' then .ok (.plain text)
      else .ok (.unknown text)

/-- Reads words up to a separator; those after it are plain. -/
def readAll (flags : List Flag) : List String → Except UsageError (List Word)
  | [] => .ok []
  | text :: rest =>
    if text = "--" then .ok (.separator :: rest.map .plain)
    else do
      let word ← read flags text
      let words ← readAll flags rest
      return word :: words

end Word

end FlowCheck.Command
