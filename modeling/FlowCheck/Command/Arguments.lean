import FlowCheck.Command.Flag

/-!
# Arguments

The words of a command line are taken one after the other: flags with their values, one plain
word, and words that are left over.
-/

namespace FlowCheck.Command

/-- Why reading a command line ends without a request. -/
inductive Stop where
  /-- Help is asked for. -/
  | help
  /-- The command line is not understood. -/
  | misuse (error : UsageError)
deriving DecidableEq, Inhabited

/-- Arguments that were taken. -/
structure Arguments where
  /-- The long names of the flags with their values. -/
  values : List (String × String) := []
  /-- The plain word. -/
  operand : Option String := none
  /-- The words that are left over. -/
  others : List String := []
deriving DecidableEq, Inhabited

/-- The flag that asks for help. -/
def Flag.help : Flag := { long := "--help", short := some "-h" }

/-- What a word gives: flags with values, and perhaps one that still needs its value. -/
structure Given where
  /-- The flags with their values. -/
  values : List (Flag × String) := []
  /-- The flag that needs a value. -/
  waiting : Option Flag := none
  /-- The end of the word, if it names no flag. -/
  other : Option String := none

namespace Given

/-- Puts a flag without a value in front. -/
def cons (flag : Flag) (given : Given) : Given :=
  { given with values := (flag, "") :: given.values }

/-- A flag in a word of its own. -/
def single (flag : Flag) : Given :=
  if flag.value.isSome then { waiting := some flag } else { values := [(flag, "")] }

/-- A flag with more in its word: the value, which may follow an equals sign, or the short names
of further flags. -/
def joined (flags : List Flag) (name : String) (flag : Flag) (equals : Bool)
    (rest : List Char) : Except UsageError Given :=
  let whole := String.ofList rest
  if flag.value.isSome then .ok { values := [(flag, whole)] }
  else
    match rest with
    | [] => .error (.extraValue name whole)
    | c :: tail =>
      if name.length ≠ 2 || equals || c = '-' then .error (.extraValue name whole)
      else
        let next := String.ofList ['-', c]
        match Flag.named? flags next with
        | none => .ok { values := [(flag, "")], other := some ("-" ++ whole) }
        | some following =>
          match tail with
          | [] => .ok ((single following).cons flag)
          | '=' :: value => (joined flags next following true value).map (cons flag)
          | tail => (joined flags next following false tail).map (cons flag)
termination_by rest.length

/-- What a flag with what stands in its word gives. -/
def ofWord (flags : List Flag) (name : String) (flag : Flag) (value : Option (Bool × List Char)) :
    Except UsageError Given :=
  match value with
  | none => .ok (single flag)
  | some (equals, value) => joined flags name flag equals value

/-- Puts the next word, if it is plain, after a flag that needs a value. The words that are then
left are a part of those that were there. -/
def complete (given : Given) (words : List Word) :
    Except UsageError (List (Flag × String) × { rest : List Word // rest.length ≤ words.length }) :=
  match given.waiting, words with
  | none, words => .ok (given.values, ⟨words, Nat.le_refl _⟩)
  | some flag, .plain text :: rest =>
    .ok (given.values ++ [(flag, text)], ⟨rest, by simp⟩)
  | some flag, _ => .error (.noValue flag.long)

end Given

namespace Arguments

/-- Takes a flag with its value. -/
def take (arguments : Arguments) (entry : Flag × String) : Except Stop Arguments :=
  if entry.1 = Flag.help then .error .help
  else
    match entry.1.check entry.2 with
    | .error error => .error (.misuse error)
    | .ok () => .ok { arguments with values := arguments.values ++ [(entry.1.long, entry.2)] }

/-- Sets a word aside. -/
def setAside (arguments : Arguments) (text : String) : Arguments :=
  { arguments with others := arguments.others ++ [text] }

/-- Takes the flags up to the first plain word or separator, and sets aside the words between them
that name no flag. What is left of the words follows. -/
def takeFlags (flags : List Flag) (arguments : Arguments) (words : List Word) :
    Except Stop (Arguments × { rest : List Word // rest.length ≤ words.length }) :=
  match words with
  | .unknown text :: rest => do
    let (arguments, rest) ← takeFlags flags (arguments.setAside text) rest
    return (arguments, ⟨rest.1, Nat.le_succ_of_le rest.2⟩)
  | .named _ name flag value :: rest => do
    let given ← (Given.ofWord flags name flag value).mapError Stop.misuse
    let (values, left) ← (given.complete rest).mapError Stop.misuse
    let arguments ← values.foldlM take (given.other.toList.foldl setAside arguments)
    let (arguments, last) ← takeFlags flags arguments left.1
    return (arguments, ⟨last.1, Nat.le_succ_of_le (Nat.le_trans last.2 left.2)⟩)
  | words => .ok (arguments, ⟨words, Nat.le_refl _⟩)
termination_by words.length
decreasing_by
  · simp
  · exact Nat.lt_succ_of_le left.2

/-- Takes a plain word: the first one is the operand, and others are set aside. -/
def takePlain (arguments : Arguments) (text : String) : Arguments :=
  match arguments.operand with
  | none => { arguments with operand := some text }
  | some _ => arguments.setAside text

/-- Takes words. A separator on either side of the operand goes with it. -/
def read (flags : List Flag) (arguments : Arguments) (words : List Word) :
    Except Stop Arguments := do
  let (arguments, ⟨rest, _⟩) ← takeFlags flags arguments words
  match _ : rest with
  | [] => return arguments
  | .separator :: .plain text :: rest =>
    if arguments.operand.isNone then read flags (arguments.takePlain text) rest
    else read flags (arguments.setAside "--") (.plain text :: rest)
  | .plain text :: .separator :: rest =>
    if arguments.operand.isNone then read flags (arguments.takePlain text) rest
    else read flags (arguments.setAside text) (.separator :: rest)
  | .plain text :: rest => read flags (arguments.takePlain text) rest
  | word :: rest => read flags (arguments.setAside word.text) rest
termination_by words.length
decreasing_by all_goals simp_all <;> omega

/-- The value of a flag: the last one that was given. -/
def value? (arguments : Arguments) (flag : Flag) : Option String :=
  arguments.values.reverse.lookup flag.long

/-- All values of a flag. -/
def all (arguments : Arguments) (flag : Flag) : List String :=
  (arguments.values.filter (·.1 == flag.long)).map Prod.snd

/-- The flag was given. -/
def has (arguments : Arguments) (flag : Flag) : Bool :=
  (arguments.value? flag).isSome

end Arguments

end FlowCheck.Command
