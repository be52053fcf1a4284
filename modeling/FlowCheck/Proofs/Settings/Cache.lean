import FlowCheck.Proofs.Result
import FlowCheck.Settings.Reader
import Mathlib.Data.List.Induction

/-!
# Settings over a history of calls

Settings are asked for by calls that come one after the other, each in an environment of its own.
An environment has settings exactly if every variable that it sets says something allowed, and
then they are what the variables say (`ofEnvironment_eq_ok_iff`). After any history of calls the
settings that are kept are those that were loaded last or, if none were loaded, those that were got
first (`after_eq`), so that every call is answered from the history and its own environment
(`run_after`).

## Main definitions

* `Settings.IsAskedBy`: the settings are what the variables of an environment say;
* `Settings.kept?`: the settings that a history of calls leaves, told without the cache;
* `Settings.Call.Answers`: what a call after a history comes to.
-/

namespace FlowCheck

/-! ## Names -/

/-- Where every item is found by its name, an item is found by a text exactly if this is its
name. -/
theorem find?_name_eq_some_iff {α : Type} {all : List α} {name : α → String}
    (hall : ∀ item, (all.find? fun other => name other == name item) = some item) {text : String}
    {item : α} : (all.find? fun other => name other == text) = some item ↔ name item = text := by
  constructor
  · intro h
    simpa using List.find?_some h
  · rintro rfl
    exact hall item

/-- A level is found by its name. -/
theorem LogLevel.ofName?_eq_some_iff {text : String} {level : LogLevel} :
    ofName? text = some level ↔ level.name = text :=
  find?_name_eq_some_iff fun item => by cases item <;> rfl

/-- A format of findings is found by its name. -/
theorem OutputFormat.ofName?_eq_some_iff {text : String} {format : OutputFormat} :
    ofName? text = some format ↔ format.name = text :=
  find?_name_eq_some_iff fun item => by cases item <;> rfl

/-- A format of graphs is found by its name. -/
theorem GraphFormat.ofName?_eq_some_iff {text : String} {format : GraphFormat} :
    ofName? text = some format ↔ format.name = text :=
  find?_name_eq_some_iff fun item => by cases item <;> rfl

/-- What an environment says about a setting: the text for it has a property, or there is none and
the default holds. -/
def Environment.Says (environment : Environment) (setting : String) (property : String → Prop)
    (default : Prop) : Prop :=
  match environment.text? setting with
  | some text => property text
  | none => default

namespace Settings

/-! ## Readers -/

/-- The words for a truth value. -/
def wordsFor (truth : Bool) : List String :=
  if truth then trueWords else falseWords

/-- A text in the small letters in which the words for truth values are written. -/
def wordOf (text : String) : String :=
  String.ofList (text.toList.map Char.toLower)

/-- The text is read as a level exactly if its upper case is the name of the level. -/
theorem readLevel_eq_ok_iff {text : String} {level : LogLevel} :
    readLevel text = .ok level ↔ level.name = Text.upper text := by
  rw [readLevel, ← LogLevel.ofName?_eq_some_iff]
  cases LogLevel.ofName? (Text.upper text) <;> simp

/-- The text is read as a format of findings exactly if its small letters are the name. -/
theorem readOutputFormat_eq_ok_iff {text : String} {format : OutputFormat} :
    readOutputFormat text = .ok format ↔ format.name = Text.lower text := by
  rw [readOutputFormat, ← OutputFormat.ofName?_eq_some_iff]
  cases OutputFormat.ofName? (Text.lower text) <;> simp

/-- The text is read as a format of graphs exactly if its small letters are the name. -/
theorem readGraphFormat_eq_ok_iff {text : String} {format : GraphFormat} :
    readGraphFormat text = .ok format ↔ format.name = Text.lower text := by
  rw [readGraphFormat, ← GraphFormat.ofName?_eq_some_iff]
  cases GraphFormat.ofName? (Text.lower text) <;> simp

/-- No word stands for both truth values. -/
theorem notMem_falseWords {word : String} (h : word ∈ trueWords) : word ∉ falseWords := by
  have hdisjoint : ∀ word ∈ trueWords, word ∉ falseWords := by decide
  exact hdisjoint word h

/-- The text is read as a truth value exactly if it is one of its words. -/
theorem readBool_eq_ok_iff {text : String} {truth : Bool} :
    readBool text = .ok truth ↔ wordOf text ∈ wordsFor truth := by
  rw [readBool, ← wordOf]
  simp only [List.contains_iff_mem]
  split
  · next htrue => cases truth <;> simp [wordsFor, htrue, notMem_falseWords htrue]
  · next htrue =>
    split
    · next hfalse => cases truth <;> simp [wordsFor, htrue, hfalse]
    · next hfalse => cases truth <;> simp [wordsFor, htrue, hfalse]

/-- The text is read as a bound exactly if it stands for the number of the bound. Numbers that are
not above 0 and at most 1, infinities and what is not a number are no bounds. -/
theorem readThreshold_eq_ok_iff {text : String} {bound : Threshold} :
    readThreshold text = .ok bound ↔ number? text = some bound.value := by
  obtain ⟨value, hpositive, hatMostOne⟩ := bound
  rw [readThreshold]
  cases number? text with
  | none => simp
  | some found =>
    by_cases hrange : Binary64.zero.lt found = true ∧ found.le .one = true
    · simp [hrange]
    · have hne : found ≠ value := fun heq => hrange (heq ▸ ⟨hpositive, hatMostOne⟩)
      simp [hrange, hne]

/-- A setting has the value that its variable says, or the default. -/
theorem value_eq_ok_iff {α : Type} {reader : TextReader α} {property : String → Prop}
    {default x : α} (hreader : ∀ text, reader text = .ok x ↔ property text)
    (environment : Environment) (setting : String) :
    value environment setting reader default = .ok x ↔
      environment.Says setting property (x = default) := by
  rw [value, Environment.Says]
  cases environment.text? setting with
  | none => simpa using eq_comm
  | some text =>
    exact Result.mapError_eq_ok_iff.trans (hreader text)

/-! ## Settings of an environment -/

/-- The settings are those that an environment asks for: what the variable of each setting says, or
the default where there is no variable. -/
structure IsAskedBy (settings : Settings) (environment : Environment) : Prop where
  /-- The level has the name that is given, in any case. -/
  logLevel : environment.Says "log_level" (settings.logLevel.name = Text.upper ·)
    (settings.logLevel = .warning)
  /-- The format of findings has the name that is given, in any case. -/
  outputFormat : environment.Says "output_format" (settings.outputFormat.name = Text.lower ·)
    (settings.outputFormat = .text)
  /-- The format of graphs has the name that is given, in any case. -/
  graphFormat : environment.Says "graph_format" (settings.graphFormat.name = Text.lower ·)
    (settings.graphFormat = .mermaid)
  /-- A word for the truth value is given. -/
  loops : environment.Says "conditional_self_loops" (wordOf · ∈ wordsFor settings.graph.loops)
    (settings.graph.loops = true)
  /-- A word for the truth value is given. -/
  dataEdges : environment.Says "data_dependency_edges"
    (wordOf · ∈ wordsFor settings.graph.dataEdges) (settings.graph.dataEdges = false)
  /-- The bound is the number that is given. -/
  cutoff : environment.Says "suggestion_cutoff" (number? · = some settings.cutoff.value)
    (settings.cutoff = .standard)

/-- The settings are allowed: level and formats are among the known ones, and the bound is above 0
and at most 1. -/
structure IsAllowed (settings : Settings) : Prop where
  /-- The level has one of six names in upper case. -/
  logLevel : settings.logLevel.name ∈ ["DEBUG", "INFO", "WARNING", "WARN", "ERROR", "CRITICAL"]
  /-- The format of findings has one of two names in lower case. -/
  outputFormat : settings.outputFormat.name ∈ ["text", "table"]
  /-- The format of graphs has one of three names in lower case. -/
  graphFormat : settings.graphFormat.name ∈ ["dot", "json", "mermaid"]
  /-- The bound is above 0. -/
  positive : Binary64.zero.lt settings.cutoff.value = true
  /-- The bound is at most 1. -/
  atMostOne : settings.cutoff.value.le .one = true

/-- An environment has settings exactly if they are what it asks for; there are none if a text is
not allowed. -/
theorem ofEnvironment_eq_ok_iff {environment : Environment} {settings : Settings} :
    ofEnvironment environment = .ok settings ↔ settings.IsAskedBy environment := by
  have hlevel := @value_eq_ok_iff _ readLevel _ LogLevel.warning settings.logLevel
    (fun _ => readLevel_eq_ok_iff) environment "log_level"
  have houtput := @value_eq_ok_iff _ readOutputFormat _ OutputFormat.text settings.outputFormat
    (fun _ => readOutputFormat_eq_ok_iff) environment "output_format"
  have hgraph := @value_eq_ok_iff _ readGraphFormat _ GraphFormat.mermaid settings.graphFormat
    (fun _ => readGraphFormat_eq_ok_iff) environment "graph_format"
  have hloops := @value_eq_ok_iff _ readBool _ true settings.graph.loops
    (fun _ => readBool_eq_ok_iff) environment "conditional_self_loops"
  have hdata := @value_eq_ok_iff _ readBool _ false settings.graph.dataEdges
    (fun _ => readBool_eq_ok_iff) environment "data_dependency_edges"
  have hcutoff := @value_eq_ok_iff _ readThreshold _ Threshold.standard settings.cutoff
    (fun _ => readThreshold_eq_ok_iff) environment "suggestion_cutoff"
  constructor
  · intro h
    rw [ofEnvironment] at h
    split at h
    · next h₁ h₂ h₃ h₄ h₅ h₆ =>
      obtain rfl := Except.ok.inj h
      exact ⟨hlevel.1 h₁, houtput.1 h₂, hgraph.1 h₃, hloops.1 h₄, hdata.1 h₅, hcutoff.1 h₆⟩
    · cases h
  · intro h
    rw [ofEnvironment, hlevel.2 h.logLevel, houtput.2 h.outputFormat, hgraph.2 h.graphFormat,
      hloops.2 h.loops, hdata.2 h.dataEdges, hcutoff.2 h.cutoff]

/-- Settings are allowed, whatever they were read from. -/
theorem isAllowed (settings : Settings) : settings.IsAllowed where
  logLevel := by cases settings.logLevel <;> decide
  outputFormat := by cases settings.outputFormat <;> decide
  graphFormat := by cases settings.graphFormat <;> decide
  positive := settings.cutoff.positive
  atMostOne := settings.cutoff.atMostOne

/-! ## Histories -/

/-- Calls that were made one after the other, each with the environment at its time. -/
abbrev History := List (Call × Environment)

/-- What is kept after a history of calls. -/
def Cache.after (start : Cache) (history : History) : Cache :=
  history.foldl (fun cache entry => (entry.1.run cache entry.2).2) start

/-- The settings of the environment of a call, if there are any and the call is of a kind. -/
def readBy (kind : Call) (entry : Call × Environment) : Option Settings :=
  if entry.1 = kind then (ofEnvironment entry.2).toOption else none

/-- The settings that a history leaves: those of the latest call that loaded some, or else of the
first call that got some. -/
def kept? (history : History) : Option Settings :=
  (history.filterMap (readBy .load)).getLast?.or (history.filterMap (readBy .get)).head?

variable {history : History} {call : Call} {environment : Environment} {settings : Settings}

/-- What one call keeps: settings that it loads, else those that are kept, else settings that it
gets. -/
theorem Call.run_snd (call : Call) (cache : Cache) (environment : Environment) :
    (call.run cache environment).2 =
      (readBy .load (call, environment)).or (cache.or (readBy .get (call, environment))) := by
  cases call with
  | read => simp [Call.run, readBy]
  | load =>
    cases hread : ofEnvironment environment <;>
      simp [Call.run, Cache.load, readBy, hread, Except.toOption]
  | get =>
    cases cache <;> cases hread : ofEnvironment environment <;>
      simp [Call.run, Cache.get, Cache.load, readBy, hread, Except.toOption]

/-- What is kept after a history: settings that were loaded last, or else those that were kept
before it, or else those that were got first. -/
theorem Cache.after_eq (start : Cache) (history : History) :
    Cache.after start history =
      (history.filterMap (readBy .load)).getLast?.or
        (start.or (history.filterMap (readBy .get)).head?) := by
  induction history using List.reverseRecOn with
  | nil => simp [after]
  | append_singleton history entry ih =>
    rw [after, List.foldl_append, List.foldl_cons, List.foldl_nil, ← after, Call.run_snd, ih]
    -- the last call counts first among those that load, and last among those that get
    cases hload : readBy .load entry <;> cases hget : readBy .get entry <;>
      simp [hload, hget]

/-- The settings that a history leaves were read from the environment of one of its calls. -/
theorem exists_isAskedBy_of_kept? (h : kept? history = some settings) :
    ∃ entry ∈ history, settings.IsAskedBy entry.2 := by
  have hread : ∃ kind, ∃ entry ∈ history, readBy kind entry = some settings := by
    rw [kept?, Option.or_eq_some_iff] at h
    rcases h with hload | ⟨-, hget⟩
    · exact ⟨.load, List.mem_filterMap.1 (List.mem_of_getLast? hload)⟩
    · exact ⟨.get, List.mem_filterMap.1 (List.mem_of_head? hget)⟩
  obtain ⟨kind, entry, hmem, hentry⟩ := hread
  refine ⟨entry, hmem, ofEnvironment_eq_ok_iff.1 ?_⟩
  rw [readBy] at hentry
  split at hentry
  · cases hsettings : ofEnvironment entry.2 with
    | ok found => simpa [hsettings, Except.toOption] using hentry
    | error errors => simp [hsettings, Except.toOption] at hentry
  · cases hentry

/-- What a call after a history comes to: an answer, and what is kept from then on. -/
structure Call.Answers (call : Call) (history : History) (environment : Environment)
    (answer : Except (List SettingError) Settings) (next : Cache) : Prop where
  /-- A call that fails leaves what is kept. -/
  failed : ∀ errors, answer = .error errors → next = kept? history
  /-- A call that only reads settings leaves what is kept. -/
  read : call = .read → next = kept? history
  /-- The other calls keep what they answer. -/
  keeps : call ≠ .read → ∀ settings, answer = .ok settings → next = some settings
  /-- A call that gets settings answers those that the history leaves, if it leaves some. -/
  got : call = .get → ∀ settings, kept? history = some settings → answer = .ok settings
  /-- Every other call answers the settings of its environment. -/
  reads : (call = .get → kept? history = none) →
    ∀ settings, answer = .ok settings ↔ settings.IsAskedBy environment
  /-- All settings that are answered are asked for by some environment up to this call. -/
  asked : ∀ settings, answer = .ok settings →
    ∃ entry ∈ history ++ [(call, environment)], settings.IsAskedBy entry.2
  /-- All settings that are answered are allowed. -/
  allowed : ∀ settings, answer = .ok settings → settings.IsAllowed

/-- What one call does. To get settings where some are kept answers these. Every other call reads
its environment: if it has no settings, nothing changes, and else they are answered and, unless
they are only read, kept. -/
theorem Call.run_cases (call : Call) (cache : Cache) (environment : Environment) :
    (∃ settings, call = .get ∧ cache = some settings ∧
        call.run cache environment = (.ok settings, some settings)) ∨
      (call = .get → cache = none) ∧
        ((∃ errors, ofEnvironment environment = .error errors ∧
            call.run cache environment = (.error errors, cache)) ∨
          ∃ settings, ofEnvironment environment = .ok settings ∧
            call.run cache environment =
              (.ok settings, if call = .read then cache else some settings)) := by
  cases call with
  | read => cases hread : ofEnvironment environment <;> simp [run, hread]
  | load => cases hread : ofEnvironment environment <;> simp [run, Cache.load, hread]
  | get =>
    cases cache with
    | some settings => exact .inl ⟨settings, rfl, rfl, rfl⟩
    | none => cases hread : ofEnvironment environment <;> simp [run, Cache.get, Cache.load, hread]

/-- Settings are got that are kept already. -/
theorem Call.answers_kept (environment : Environment) (h : kept? history = some settings) :
    Call.get.Answers history environment (.ok settings) (some settings) where
  failed := by simp
  read := by simp
  keeps := by
    rintro - other ⟨⟩
    rfl
  got := by
    intro _ other hother
    rw [Option.some.inj (h.symm.trans hother)]
  reads := by
    intro hnone
    cases h.symm.trans (hnone rfl)
  asked := by
    rintro other ⟨⟩
    obtain ⟨entry, hmem, hentry⟩ := exists_isAskedBy_of_kept? h
    exact ⟨entry, List.mem_append_left _ hmem, hentry⟩
  allowed other _ := other.isAllowed

/-- A call reads an environment that has no settings. -/
theorem Call.answers_error {errors : List SettingError}
    (hreads : call = .get → kept? history = none) (h : ofEnvironment environment = .error errors) :
    call.Answers history environment (.error errors) (kept? history) where
  failed _ _ := rfl
  read _ := rfl
  keeps := by simp
  got := by
    intro hget settings hkept
    cases hkept.symm.trans (hreads hget)
  reads := by
    intro _ settings
    rw [← ofEnvironment_eq_ok_iff, h]
  asked := by simp
  allowed := by simp

/-- A call reads an environment that has settings. -/
theorem Call.answers_ok (hreads : call = .get → kept? history = none)
    (h : ofEnvironment environment = .ok settings) :
    call.Answers history environment (.ok settings)
      (if call = .read then kept? history else some settings) where
  failed := by simp
  read := by
    rintro rfl
    rfl
  keeps := by
    rintro hread other ⟨⟩
    exact if_neg hread
  got := by
    intro hget other hkept
    cases hkept.symm.trans (hreads hget)
  reads := by
    intro _ other
    rw [← ofEnvironment_eq_ok_iff, h]
  asked := by
    rintro other ⟨⟩
    exact ⟨(call, environment), List.mem_append_right _ (List.mem_singleton_self _),
      ofEnvironment_eq_ok_iff.1 h⟩
  allowed other _ := other.isAllowed

/-- Whatever calls were made before, each in its own environment: a call that fails and one that
only reads settings leave what is kept; getting settings answers those that were loaded last or, if
none were loaded, got first, and looks at the environment only where there are none; and all
settings that are ever answered are those that some environment asked for, and are allowed. -/
theorem Call.run_after (history : History) (call : Call) (environment : Environment) :
    call.Answers history environment
      (call.run (Cache.after none history) environment).1
      (call.run (Cache.after none history) environment).2 := by
  -- the calls before count only by the settings that they leave
  have hafter : Cache.after none history = kept? history := by
    rw [Cache.after_eq, Option.none_or, kept?]
  rw [hafter]
  rcases call.run_cases (kept? history) environment with
    ⟨settings, rfl, hkept, hrun⟩ | ⟨hreads, ⟨errors, herrors, hrun⟩ | ⟨settings, hfound, hrun⟩⟩
  · rw [hrun]
    exact Call.answers_kept environment hkept
  · rw [hrun]
    exact Call.answers_error hreads herrors
  · rw [hrun]
    exact Call.answers_ok hreads hfound

/-- After settings were loaded, a level that does not exist makes the next load fail, which leaves
them as they are. They are then got, whatever the environment says by that time. -/
theorem run_after_failure :
    let debug : Environment := [("ARAZZO_CHECK_LOG_LEVEL", "debug")]
    let loud : Environment := [("ARAZZO_CHECK_LOG_LEVEL", "loud")]
    let info : Environment := [("ARAZZO_CHECK_LOG_LEVEL", "info")]
    ∃ settings errors, settings.IsAskedBy debug ∧ settings.logLevel = .debug ∧
      Call.load.run (Cache.after none [(.load, debug)]) loud = (.error errors, some settings) ∧
      Call.get.run (Cache.after none [(.load, debug), (.load, loud)]) info =
        (.ok settings, some settings) := by
  intro debug loud info
  obtain ⟨settings, hsettings, hlevel⟩ :
      ∃ settings, ofEnvironment debug = .ok settings ∧ settings.logLevel = .debug :=
    ⟨_, rfl, rfl⟩
  obtain ⟨errors, herrors⟩ : ∃ errors, ofEnvironment loud = .error errors := ⟨_, rfl⟩
  have hkept : kept? [(.load, debug)] = some settings := by
    simp [kept?, readBy, hsettings, Except.toOption]
  have hkept' : kept? [(.load, debug), (.load, loud)] = some settings := by
    simp [kept?, readBy, hsettings, herrors, Except.toOption]
  have hload := Call.run_after [(.load, debug)] .load loud
  have hget := Call.run_after [(.load, debug), (.load, loud)] .get info
  have hfailed : (Call.load.run (Cache.after none [(.load, debug)]) loud).1 = .error errors := by
    simp [Call.run, Cache.load, herrors]
  have hgot := hget.got rfl settings hkept'
  exact ⟨settings, errors, ofEnvironment_eq_ok_iff.1 hsettings, hlevel,
    Prod.ext hfailed ((hload.failed errors hfailed).trans hkept),
    Prod.ext hgot (hget.keeps (by decide) settings hgot)⟩

end Settings

end FlowCheck
