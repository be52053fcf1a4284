import FlowCheck.Command
import FlowCheck.Proofs.Command.Rows

/-!
# The exit code of a validation

A request to validate ends as bad input exactly if the settings, the document or an API description
of the command line cannot be read. Otherwise its exit code is told by the numbers of errors and
warnings that are found, and these do not depend on how they are written.
-/

namespace FlowCheck

open Result

namespace Command

variable {folder : Folder}

/-- The input of a request cannot be used: the settings, the document, or an API description of the
command line cannot be read. -/
def Validate.IsUnusable (request : Validate) (environment : Environment) (folder : Folder) : Prop :=
  (∃ errors, Settings.ofEnvironment environment = .error errors) ∨
    (∃ error, Document.load folder request.document = .error error) ∨
      ∃ extra ∈ request.extra, ∃ error, Api.load folder extra.path = .error error

/-- The catalog with the API descriptions of the command line. -/
def extended (folder : Folder) (catalog : Catalog) (extra : List NamedPath) :
    Except LoadError Catalog :=
  extra.foldlM (fun catalog extra => (Api.load folder extra.path).map (catalog.add extra.name))
    catalog

/-- What a request to validate looks at: its input, and what is found about the consistency. -/
structure Validate.Inspection (request : Validate) (environment : Environment)
    (folder : Folder) where
  /-- The settings. -/
  settings : Settings
  /-- The document. -/
  document : Document
  /-- The sources of the document. -/
  named : SourceResult
  /-- All API descriptions. -/
  catalog : Catalog
  /-- The verdict on the consistency. -/
  verdict : ConsistencyVerdict
  /-- The settings are those of the environment. -/
  settings_eq : Settings.ofEnvironment environment = .ok settings
  /-- The document is the one that is asked for. -/
  document_eq : Document.load folder request.document = .ok document
  /-- The sources are those of the document. -/
  named_eq : loadSources folder request.document document.sources Catalog.empty = .ok named
  /-- The API descriptions of the command line come after the sources. -/
  catalog_eq : extended folder named.catalog request.extra = .ok catalog
  /-- The document is checked against all API descriptions. -/
  verdict_eq : checkConsistency document catalog (.real settings.cutoff.value) = .ok verdict

namespace Validate.Inspection

variable {request : Validate} {environment : Environment}

/-- The graphs of the workflows. -/
def graphs (seen : request.Inspection environment folder) : List FlowGraph :=
  Validation.graphsOf seen.document seen.catalog seen.settings.graph

/-- The number of errors: those about the consistency, and those about the graphs. -/
def errorCount (seen : request.Inspection environment folder) : ℕ :=
  seen.verdict.errors.length + (seen.graphs.map fun graph => graph.verdict.errors.length).sum

/-- The number of warnings: sources that could not be loaded, those about the consistency, and
those about the graphs. -/
def warningCount (seen : request.Inspection environment folder) : ℕ :=
  seen.named.errors.length +
    (seen.verdict.warnings.length + (seen.graphs.map FlowGraph.warningCount).sum)

end Validate.Inspection

/-! ## Reports -/

/-- The line that tells the numbers of errors and warnings. -/
def countLine (errors warnings : ℕ) : String :=
  Console.printed ("\nValidation complete: " ++ String.intercalate ", "
    (Validation.counted "red" "error" errors ++ Validation.counted "yellow" "warning" warnings))

/-- The line that tells that there is neither an error nor a warning. -/
def validLine : String :=
  Console.printed (Console.Markup.styled "green" "All workflows valid.")

/-- The report of an outcome tells the numbers of errors and warnings in its last line. If there
are none, the report tells so, and is empty if it is quiet. -/
structure Outcome.Reports (outcome : Outcome) (errors warnings : ℕ) (quiet : Bool) : Prop where
  /-- The last line tells the numbers. -/
  counted : 0 < errors + warnings → ∃ report, outcome.out = report ++ countLine errors warnings
  /-- The last line tells that there is nothing to tell. -/
  valid : errors + warnings = 0 → quiet = false → ∃ report, outcome.out = report ++ validLine
  /-- A quiet report with nothing to tell is empty. -/
  silent : errors + warnings = 0 → quiet = true → outcome.out = ""

/-- What is printed about a validation reports its numbers. -/
theorem Validation.Counts.reports {validation : Validation} {errors warnings : ℕ}
    (h : validation.Counts errors warnings) {outcome : Outcome} {file : String}
    {format : OutputFormat} {quiet : Bool}
    (hout : outcome.out = validation.print file format quiet) :
    outcome.Reports errors warnings quiet := by
  have hrows := h.rows_eq_nil_iff
  constructor
  · -- there are rows, so the summary counts them, quiet or not
    intro hpos
    have hsome : validation.rows.isEmpty = false := by
      rw [List.isEmpty_eq_false_iff, Ne, hrows]
      omega
    rw [hout, Validation.print, Validation.summary, hsome, h.errors, h.warnings]
    exact ⟨_, rfl⟩
  · rintro hzero rfl
    have hnil : validation.rows = [] := hrows.2 (by omega)
    rw [hout, Validation.print, Validation.summary, hnil]
    exact ⟨_, rfl⟩
  · rintro hzero rfl
    have hnil : validation.rows = [] := hrows.2 (by omega)
    rw [hout, Validation.print, Validation.summary, hnil]
    cases format <;> rfl

/-- The exit code of a validation. -/
theorem Validation.Counts.exitCode {validation : Validation} {errors warnings : ℕ}
    (h : validation.Counts errors warnings) (strict : Bool) :
    validation.exitCode strict =
      if 0 < errors ∨ strict = true ∧ 0 < warnings then .findings else .clean := by
  rw [Validation.exitCode, h.errors, h.warnings]
  cases strict <;> by_cases herrors : 0 < errors <;> by_cases hwarnings : 0 < warnings <;>
    simp [herrors, hwarnings]

/-! ## Input that cannot be used -/

/-- A run that goes no further: the input is refused, or reading it stops. -/
def IsRefusal (result : Except Fault Outcome) : Prop :=
  ∀ outcome, result = .ok outcome → outcome.code = .badInput

/-- A run that stops goes no further. -/
theorem isRefusal_error (fault : Fault) : IsRefusal (.error fault) :=
  fun _ h => by cases h

/-- A run whose input is refused goes no further. -/
theorem isRefusal_refused (title text : String) : IsRefusal (.ok (Outcome.refused title text)) :=
  fun _ h => by cases h; rfl

/-- Where something could not be loaded, what would come next does not matter. -/
theorem withLoaded_error (α : Type) (title : String) (error : LoadError) :
    ∃ result, IsRefusal result ∧
      ∀ next : α → Except Fault Outcome, withLoaded title (.error error) next = result := by
  cases error with
  | fault fault => exact ⟨_, isRefusal_error fault, fun _ => rfl⟩
  | _ => exact ⟨_, isRefusal_refused title _, fun _ => rfl⟩

/-- The API descriptions of the command line are loaded, or one of them cannot be loaded and what
would come next does not matter. -/
theorem withExtra_cases (folder : Folder) (catalog : Catalog) (extra : List NamedPath) :
    (∃ last, extended folder catalog extra = .ok last ∧
      ∀ next, Validate.withExtra folder catalog next extra = next last) ∨
    (∃ error, extended folder catalog extra = .error error) ∧
      ∃ result, IsRefusal result ∧
        ∀ next, Validate.withExtra folder catalog next extra = result := by
  -- the catalog grows with each description, and the first that is missing ends the run
  induction extra generalizing catalog with
  | nil => exact .inl ⟨catalog, rfl, fun _ => rfl⟩
  | cons first rest ih =>
    rw [extended, List.foldlM_cons]
    simp only [Validate.withExtra]
    cases Api.load folder first.path with
    | error error =>
      obtain ⟨result, hrefusal, hresult⟩ := withLoaded_error Api _ error
      exact .inr ⟨⟨error, rfl⟩, result, hrefusal, fun _ => hresult _⟩
    | ok api => exact ih (catalog.add first.name api)

/-- The API descriptions of the command line cannot be loaded exactly if one of them cannot be. -/
theorem exists_extended_eq_error_iff {catalog : Catalog} {extra : List NamedPath} :
    (∃ error, extended folder catalog extra = .error error) ↔
      ∃ one ∈ extra, ∃ error, Api.load folder one.path = .error error := by
  have hall : (∃ last, extended folder catalog extra = .ok last) ↔
      ∀ one ∈ extra, ∃ api, Api.load folder one.path = .ok api :=
    exists_foldlM_eq_ok_iff (fun catalog one _ => by simp [map_eq_ok_iff]) catalog
  simp only [exists_error_iff, hall]
  push Not
  rfl

/-! ## Runs -/

variable {request : Validate} {environment : Environment}

/-- The input of a request can be used when everything in it is read. -/
theorem Validate.not_isUnusable {settings : Settings} {document : Document}
    {start catalog : Catalog} (hsettings : Settings.ofEnvironment environment = .ok settings)
    (hdocument : Document.load folder request.document = .ok document)
    (hcatalog : extended folder start request.extra = .ok catalog) :
    ¬ request.IsUnusable environment folder := by
  rintro (⟨errors, herrors⟩ | ⟨error, herror⟩ | hextra)
  · cases hsettings.symm.trans herrors
  · cases hdocument.symm.trans herror
  · obtain ⟨error, herror⟩ := exists_extended_eq_error_iff.2 hextra
    cases hcatalog.symm.trans herror

/-- The three ways in which requests that differ only in how the report is written can run. -/
inductive Validate.Course (request : Validate) (environment : Environment) (folder : Folder) :
    (Bool → Option OutputFormat → Except Fault Outcome) → Prop where
  /-- The input cannot be used. -/
  | refused {result : Except Fault Outcome} :
    request.IsUnusable environment folder → IsRefusal result →
      Course request environment folder fun _ _ => result
  /-- The input can be used, and the run stops. -/
  | stopped (fault : Fault) :
    ¬ request.IsUnusable environment folder →
      Course request environment folder fun _ _ => .error fault
  /-- The run ends with the exit code and the report for what is found. -/
  | ended (seen : request.Inspection environment folder) {validation : Validation}
    (written : Option OutputFormat → OutputFormat) :
    ¬ request.IsUnusable environment folder →
      validation.Counts seen.errorCount seen.warningCount →
        Course request environment folder fun quiet format => .ok {
          code := validation.exitCode request.strict
          out := validation.print request.document (written format) quiet }

/-- A request to validate takes one course when the document is loaded. -/
theorem Validate.course_of_document {settings : Settings} {document : Document}
    (hsettings : Settings.ofEnvironment environment = .ok settings)
    (hdocument : Document.load folder request.document = .ok document) :
    request.Course environment folder fun quiet format =>
      Validate.run { request with quiet, format } settings folder := by
  simp only [Validate.run, withDocument, hdocument, withLoaded]
  cases hnamed : loadSources folder request.document document.sources Catalog.empty with
  | error fault =>
    -- the run stops at a source before the API descriptions of the command line are read
    by_cases hunusable : request.IsUnusable environment folder
    · exact .refused hunusable (isRefusal_error fault)
    · exact .stopped fault hunusable
  | ok named =>
    simp only [ok_bind]
    rcases withExtra_cases folder named.catalog request.extra with
      ⟨catalog, hcatalog, hnext⟩ | ⟨herror, result, hrefusal, hresult⟩
    · have husable := not_isUnusable hsettings hdocument hcatalog
      simp only [hnext]
      cases hfound : Validation.ofDocument settings request.document
          (folder.textOrEmpty request.document) document catalog with
      | error fault => exact .stopped fault husable
      | ok found =>
        obtain ⟨verdict, hverdict, hcounts⟩ := Validation.counts_ofDocument hfound
        have hall := (Validation.counts_sourceRows request.document named.errors).append hcounts
        rw [Nat.zero_add] at hall
        let seen : request.Inspection environment folder :=
          ⟨settings, document, named, catalog, verdict, hsettings, hdocument, hnamed, hcatalog,
            hverdict⟩
        exact .ended seen (fun format => format.getD settings.outputFormat) husable hall
    · simp only [hresult]
      exact .refused (.inr (.inr (exists_extended_eq_error_iff.1 herror))) hrefusal

/-- A request to validate takes one course, however the report is to be written. -/
theorem Validate.course_runIn (request : Validate) (environment : Environment) (folder : Folder) :
    request.Course environment folder fun quiet format =>
      (Request.validate { request with quiet, format }).runIn environment folder := by
  simp only [Request.runIn]
  cases hsettings : Settings.ofEnvironment environment with
  | error errors => exact .refused (.inl ⟨errors, hsettings⟩) (isRefusal_refused _ _)
  | ok settings =>
    simp only [Request.run]
    cases hdocument : Document.load folder request.document with
    | error error =>
      obtain ⟨result, hrefusal, hresult⟩ :=
        withLoaded_error Document "Could not load Arazzo document" error
      simp only [Validate.run, withDocument, hdocument, hresult]
      exact .refused (.inr (.inl ⟨error, hdocument⟩)) hrefusal
    | ok document => exact course_of_document hsettings hdocument

/-- How a run of a request to validate ends. The exit code is 2 exactly if the settings, the
document or an API description of the command line cannot be read. Otherwise it is 1 if there is an
error, or if warnings count like errors and there is one, and 0 if not. The exit code and the
reported numbers are the same for a quiet report and for every format. -/
theorem Validate.runIn_exitCode {outcome : Outcome}
    (h : (Request.validate request).runIn environment folder = .ok outcome) :
    (outcome.code.toNat = 2 ↔ request.IsUnusable environment folder) ∧
    (request.IsUnusable environment folder → ∀ quiet format,
      (Request.validate { request with quiet, format }).runIn environment folder =
        .ok outcome) ∧
    (¬ request.IsUnusable environment folder →
      ∃ seen : request.Inspection environment folder,
        (outcome.code.toNat = 1 ↔
          0 < seen.errorCount ∨ request.strict = true ∧ 0 < seen.warningCount) ∧
        (outcome.code.toNat = 0 ↔
          ¬ (0 < seen.errorCount ∨ request.strict = true ∧ 0 < seen.warningCount)) ∧
        ∀ quiet format, ∃ other,
          (Request.validate { request with quiet, format }).runIn environment folder =
            .ok other ∧
          other.code = outcome.code ∧
          other.Reports seen.errorCount seen.warningCount quiet) := by
  have hcourse := course_runIn request environment folder
  generalize hrun : (fun quiet format =>
    (Request.validate { request with quiet, format }).runIn environment folder) = run at hcourse
  have hruns (quiet : Bool) (format : Option OutputFormat) :
      (Request.validate { request with quiet, format }).runIn environment folder =
        run quiet format := congrFun (congrFun hrun quiet) format
  simp only [hruns]
  -- the request is one of those that differ only in how the report is written
  replace h : run request.quiet request.format = .ok outcome := by
    rw [← hruns]
    exact h
  cases hcourse with
  | refused hunusable hrefusal =>
    have hcode := hrefusal outcome h
    refine ⟨?_, fun _ _ _ => h, fun husable => absurd hunusable husable⟩
    simp [hcode, ExitCode.toNat, hunusable]
  | stopped fault => cases h
  | ended seen written husable hcounts =>
    cases h
    rw [hcounts.exitCode]
    refine ⟨?_, fun hunusable => absurd hunusable husable, fun _ => ⟨seen, ?_, ?_, ?_⟩⟩
    · rw [iff_false_right husable]
      split <;> simp [ExitCode.toNat]
    · split <;> simp [ExitCode.toNat, *]
    · split <;> simp [ExitCode.toNat, *]
    · exact fun quiet format => ⟨_, rfl, rfl, hcounts.reports rfl⟩

/-- The text of a document whose source is in a file that is not there. -/
def sourcelessText : String :=
  "arazzo: 1.0.0\ninfo:\n  title: Pings\n  version: a\n" ++
    "sourceDescriptions:\n- name: pings\n  url: pings.yaml\nworkflows: []\n"

/-- A folder with that document. -/
def sourcelessFolder : Folder :=
  ⟨"/", [("/flow.yaml", sourcelessText)]⟩

/-- A request to validate that document, where warnings count like errors. -/
def sourcelessRequest : Validate :=
  { document := "flow.yaml", strict := true }

/-- The warning about the source counts, also where it is not written. -/
theorem runIn_sourceless :
    ∃ outcome,
      (Request.validate sourcelessRequest).runIn [] sourcelessFolder = .ok outcome ∧
      outcome.code.toNat = 1 ∧ ¬ sourcelessRequest.IsUnusable [] sourcelessFolder ∧
      ∃ other,
        (Request.validate { sourcelessRequest with quiet := true, format := some .table }).runIn []
          sourcelessFolder = .ok other ∧ other.code.toNat = 1 := by
  have hcode : ((Request.validate sourcelessRequest).runIn [] sourcelessFolder).map (·.code) =
      .ok .findings := by
    decide +kernel
  obtain ⟨outcome, hrun, hfindings⟩ := map_eq_ok_iff.1 hcode
  obtain ⟨hbad, -, hends⟩ := Validate.runIn_exitCode hrun
  have husable : ¬ sourcelessRequest.IsUnusable [] sourcelessFolder := by
    rw [← hbad, hfindings]
    decide
  obtain ⟨seen, -, -, hother⟩ := hends husable
  obtain ⟨other, hsame, hcodes, -⟩ := hother true (some .table)
  exact ⟨outcome, hrun, by rw [hfindings]; rfl, husable, other, hsame,
    by rw [hcodes, hfindings]; rfl⟩

end Command

end FlowCheck
