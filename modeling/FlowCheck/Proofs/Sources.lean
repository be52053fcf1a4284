import FlowCheck.Proofs.Catalog.Addition
import FlowCheck.Proofs.Result
import FlowCheck.Sources

/-!
# What comes of each source

The sources of a document are loaded one after the other into a catalog. Each of them is skipped,
fails or is loaded, whatever the catalog holds and whatever came of the others (`Source.ComesTo`).
What is loaded is added to the catalog, what fails gives an error, and nothing else happens to
either of them (`loadSources_atomic`).
-/

namespace FlowCheck

open Result

namespace Source

/-- What can come of a source. -/
inductive Outcome where
  /-- It is not of the type that is loaded. -/
  | skipped
  /-- It is not loaded, for a reason. -/
  | failed (failure : SourceFailure)
  /-- It is loaded. -/
  | loaded (api : Api)

namespace Outcome

/-- The error about a source that failed. -/
def errors (source : Source) : Outcome → List SourceError
  | .failed failure => [⟨source.name, source.url, failure⟩]
  | _ => []

/-- What is added to the catalog for a source that is loaded. -/
def additions (source : Source) : Outcome → List (String × Api)
  | .loaded api => [(source.name, api)]
  | _ => []

end Outcome

/-- The source has a type, and it is not the one that is loaded. -/
def IsForeign (source : Source) : Prop :=
  source.type.isGiven = true ∧ source.type ≠ .str "openapi"

/-- The address starts with the name of a protocol. -/
def HasProtocol (source : Source) : Prop :=
  ∃ start ∈ ["http://", "https://"], start.toList <+: source.url.toList

/-- The result of loading the file of a source. -/
def fileResult (folder : Folder) (base : String) (source : Source) : Except LoadError Api :=
  Api.load folder (pathOf base source.url)

/-- What comes of a source, told from its type, its address and its file. -/
inductive ComesTo (folder : Folder) (base : String) (source : Source) : Outcome → Prop where
  /-- A source of another type is skipped. -/
  | skipped (hforeign : source.IsForeign) : ComesTo folder base source .skipped
  /-- A source on another machine fails. -/
  | remote (hown : ¬ source.IsForeign) (hremote : source.HasProtocol) :
      ComesTo folder base source (.failed .remote)
  /-- A source whose file is not there fails. -/
  | absent {path : String} (hown : ¬ source.IsForeign) (hlocal : ¬ source.HasProtocol)
      (hfile : source.fileResult folder base = .error (.absent path)) :
      ComesTo folder base source (.failed (.absent path))
  /-- A source whose file is not accepted fails. -/
  | rejected {reason : Rejection} (hown : ¬ source.IsForeign) (hlocal : ¬ source.HasProtocol)
      (hfile : source.fileResult folder base = .error (.rejected reason)) :
      ComesTo folder base source (.failed (.rejected reason))
  /-- A source whose file is accepted is loaded. -/
  | loaded {api : Api} (hown : ¬ source.IsForeign) (hlocal : ¬ source.HasProtocol)
      (hfile : source.fileResult folder base = .ok api) :
      ComesTo folder base source (.loaded api)

variable {folder : Folder} {base : String} {source : Source} {sources : List Source}
  {outcome : Outcome} {outcomes : List Outcome}

/-! ## One source -/

/-- A source is skipped when it has another type. -/
theorem isSkipped_iff : source.isSkipped = true ↔ source.IsForeign := by
  rw [isSkipped, IsForeign, Bool.and_eq_true, apiType]
  refine and_congr_right fun _ => ?_
  cases source.type <;> simp [Value.isStr]

/-- A source is remote when its address starts with the name of a protocol. -/
theorem isRemote_iff : source.isRemote = true ↔ source.HasProtocol := by
  simp [isRemote, HasProtocol, remoteStarts]

/-- What comes of a source, or the fault at which its loading stops. -/
def findOutcome (folder : Folder) (base : String) (source : Source) : Except Fault Outcome :=
  if source.isSkipped then .ok .skipped
  else if source.isRemote then .ok (.failed .remote)
  else
    match source.fileResult folder base with
    | .ok api => .ok (.loaded api)
    | .error (.rejected reason) => .ok (.failed (.rejected reason))
    | .error (.absent path) => .ok (.failed (.absent path))
    | .error (.fault fault) => .error fault

/-- What comes of a source is computed. -/
theorem findOutcome_eq_ok_iff :
    source.findOutcome folder base = .ok outcome ↔ source.ComesTo folder base outcome := by
  constructor
  -- the kind of the source and its address are looked at before its file
  · intro h
    rw [findOutcome] at h
    split at h
    · next hskipped =>
      obtain rfl := Except.ok.inj h
      exact .skipped (isSkipped_iff.1 hskipped)
    next hskipped =>
    have hown := mt isSkipped_iff.2 hskipped
    split at h
    · next hremote =>
      obtain rfl := Except.ok.inj h
      exact .remote hown (isRemote_iff.1 hremote)
    next hremote =>
    have hlocal := mt isRemote_iff.2 hremote
    split at h
    · next api hfile =>
      obtain rfl := Except.ok.inj h
      exact .loaded hown hlocal hfile
    · next reason hfile =>
      obtain rfl := Except.ok.inj h
      exact .rejected hown hlocal hfile
    · next path hfile =>
      obtain rfl := Except.ok.inj h
      exact .absent hown hlocal hfile
    · cases h
  · intro h
    cases h with
    | skipped hforeign => rw [findOutcome, if_pos (isSkipped_iff.2 hforeign)]
    | remote hown hremote =>
      rw [findOutcome, if_neg (mt isSkipped_iff.1 hown), if_pos (isRemote_iff.2 hremote)]
    | absent hown hlocal hfile | rejected hown hlocal hfile | loaded hown hlocal hfile =>
      rw [findOutcome, if_neg (mt isSkipped_iff.1 hown), if_neg (mt isRemote_iff.1 hlocal),
        hfile]

/-- Where the loading of a file stops at a fault, nothing comes of its source. -/
theorem findOutcome_eq_error {fault : Fault} (hown : ¬ source.IsForeign)
    (hlocal : ¬ source.HasProtocol)
    (hfile : source.fileResult folder base = .error (.fault fault)) :
    source.findOutcome folder base = .error fault := by
  rw [findOutcome, if_neg (mt isSkipped_iff.1 hown), if_neg (mt isRemote_iff.1 hlocal), hfile]

/-- At most one thing comes of a source. -/
theorem ComesTo.unique {first second : Outcome} (h : source.ComesTo folder base first)
    (h' : source.ComesTo folder base second) : first = second :=
  Except.ok.inj ((findOutcome_eq_ok_iff.2 h).symm.trans (findOutcome_eq_ok_iff.2 h'))

/-- Something comes of a source unless the loading of its file stops at a fault. -/
theorem exists_comesTo (h : ¬ source.IsForeign → ¬ source.HasProtocol →
    ∀ fault, source.fileResult folder base ≠ .error (.fault fault)) :
    ∃ outcome, source.ComesTo folder base outcome := by
  by_cases hforeign : source.IsForeign
  · exact ⟨_, .skipped hforeign⟩
  by_cases hremote : source.HasProtocol
  · exact ⟨_, .remote hforeign hremote⟩
  cases hfile : source.fileResult folder base with
  | ok api => exact ⟨_, .loaded hforeign hremote hfile⟩
  | error error =>
    cases error with
    | rejected reason => exact ⟨_, .rejected hforeign hremote hfile⟩
    | absent path => exact ⟨_, .absent hforeign hremote hfile⟩
    | fault fault => exact absurd hfile (h hforeign hremote fault)

/-- The errors about sources of which something came, in their order. -/
def errorsOf (sources : List Source) (outcomes : List Outcome) : List SourceError :=
  (List.zipWith Outcome.errors sources outcomes).flatten

/-- The descriptions that were loaded, under the names of their sources and in their order. -/
def additionsOf (sources : List Source) (outcomes : List Outcome) : List (String × Api) :=
  (List.zipWith Outcome.additions sources outcomes).flatten

/-- A source of which something came gives the error about it, or is added to the catalog. -/
theorem load_of_comesTo (h : source.ComesTo folder base outcome) (result : SourceResult) :
    load folder base result source =
      .ok ⟨result.catalog.addAll (outcome.additions source),
        result.errors ++ outcome.errors source⟩ := by
  cases h with
  | skipped hforeign =>
    simp [load, isSkipped_iff.2 hforeign, Outcome.additions, Outcome.errors, Catalog.addAll]
  | remote hown hremote =>
    simp [load, mt isSkipped_iff.1 hown, isRemote_iff.2 hremote, Outcome.additions,
      Outcome.errors, Catalog.addAll]
  | absent hown hlocal hfile | rejected hown hlocal hfile | loaded hown hlocal hfile =>
    rw [fileResult] at hfile
    simp [load, mt isSkipped_iff.1 hown, mt isRemote_iff.1 hlocal, hfile, Outcome.additions,
      Outcome.errors, Catalog.addAll]

/-! ## Sources one after the other -/

/-- Sources of which something came add what was loaded to the catalog, and the errors about those
that failed to the errors. -/
theorem foldlM_load_of_comesTo (h : List.Forall₂ (ComesTo folder base) sources outcomes)
    (result : SourceResult) :
    sources.foldlM (load folder base) result =
      .ok ⟨result.catalog.addAll (additionsOf sources outcomes),
        result.errors ++ errorsOf sources outcomes⟩ := by
  induction h generalizing result with
  | nil => simp [additionsOf, errorsOf, Catalog.addAll, pure, Except.pure]
  | cons hfirst _ ih =>
    rw [List.foldlM_cons, load_of_comesTo hfirst, ok_bind, ih]
    simp [additionsOf, errorsOf, Catalog.addAll]

/-- What is added for the first source comes first. -/
theorem additionsOf_cons (source : Source) (sources : List Source) (outcome : Outcome)
    (outcomes : List Outcome) :
    additionsOf (source :: sources) (outcome :: outcomes) =
      outcome.additions source ++ additionsOf sources outcomes := by
  rw [additionsOf, List.zipWith_cons_cons, List.flatten_cons, additionsOf]

/-- What is added for sources in two parts. -/
theorem additionsOf_append {others : List Source} {ends : List Outcome}
    (h : sources.length = outcomes.length) :
    additionsOf (sources ++ others) (outcomes ++ ends) =
      additionsOf sources outcomes ++ additionsOf others ends := by
  rw [additionsOf, List.zipWith_append h, List.flatten_append, additionsOf, additionsOf]

/-- There are no errors exactly if no source failed. -/
theorem errorsOf_eq_nil_iff (h : sources.length = outcomes.length) :
    errorsOf sources outcomes = [] ↔ ∀ failure, .failed failure ∉ outcomes := by
  induction outcomes generalizing sources with
  | nil => simp [errorsOf]
  | cons outcome rest ih =>
    cases sources with
    | nil => simp at h
    | cons source sources =>
      have hrest := ih (Nat.succ.inj h)
      rw [errorsOf] at hrest ⊢
      cases outcome with
      | failed failure =>
        exact iff_of_false (by simp [Outcome.errors]) fun hnone =>
          hnone failure List.mem_cons_self
      | skipped | loaded => simpa [Outcome.errors] using hrest

end Source

open Source

variable {folder : Folder} {document : String} {sources : List Source} {outcomes : List Outcome}

/-- What loading sources leads to, told from what comes of them. -/
theorem loadSources_of_comesTo
    (h : List.Forall₂ (ComesTo folder (baseOf folder.directory document)) sources outcomes)
    (catalog : Catalog) :
    loadSources folder document sources catalog =
      .ok ⟨catalog.addAll (additionsOf sources outcomes), errorsOf sources outcomes⟩ := by
  rw [loadSources, foldlM_load_of_comesTo h, List.nil_append]

/-- Loading sources where the loading of no file stops at a fault. One thing comes of each source.
There is an error about each that failed, in the order of the sources, and none exactly if no source
failed. The catalog holds its sources from before and after them the names of those that were
loaded, in the order in which they were loaded first; each name has the description that was loaded
last for it, or else the one from before. A source that is not loaded leaves the catalog as the
sources in front of it made it, and those after it are loaded as if it were not there. -/
theorem loadSources_atomic (folder : Folder) (document : String) (sources : List Source)
    (catalog : Catalog)
    (hfiles : ∀ source ∈ sources, ¬ source.IsForeign → ¬ source.HasProtocol → ∀ fault,
      source.fileResult folder (baseOf folder.directory document) ≠ .error (.fault fault)) :
    ∃ outcomes result, loadSources folder document sources catalog = .ok result ∧
      List.Forall₂ (fun source outcome => ∀ other,
        source.ComesTo folder (baseOf folder.directory document) other ↔ other = outcome)
          sources outcomes ∧
      result.errors = errorsOf sources outcomes ∧
      (result.isOk = true ↔ ∀ failure, .failed failure ∉ outcomes) ∧
      result.catalog.names = catalog.names ++
        (((additionsOf sources outcomes).map Prod.fst).filter (· ∉ catalog.names)).eraseDups ∧
      (∀ name, result.catalog.api? name =
        ((additionsOf sources outcomes).reverse.lookup name).or (catalog.api? name)) ∧
      ∀ before source after, sources = before ++ source :: after →
        (∀ api, ¬ source.ComesTo folder (baseOf folder.directory document) (.loaded api)) →
          ∃ start next others,
            loadSources folder document before catalog = .ok start ∧
            loadSources folder document (before ++ [source]) catalog = .ok next ∧
            next.catalog = start.catalog ∧
            loadSources folder document (before ++ after) catalog = .ok others ∧
            others.catalog = result.catalog := by
  -- each source comes to one outcome, whichever others are loaded with it
  have hcomes (some : List Source) (hsome : some ⊆ sources) :
      ∃ outcomes,
        List.Forall₂ (ComesTo folder (baseOf folder.directory document)) some outcomes :=
    exists_forall₂_iff.2 fun source hmem => exists_comesTo (hfiles source (hsome hmem))
  obtain ⟨outcomes, houtcomes⟩ := hcomes sources (List.Subset.refl _)
  refine ⟨outcomes, _, loadSources_of_comesTo houtcomes catalog, ?_, rfl, ?_,
    Catalog.names_addAll _ _, Catalog.api?_addAll _ _, ?_⟩
  · exact houtcomes.imp fun source outcome h other =>
      ⟨fun hother => hother.unique h, fun heq => heq ▸ h⟩
  · rw [SourceResult.isOk, List.isEmpty_iff, errorsOf_eq_nil_iff houtcomes.length_eq]
  · rintro before source after rfl hloaded
    obtain ⟨starts, hstarts⟩ := hcomes before (by simp)
    obtain ⟨ends, hends⟩ := hcomes after (by simp)
    obtain ⟨outcome, houtcome⟩ := exists_comesTo (hfiles source (by simp))
    -- a source that is not loaded adds nothing to the catalog
    have hnone : outcome.additions source = [] := by
      cases outcome with
      | loaded api => exact absurd houtcome (hloaded api)
      | skipped | failed => rfl
    have hnext := List.rel_append hstarts (.cons houtcome .nil)
    have hothers := List.rel_append hstarts hends
    refine ⟨_, _, _, loadSources_of_comesTo hstarts catalog, loadSources_of_comesTo hnext catalog,
      ?_, loadSources_of_comesTo hothers catalog, ?_⟩
    · rw [additionsOf_append hstarts.length_eq, additionsOf_cons, hnone]
      simp [additionsOf]
    · -- there is only one list of what comes of all the sources
      have hall := List.rel_append hstarts (.cons houtcome hends)
      have hsame := (loadSources_of_comesTo hall catalog).symm.trans
        (loadSources_of_comesTo houtcomes catalog)
      rw [← congrArg SourceResult.catalog (Except.ok.inj hsame),
        additionsOf_append hstarts.length_eq, additionsOf_append hstarts.length_eq,
        additionsOf_cons, hnone, List.nil_append]

/-- A folder with an API description and one of a version that is not accepted. -/
def servedFolder : Folder :=
  ⟨"/flows", [("/flows/api.yaml",
      "openapi: 3.0.0\npaths:\n  /ping:\n    get:\n      operationId: ping\n"),
    ("/flows/old.yaml", "swagger: 2.0\npaths: \x7b\x7d\n")]⟩

/-- A source of another type, one on another machine, one that is not accepted under a name that
the catalog has, and one that is loaded. -/
def servedSources : List Source :=
  [⟨"guide", "guide.md", .str "arazzo", []⟩, ⟨"far", "https://far.test/api.yaml", .null, []⟩,
    ⟨"pings", "old.yaml", .null, []⟩, ⟨"new", "api.yaml", .str "openapi", []⟩]

/-- No fault is met. Of the four sources the last one comes into the catalog, after the source that
was there, and there are errors about the second and the third. -/
theorem loadSources_served :
    (∀ source ∈ servedSources, ¬ source.IsForeign → ¬ source.HasProtocol → ∀ fault,
      source.fileResult servedFolder (baseOf servedFolder.directory "flow.yaml") ≠
        .error (.fault fault)) ∧
    ∃ result, loadSources servedFolder "flow.yaml" servedSources ⟨[("pings", default)]⟩ =
        .ok result ∧ result.catalog.names = ["pings", "new"] ∧
      result.errors.map (·.source) = ["far", "pings"] ∧ result.isOk = false := by
  have hfiles : ∀ source ∈ servedSources, ¬ source.IsForeign → ¬ source.HasProtocol → ∀ fault,
      source.fileResult servedFolder (baseOf servedFolder.directory "flow.yaml") ≠
        .error (.fault fault) := by
    have hchecked : servedSources.all (fun source => (source.findOutcome servedFolder
        (baseOf servedFolder.directory "flow.yaml")).toOption.isSome) = true := by
      decide +kernel
    intro source hmem hown hlocal fault hfault
    have hsource := List.all_eq_true.1 hchecked source hmem
    rw [findOutcome_eq_error hown hlocal hfault] at hsource
    cases hsource
  have hanswer : (loadSources servedFolder "flow.yaml" servedSources
      ⟨[("pings", default)]⟩).toOption.map (fun result => (result.catalog.names,
        result.errors.map (·.source), result.isOk)) =
          some (["pings", "new"], ["far", "pings"], false) := by
    decide +kernel
  obtain ⟨-, result, hresult, -⟩ := loadSources_atomic servedFolder "flow.yaml" servedSources
    ⟨[("pings", default)]⟩ hfiles
  refine ⟨hfiles, result, hresult, ?_⟩
  rw [hresult] at hanswer
  simpa [Except.toOption] using hanswer

end FlowCheck
