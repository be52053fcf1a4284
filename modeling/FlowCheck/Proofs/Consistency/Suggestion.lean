import FlowCheck.Consistency.Suggestion
import FlowCheck.Proofs.Result

/-!
# When names can be suggested

Suggestions compare a text with candidates that may be any values. There are suggestions, or none
that are similar enough, as long as all candidates are texts or byte strings; one candidate of
another kind stops the comparison (`exists_suggest_eq_ok_iff`).
-/

namespace FlowCheck

open Result

/-- The value can be compared with a text. -/
def Value.IsName : Value → Prop
  | .str _ => True
  | .bytes _ => True
  | _ => False

/-- A text can be compared with another. -/
theorem Value.isName_str (text : String) : (Value.str text).IsName := trivial

variable {candidates : List Value} {limit : Int} {cutoff : Cutoff}

namespace Suggestion

/-- A candidate has characters to compare when it is a name. -/
theorem exists_name?_iff {value : Value} : (∃ name, name? value = .ok name) ↔ value.IsName := by
  cases value <;> simp [name?, Value.IsName]

/-- Names hold no other values. -/
theorem any_isCollection_eq_false (h : ∀ candidate ∈ candidates, candidate.IsName) :
    candidates.any isCollection = false := by
  rw [List.any_eq_false]
  intro candidate hmem
  have hname := h candidate hmem
  cases candidate <;> simp_all [isCollection, Value.IsName]

/-- With a limit and a bound that can be used, names are found among names only. -/
theorem exists_names_eq_ok_iff (hlimit : 0 < limit) (hcutoff : cutoff.isValid = true)
    (reference : String) :
    (∃ found, names reference candidates limit cutoff = .ok found) ↔
      ∀ candidate ∈ candidates, candidate.IsName := by
  have hmapM : (∃ found, candidates.mapM name? = .ok found) ↔
      ∀ candidate ∈ candidates, candidate.IsName := by
    simp only [exists_mapM_eq_ok_iff, exists_name?_iff]
  constructor
  · rintro ⟨found, h⟩
    rw [names, if_neg (Int.not_le.2 hlimit), hcutoff] at h
    rw [← hmapM]
    cases hnames : candidates.mapM name? with
    | ok characters => exact ⟨characters, rfl⟩
    | error fault =>
      -- the search refuses candidates that hold other values before it comes to this one
      rw [hnames] at h
      split at h <;> cases h
  · intro h
    obtain ⟨characters, hcharacters⟩ := hmapM.2 h
    rw [names, any_isCollection_eq_false h, if_neg (Int.not_le.2 hlimit), hcutoff, hcharacters]
    exact ⟨_, rfl⟩

end Suggestion

/-- Where the checks ask for suggestions, there is an answer exactly if all candidates are names. -/
theorem exists_suggest_eq_ok_iff (hcutoff : cutoff.isValid = true) (reference : String) :
    (∃ suggestion,
        suggest reference candidates Suggestion.standardLimit cutoff = .ok suggestion) ↔
      ∀ candidate ∈ candidates, candidate.IsName := by
  have hlimit : 0 < Suggestion.standardLimit := by decide
  rw [← Suggestion.exists_names_eq_ok_iff hlimit hcutoff reference]
  simp only [suggest, map_eq_ok_iff]
  exact ⟨fun ⟨_, found, hfound, _⟩ => ⟨found, hfound⟩,
    fun ⟨found, hfound⟩ => ⟨_, found, hfound, rfl⟩⟩

end FlowCheck
