import Continuity.Character.Rules
import Continuity.Proofs.Data.Lists

/-! # Issues of characters

The rules fail only where a character is missing that another one is a misspelling of. All issues
have the name of the validator.
-/

namespace Continuity.Character

namespace State

variable {s : State} {issue : Issue}

theorem get_eq_ok_iff {name : String} {p : Profile} :
    s.get name = .ok p ↔ s.find? name = some p := by
  unfold get
  cases s.find? name <;> simp

theorem validator_of_spellingIssues {mentions : List Mention} {issues : List Issue}
    (h : s.spellingIssues mentions = .ok issues) (hissue : issue ∈ issues) :
    issue.validator = validatorId := by
  obtain ⟨found, hfound, heq⟩ := bind_eq_ok_iff.1 h
  cases heq
  obtain ⟨group, hgroup, hissue⟩ := List.mem_flatten.1 hissue
  obtain ⟨m, -, hm⟩ := exists_of_mem_mapM hfound hgroup
  obtain ⟨reference, -, hreference⟩ := exists_of_mem_mapM hm hissue
  obtain ⟨p, -, heq⟩ := bind_eq_ok_iff.1 hreference
  cases heq
  rfl

theorem validator_of_introductionIssue {m : Mention} (h : s.introductionIssue? m = some issue) :
    issue.validator = validatorId := by
  unfold introductionIssue? at h
  split at h
  · cases h
  · obtain ⟨p, -, h⟩ := Option.bind_eq_some_iff.1 h
    obtain ⟨introduced, -, h⟩ := Option.bind_eq_some_iff.1 h
    split at h
    · cases h
      rfl
    · cases h

theorem validator_of_pronounIssue {m : Mention} (h : s.pronounIssue? m = some issue) :
    issue.validator = validatorId := by
  unfold pronounIssue? at h
  split at h
  · cases h
  · obtain ⟨p, -, h⟩ := Option.bind_eq_some_iff.1 h
    obtain ⟨expected, -, h⟩ := Option.bind_eq_some_iff.1 h
    obtain ⟨used, -, h⟩ := Option.bind_eq_some_iff.1 h
    cases h
    rfl

theorem validator_of_nicknameIssue {path : String} {n : Nickname}
    (h : s.nicknameIssue? path n = some issue) : issue.validator = validatorId := by
  obtain ⟨short, -, h⟩ := Option.bind_eq_some_iff.1 h
  obtain ⟨full, -, h⟩ := Option.bind_eq_some_iff.1 h
  split at h
  · cases h
    rfl
  · cases h

/-- All issues of a file have the name of the validator. -/
theorem validator_of_fileIssues {strict : Bool} {path : String} {issues : List Issue}
    (h : s.fileIssues strict path = .ok issues) (hissue : issue ∈ issues) :
    issue.validator = validatorId := by
  obtain ⟨spellings, hspellings, heq⟩ := bind_eq_ok_iff.1 h
  cases heq
  simp only [List.mem_append] at hissue
  rcases hissue with ((hissue | hissue) | hissue) | hissue
  · exact validator_of_spellingIssues hspellings hissue
  · split at hissue
    · obtain ⟨m, -, h⟩ := List.mem_filterMap.1 hissue
      exact validator_of_introductionIssue h
    · cases hissue
  · obtain ⟨m, -, h⟩ := List.mem_filterMap.1 hissue
    exact validator_of_pronounIssue h
  · obtain ⟨n, -, h⟩ := List.mem_filterMap.1 hissue
    exact validator_of_nicknameIssue h

end State

end Continuity.Character
