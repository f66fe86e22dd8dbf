import Continuity.Proofs.Character.Comparison

/-! # The issues of a file

Where names are compared of known characters only, the rules come to a list of issues: those of
spellings, of introductions and of pronouns, mention by mention, and those of nicknames. The code of
an issue tells which rule it comes from.
-/

namespace Continuity.Character

/-- An issue has a code and stands at a place. -/
structure IsAt (code : String) (place : Location) (issue : Issue) : Prop where
  code : issue.code = code
  file : issue.file = some place.file
  line : issue.line = some place.line
  column : issue.column = some place.column

theorem isAt_issueAt {code : String} {severity : Severity} {message suggestion : String}
    {related : List RelatedLocation} {m : Mention} :
    IsAt code m.location (issueAt code severity message suggestion related m) :=
  ⟨rfl, rfl, rfl, rfl⟩

theorem filter_eq_nil_of_code {code code' : String} {issues : List Issue}
    (h : ∀ issue ∈ issues, issue.code = code') (hne : code' ≠ code) :
    issues.filter (·.code == code) = [] := by
  refine List.filter_eq_nil_iff.2 fun issue hissue => ?_
  simpa [h issue hissue] using hne

theorem filter_eq_self_of_code {code : String} {issues : List Issue}
    (h : ∀ issue ∈ issues, issue.code = code) : issues.filter (·.code == code) = issues :=
  List.filter_eq_self.2 fun issue hissue => by simp [h issue hissue]

namespace State

variable {s : State} {m : Mention} {issue : Issue} {path : String} {n : Nickname}

/-- The issues of the spelling of a mention, where all characters are known. -/
def spellingIssuesOf (s : State) (m : Mention) : List Issue :=
  (s.references (s.canonical m.name)).filterMap fun name => (s.find? name).map (spellingIssue m)

/-- The issues of introductions. -/
def introductionIssues (s : State) (strict : Bool) (mentions : List Mention) : List Issue :=
  if strict then mentions.filterMap s.introductionIssue? else []

/-- The issues of a file, where all characters are known. -/
def issuesOf (s : State) (strict : Bool) (path : String) : List Issue :=
  let mentions := (s.mentions.lookup path).getD []
  mentions.flatMap s.spellingIssuesOf ++ s.introductionIssues strict mentions ++
    mentions.filterMap s.pronounIssue? ++ s.nicknames.filterMap (s.nicknameIssue? path)

theorem mem_references {name reference : String} :
    reference ∈ s.references name ↔ ⟨name, reference⟩ ∈ s.misspellings := by
  simp only [references, List.mem_map, List.mem_filter, beq_iff_eq]
  constructor
  · rintro ⟨found, ⟨hfound, rfl⟩, rfl⟩
    exact hfound
  · intro hfound
    exact ⟨_, ⟨hfound, rfl⟩, rfl⟩

theorem mem_spellingIssuesOf :
    issue ∈ s.spellingIssuesOf m ↔
      ∃ p, ⟨s.canonical m.name, p.name⟩ ∈ s.misspellings ∧ s.find? p.name = some p ∧
        issue = spellingIssue m p := by
  simp only [spellingIssuesOf, List.mem_filterMap, mem_references, Option.map_eq_some_iff]
  constructor
  · rintro ⟨name, hname, p, hp, rfl⟩
    obtain rfl : p.name = name := by simpa using List.find?_some hp
    exact ⟨p, hname, hp, rfl⟩
  · rintro ⟨p, hname, hp, rfl⟩
    exact ⟨p.name, hname, p, hp, rfl⟩

/-! ## Where issues stand -/

theorem isAt_of_mem_spellingIssuesOf (h : issue ∈ s.spellingIssuesOf m) :
    IsAt "CHAR001" m.location issue := by
  obtain ⟨p, -, -, rfl⟩ := mem_spellingIssuesOf.1 h
  exact isAt_issueAt

theorem isAt_of_introductionIssue (h : s.introductionIssue? m = some issue) :
    IsAt "CHAR002" m.location issue := by
  unfold introductionIssue? at h
  split at h
  · cases h
  · obtain ⟨p, -, h⟩ := Option.bind_eq_some_iff.1 h
    obtain ⟨introduced, -, h⟩ := Option.bind_eq_some_iff.1 h
    split at h
    · cases h
      exact isAt_issueAt
    · cases h

theorem isAt_of_pronounIssue (h : s.pronounIssue? m = some issue) :
    IsAt "CHAR003" m.location issue := by
  unfold pronounIssue? at h
  split at h
  · cases h
  · obtain ⟨p, -, h⟩ := Option.bind_eq_some_iff.1 h
    obtain ⟨expected, -, h⟩ := Option.bind_eq_some_iff.1 h
    obtain ⟨used, -, h⟩ := Option.bind_eq_some_iff.1 h
    cases h
    exact isAt_issueAt

/-- The message of a nickname. -/
def nicknameMessage (short full : String) : String :=
  "'" ++ short ++ "' may be a nickname for '" ++ full ++ "'"

/-- An issue tells of a nickname, at the place where the short form is first seen. -/
structure TellsNickname (s : State) (n : Nickname) (issue : Issue) (short : Profile) : Prop where
  found : s.find? n.short = some short
  foundFull : ∃ full, s.find? n.full = some full
  isAt : IsAt "CHAR004" short.firstSeen issue
  message : issue.message = nicknameMessage n.short n.full

theorem tellsNickname (h : s.nicknameIssue? path n = some issue) :
    ∃ short, s.TellsNickname n issue short ∧ short.firstSeen.file = path := by
  obtain ⟨short, hshort, h⟩ := Option.bind_eq_some_iff.1 h
  obtain ⟨full, hfull, h⟩ := Option.bind_eq_some_iff.1 h
  split at h
  next hfile =>
    cases h
    have hname : short.name = n.short := by simpa using List.find?_some hshort
    have hname' : full.name = n.full := by simpa using List.find?_some hfull
    refine ⟨short, ⟨hshort, ⟨full, hfull⟩, ⟨rfl, rfl, rfl, rfl⟩, ?_⟩, by simpa using hfile⟩
    rw [← hname, ← hname']
    rfl
  next => cases h

/-! ## The issues of each rule -/

section Rules

variable {strict : Bool} {mentions : List Mention}

theorem exists_isAt_of_spellings (h : issue ∈ mentions.flatMap s.spellingIssuesOf) :
    ∃ m ∈ mentions, IsAt "CHAR001" m.location issue := by
  obtain ⟨m, hm, hissue⟩ := List.mem_flatMap.1 h
  exact ⟨m, hm, isAt_of_mem_spellingIssuesOf hissue⟩

theorem exists_isAt_of_introductions (h : issue ∈ s.introductionIssues strict mentions) :
    ∃ m ∈ mentions, IsAt "CHAR002" m.location issue := by
  unfold introductionIssues at h
  split at h
  · obtain ⟨m, hm, hissue⟩ := List.mem_filterMap.1 h
    exact ⟨m, hm, isAt_of_introductionIssue hissue⟩
  · cases h

theorem exists_isAt_of_pronouns (h : issue ∈ mentions.filterMap s.pronounIssue?) :
    ∃ m ∈ mentions, IsAt "CHAR003" m.location issue := by
  obtain ⟨m, hm, hissue⟩ := List.mem_filterMap.1 h
  exact ⟨m, hm, isAt_of_pronounIssue hissue⟩

theorem exists_isAt_of_nicknames (h : issue ∈ s.nicknames.filterMap (s.nicknameIssue? path)) :
    ∃ n ∈ s.nicknames, ∃ short, s.TellsNickname n issue short ∧ short.firstSeen.file = path := by
  obtain ⟨n, hn, hissue⟩ := List.mem_filterMap.1 h
  exact ⟨n, hn, tellsNickname hissue⟩

theorem code_of_spellings (h : issue ∈ mentions.flatMap s.spellingIssuesOf) :
    issue.code = "CHAR001" :=
  (exists_isAt_of_spellings h).elim fun _ h => h.2.code

theorem code_of_introductions (h : issue ∈ s.introductionIssues strict mentions) :
    issue.code = "CHAR002" :=
  (exists_isAt_of_introductions h).elim fun _ h => h.2.code

theorem code_of_pronouns (h : issue ∈ mentions.filterMap s.pronounIssue?) :
    issue.code = "CHAR003" :=
  (exists_isAt_of_pronouns h).elim fun _ h => h.2.code

theorem code_of_nicknames (h : issue ∈ s.nicknames.filterMap (s.nicknameIssue? path)) :
    issue.code = "CHAR004" := by
  obtain ⟨n, -, short, htells, -⟩ := exists_isAt_of_nicknames h
  exact htells.isAt.code

theorem filter_spellings (s : State) (strict : Bool) (path : String) :
    (s.issuesOf strict path).filter (·.code == "CHAR001") =
      ((s.mentions.lookup path).getD []).flatMap s.spellingIssuesOf := by
  simp only [issuesOf, List.filter_append]
  rw [filter_eq_self_of_code fun _ => code_of_spellings,
    filter_eq_nil_of_code (fun _ => code_of_introductions) (by decide),
    filter_eq_nil_of_code (fun _ => code_of_pronouns) (by decide),
    filter_eq_nil_of_code (fun _ => code_of_nicknames) (by decide)]
  simp only [List.append_nil]

theorem filter_pronouns (s : State) (strict : Bool) (path : String) :
    (s.issuesOf strict path).filter (·.code == "CHAR003") =
      ((s.mentions.lookup path).getD []).filterMap s.pronounIssue? := by
  simp only [issuesOf, List.filter_append]
  rw [filter_eq_nil_of_code (fun _ => code_of_spellings) (by decide),
    filter_eq_nil_of_code (fun _ => code_of_introductions) (by decide),
    filter_eq_self_of_code fun _ => code_of_pronouns,
    filter_eq_nil_of_code (fun _ => code_of_nicknames) (by decide)]
  simp only [List.append_nil, List.nil_append]

theorem filter_nicknames (s : State) (strict : Bool) (path : String) :
    (s.issuesOf strict path).filter (·.code == "CHAR004") =
      s.nicknames.filterMap (s.nicknameIssue? path) := by
  simp only [issuesOf, List.filter_append]
  rw [filter_eq_nil_of_code (fun _ => code_of_spellings) (by decide),
    filter_eq_nil_of_code (fun _ => code_of_introductions) (by decide),
    filter_eq_nil_of_code (fun _ => code_of_pronouns) (by decide),
    filter_eq_self_of_code fun _ => code_of_nicknames]
  simp only [List.nil_append]

end Rules

end State

/-! ## The rules come to these issues -/

namespace Ledger

variable {files : List String} {names : List (String × String)} {seen : List (String × Mention)}
  {s : State}

theorem spellingIssuesAt_eq (h : Ledger files names seen s) (m : Mention) :
    s.spellingIssuesAt m = .ok (s.spellingIssuesOf m) := by
  have hfound : ∀ name ∈ s.references (s.canonical m.name), ∃ p, s.find? name = some p := by
    intro name hname
    obtain ⟨-, p, hp, hpname⟩ := h.compared _ (State.mem_references.1 hname)
    exact ⟨p, h.find?_eq_some_iff.2 ⟨hp, hpname⟩⟩
  unfold State.spellingIssuesAt State.spellingIssuesOf
  generalize s.references (s.canonical m.name) = references at hfound
  induction references with
  | nil => rfl
  | cons name rest ih =>
      obtain ⟨p, hp⟩ := hfound name List.mem_cons_self
      have hrest := ih fun name hname => hfound name (List.mem_cons_of_mem _ hname)
      rw [List.mapM_cons, hrest, List.filterMap_cons, hp, State.get_eq_ok_iff.2 hp]
      rfl

/-- The rules never miss a character. -/
theorem fileIssues_eq (h : Ledger files names seen s) (strict : Bool) (path : String) :
    s.fileIssues strict path = .ok (s.issuesOf strict path) := by
  have hspellings (mentions : List Mention) :
      s.spellingIssues mentions = .ok (mentions.flatMap s.spellingIssuesOf) := by
    have hmap : mentions.mapM s.spellingIssuesAt = .ok (mentions.map s.spellingIssuesOf) :=
      mapM_eq_ok_iff.2 (List.forall₂_map_right_iff.2 (List.forall₂_same.2 fun m _ =>
        h.spellingIssuesAt_eq m))
    rw [State.spellingIssues, hmap, List.flatMap_def]
    rfl
  rw [State.fileIssues, hspellings]
  rfl

end Ledger

end Continuity.Character
