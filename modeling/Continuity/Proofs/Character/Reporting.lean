import Continuity.Proofs.Data.Lists
import Continuity.Proofs.Character.Issues
import Continuity.Proofs.Character.Merge
import Continuity.Proofs.Report.Collector

/-! # The issues of all files together

Names are compared over the whole project, and what comes of that is reported file by file. Taken
together, the files report each misspelling once at each mention of the character, and each nickname
once. No two of all these issues are the same, so a collector keeps every one of them.
-/

namespace Continuity.Character

/-- Notes on different files, with each mention at a line and column of its own. -/
structure Placed (notes : List FileNotes) : Prop extends Distinct notes where
  columns : ∀ f ∈ notes, (f.mentions.map fun m => (m.location.line, m.location.column)).Nodup

/-- Names and other names are written without apostrophes. -/
structure Unquoted (settings : Settings) (notes : List FileNotes) : Prop where
  options : ∀ pair ∈ settings.aliases, '\'' ∉ pair.1.toList ∧ '\'' ∉ pair.2.toList
  mentions : ∀ f ∈ notes, ∀ m ∈ f.mentions, '\'' ∉ m.name.toList
  aliases : ∀ f ∈ notes, ∀ a ∈ f.aliases, '\'' ∉ a.name.toList ∧ '\'' ∉ a.other.toList

/-! ## Names of characters -/

section Names

variable {settings : Settings} {notes : List FileNotes} {p : Profile}

/-- A name resolves to itself or to a name that is declared. -/
theorem resolved_eq_or_mem (pairs : List (String × String)) (protectedKeys : List String)
    (name : String) :
    resolved pairs protectedKeys name = name ∨
      ∃ pair ∈ pairs, resolved pairs protectedKeys name = pair.1 ∨
        resolved pairs protectedKeys name = pair.2 := by
  rcases resolved_cases pairs protectedKeys name with hnone | ⟨canonical, last, -, hcounts, -,
    hresolved⟩ | ⟨key, -, -, ⟨-, -, canonical, hcounts⟩, -⟩
  · exact .inl (resolved_of_not_leads hnone)
  · exact .inr ⟨_, hcounts.mem, .inl hresolved⟩
  · exact .inr ⟨_, hcounts.mem, .inr rfl⟩

theorem mem_aliasesOf {f : FileNotes} {pair : String × String} :
    pair ∈ State.aliasesOf f ↔ ∃ a ∈ f.aliases, (a.name, a.other) = pair := by
  simp only [State.aliasesOf, List.mem_map, List.mem_mergeSort]

theorem Unquoted.not_mem_name (h : Unquoted settings notes)
    (hp : p ∈ (State.ofNotes settings notes).characters) : '\'' ∉ p.name.toList := by
  -- The name of a character is a mentioned one that resolves to itself, or it is declared.
  obtain ⟨f, hf, m, hm, hname, -⟩ := exists_firstMention hp
  rw [← hname, canonical_ofNotes]
  rcases resolved_eq_or_mem _ settings.protectedKeys m.name with heq | ⟨pair, hpair, heq⟩
  · rw [heq]
    exact h.mentions f hf m hm
  · have hpair : '\'' ∉ pair.1.toList ∧ '\'' ∉ pair.2.toList := by
      rcases List.mem_append.1 hpair with hpair | hpair
      · exact h.options pair hpair
      · obtain ⟨g, hg, hpair⟩ := List.mem_flatMap.1 hpair
        obtain ⟨a, ha, rfl⟩ := mem_aliasesOf.1 hpair
        exact h.aliases g (State.mem_sortNotes.1 hg) a ha
    rcases heq with heq | heq
    · exact heq ▸ hpair.1
    · exact heq ▸ hpair.2

end Names

/-! ## Places of mentions -/

section Places

variable {settings : Settings} {notes : List FileNotes} {p q : Profile}

/-- Two places in a file have the same line and column. -/
def SamePlace (a b : Location) : Prop := a.file = b.file ∧ a.line = b.line ∧ a.column = b.column

theorem Placed.pairwise_mentions (h : Placed notes) {f : FileNotes} (hf : f ∈ notes) :
    (((State.ofNotes settings notes).mentions.lookup f.path).getD []).Pairwise
      fun m m' => ¬SamePlace m.location m'.location := by
  rw [mentions_ofNotes h.paths hf, keptMentions]
  refine List.Pairwise.sublist List.filter_sublist ?_
  have hsorted := ((List.mergeSort_perm f.mentions fun a b =>
    decide (a.location.offset ≤ b.location.offset)).map
      fun m => (m.location.line, m.location.column)).nodup_iff.2 (h.columns f hf)
  exact (List.pairwise_map.1 hsorted).imp fun hne hsame => hne (Prod.ext hsame.2.1 hsame.2.2)

theorem Placed.eq_of_samePlace (h : Placed notes) {f g : FileNotes} {m m' : Mention}
    (hf : f ∈ notes) (hm : m ∈ f.mentions) (hg : g ∈ notes) (hm' : m' ∈ g.mentions)
    (hsame : SamePlace m.location m'.location) : f = g ∧ m = m' :=
  h.eq_of_key h.columns hf hm hg hm' hsame.1 (Prod.ext hsame.2.1 hsame.2.2)

theorem Placed.name_eq (h : Placed notes) (hp : p ∈ (State.ofNotes settings notes).characters)
    (hq : q ∈ (State.ofNotes settings notes).characters)
    (hsame : SamePlace p.firstSeen q.firstSeen) : p.name = q.name := by
  -- A mention has one name to resolve, so it cannot be the first one of two characters.
  obtain ⟨f, hf, m, hm, hname, hplace⟩ := exists_firstMention hp
  obtain ⟨g, hg, m', hm', hname', hplace'⟩ := exists_firstMention hq
  rw [← hplace, ← hplace'] at hsame
  obtain ⟨rfl, rfl⟩ := h.eq_of_samePlace hf hm hg hm' hsame
  exact hname.symm.trans hname'

theorem Placed.file_mem (h : Placed notes) (hp : p ∈ (State.ofNotes settings notes).characters) :
    p.firstSeen.file ∈ (State.ofNotes settings notes).files := by
  obtain ⟨f, hf, m, hm, -, hplace⟩ := exists_firstMention hp
  rw [← hplace, h.located f hf m hm, (ledger_ofNotes settings notes).files_eq]
  exact List.mem_map_of_mem (State.mem_sortNotes.2 hf)

end Places

/-! ## Issues that are not the same -/

section Apart

variable {issue issue' : Issue} {code code' : String} {place place' : Location} {m : Mention}
  {p q : Profile}

theorem key_ne_of_code (h : issue.code = code) (h' : issue'.code = code') (hne : code ≠ code') :
    issue.key ≠ issue'.key :=
  fun heq => hne (h.symm.trans ((congrArg IssueKey.code heq).trans h'))

theorem IsAt.samePlace (h : IsAt code place issue) (h' : IsAt code' place' issue')
    (heq : issue.key = issue'.key) : SamePlace place place' := by
  have hfile : issue.file = issue'.file := congrArg IssueKey.file heq
  have hline : issue.line = issue'.line := congrArg IssueKey.line heq
  have hcolumn : issue.column = issue'.column := congrArg IssueKey.column heq
  rw [h.file, h'.file] at hfile
  rw [h.line, h'.line] at hline
  rw [h.column, h'.column] at hcolumn
  exact ⟨Option.some.inj hfile, Option.some.inj hline, Option.some.inj hcolumn⟩

/-- The reference can be read from an issue of a spelling, up to the quote behind it. -/
theorem name_eq_of_spellingIssue (hp : '\'' ∉ p.name.toList) (hq : '\'' ∉ q.name.toList)
    (heq : (State.spellingIssue m p).key = (State.spellingIssue m q).key) : p.name = q.name := by
  have hquote : "' (first seen at ".toList = '\'' :: " (first seen at ".toList := rfl
  have hmessage := congrArg (fun key => key.message.toList) heq
  simp only [Issue.key, State.spellingIssue, issueAt, String.toList_append, List.append_assoc,
    List.append_cancel_left_eq, hquote, List.cons_append] at hmessage
  have hname := congrArg (List.takeWhile (· != '\'')) hmessage
  rw [Lists.takeWhile_append_cons hp, Lists.takeWhile_append_cons hq] at hname
  exact String.toList_inj.1 hname

theorem full_eq_of_nicknameMessage {short full full' : String}
    (heq : State.nicknameMessage short full = State.nicknameMessage short full') :
    full = full' := by
  have hmessage := congrArg String.toList heq
  simp only [State.nicknameMessage, String.toList_append, List.append_assoc,
    List.append_cancel_left_eq, List.append_cancel_right_eq] at hmessage
  exact String.toList_inj.1 hmessage

end Apart

/-! ## The issues of a file are not the same -/

section File

variable {settings : Settings} {notes : List FileNotes} {mentions : List Mention} {m : Mention}

theorem pairwise_references (settings : Settings) (notes : List FileNotes) (name : String) :
    ((State.ofNotes settings notes).references name).Nodup := by
  refine List.Nodup.map_on ?_ ((State.nodup_misspellings settings notes).filter _)
  rintro ⟨flagged, reference⟩ h ⟨flagged', reference'⟩ h' rfl
  simp only [List.mem_filter, beq_iff_eq] at h h'
  rw [h.2, h'.2]

theorem Unquoted.pairwise_spellingIssuesOf (h : Unquoted settings notes) (m : Mention) :
    ((State.ofNotes settings notes).spellingIssuesOf m).Pairwise fun i j => i.key ≠ j.key := by
  have hledger := ledger_ofNotes settings notes
  -- All of them stand at the mention, so only the quoted references tell them apart.
  rw [State.spellingIssuesOf, List.pairwise_filterMap]
  refine (pairwise_references settings notes _).imp ?_
  intro name name' hne i hi j hj hkey
  obtain ⟨p, hp, rfl⟩ := Option.map_eq_some_iff.1 hi
  obtain ⟨q, hq, rfl⟩ := Option.map_eq_some_iff.1 hj
  obtain ⟨hmem, rfl⟩ := hledger.find?_eq_some_iff.1 hp
  obtain ⟨hmem', rfl⟩ := hledger.find?_eq_some_iff.1 hq
  exact hne (name_eq_of_spellingIssue (h.not_mem_name hmem) (h.not_mem_name hmem') hkey)

theorem pairwise_filterMap_mentions {rule : Mention → Option Issue} {code : String}
    (hrule : ∀ m issue, rule m = some issue → IsAt code m.location issue)
    (hplaces : mentions.Pairwise fun m m' => ¬SamePlace m.location m'.location) :
    (mentions.filterMap rule).Pairwise fun i j => i.key ≠ j.key := by
  rw [List.pairwise_filterMap]
  refine hplaces.imp ?_
  intro m m' hplace i hi j hj hkey
  exact hplace ((hrule m i hi).samePlace (hrule m' j hj) hkey)

theorem Placed.pairwise_nicknames (h : Placed notes) (path : String) :
    ((State.ofNotes settings notes).nicknames.filterMap
      ((State.ofNotes settings notes).nicknameIssue? path)).Pairwise fun i j => i.key ≠ j.key := by
  have hledger := ledger_ofNotes settings notes
  rw [List.pairwise_filterMap]
  refine (State.nodup_nicknames settings notes).imp ?_
  rintro ⟨full, short⟩ ⟨full', short'⟩ hne i hi j hj hkey
  obtain ⟨p, hp, -⟩ := State.tellsNickname hi
  obtain ⟨q, hq, -⟩ := State.tellsNickname hj
  obtain ⟨hmem, hshort⟩ := hledger.find?_eq_some_iff.1 hp.found
  obtain ⟨hmem', hshort'⟩ := hledger.find?_eq_some_iff.1 hq.found
  -- The place tells the short forms apart, and the message the full ones.
  have hname := h.name_eq hmem hmem' (hp.isAt.samePlace hq.isAt hkey)
  obtain rfl : short = short' := hshort.symm.trans (hname.trans hshort')
  have hmessage : i.message = j.message := congrArg IssueKey.message hkey
  rw [hp.message, hq.message] at hmessage
  obtain rfl := full_eq_of_nicknameMessage hmessage
  exact hne rfl

theorem Placed.pairwise_issuesOf (h : Placed notes) (hunquoted : Unquoted settings notes)
    (strict : Bool) {f : FileNotes} (hf : f ∈ notes) :
    ((State.ofNotes settings notes).issuesOf strict f.path).Pairwise
      fun i j => i.key ≠ j.key := by
  have hplaces : (((State.ofNotes settings notes).mentions.lookup f.path).getD []).Pairwise
      fun m m' => ¬SamePlace m.location m'.location :=
    h.pairwise_mentions hf
  rw [State.issuesOf]
  -- Issues of one rule are told apart by their places, and those of two rules by their codes.
  refine List.pairwise_append.2 ⟨List.pairwise_append.2 ⟨List.pairwise_append.2 ⟨?_, ?_, ?_⟩,
    ?_, ?_⟩, h.pairwise_nicknames f.path, ?_⟩
  · refine List.pairwise_flatMap.2 ⟨fun m _ => hunquoted.pairwise_spellingIssuesOf m, ?_⟩
    refine hplaces.imp ?_
    intro m m' hplace i hi j hj hkey
    exact hplace ((State.isAt_of_mem_spellingIssuesOf hi).samePlace
      (State.isAt_of_mem_spellingIssuesOf hj) hkey)
  · unfold State.introductionIssues
    split
    · exact pairwise_filterMap_mentions (fun m i => State.isAt_of_introductionIssue) hplaces
    · exact .nil
  · intro i hi j hj
    exact key_ne_of_code (State.code_of_spellings hi) (State.code_of_introductions hj) (by decide)
  · exact pairwise_filterMap_mentions (fun m i => State.isAt_of_pronounIssue) hplaces
  · intro i hi j hj
    rcases List.mem_append.1 hi with hi | hi
    · exact key_ne_of_code (State.code_of_spellings hi) (State.code_of_pronouns hj) (by decide)
    · exact key_ne_of_code (State.code_of_introductions hi) (State.code_of_pronouns hj) (by decide)
  · intro i hi j hj
    rcases List.mem_append.1 hi with hi | hi
    · rcases List.mem_append.1 hi with hi | hi
      · exact key_ne_of_code (State.code_of_spellings hi) (State.code_of_nicknames hj) (by decide)
      · exact key_ne_of_code (State.code_of_introductions hi) (State.code_of_nicknames hj)
          (by decide)
    · exact key_ne_of_code (State.code_of_pronouns hi) (State.code_of_nicknames hj) (by decide)

theorem Placed.file_of_mem_issuesOf (h : Placed notes) {strict : Bool} {path : String}
    {issue : Issue} (hissue : issue ∈ (State.ofNotes settings notes).issuesOf strict path) :
    issue.file = some path := by
  have hmention {code : String}
      (hat : ∃ m ∈ ((State.ofNotes settings notes).mentions.lookup path).getD [],
        IsAt code m.location issue) : issue.file = some path := by
    obtain ⟨m, hm, hat⟩ := hat
    obtain ⟨f, hf, rfl, hmem, -⟩ :=
      mem_entriesOf.1 ((ledger_ofNotes settings notes).mem_mentions.1 hm)
    rw [hat.file, h.located f hf m hmem]
  rw [State.issuesOf] at hissue
  simp only [List.mem_append] at hissue
  rcases hissue with ((hissue | hissue) | hissue) | hissue
  · exact hmention (State.exists_isAt_of_spellings hissue)
  · exact hmention (State.exists_isAt_of_introductions hissue)
  · exact hmention (State.exists_isAt_of_pronouns hissue)
  · obtain ⟨n, -, short, htells, rfl⟩ := State.exists_isAt_of_nicknames hissue
    exact htells.isAt.file

end File

/-! ## All files -/

namespace State

/-- The issues of files, one file after the other. -/
def issuesIn (s : State) (strict : Bool) (files : List String) : List Issue :=
  files.flatMap (s.issuesOf strict)

/-- The issues of a misspelling: one at each mention of the flagged character in files. -/
def Accuses (s : State) (files : List String) (w : Misspelling) (issues : List Issue) : Prop :=
  ∃ reference, s.find? w.reference = some reference ∧
    issues = (s.mentionsAlong files w.flagged).map (spellingIssue · reference)

variable {s : State} {n : Nickname} {p : Profile}

theorem spellingIssuesOf_eq (s : State) (m : Mention) :
    s.spellingIssuesOf m = s.misspellings.flatMap fun w =>
      if s.canonical m.name == w.flagged then ((s.find? w.reference).map (spellingIssue m)).toList
      else [] := by
  unfold spellingIssuesOf references
  induction s.misspellings with
  | nil => rfl
  | cons w rest ih =>
      rw [List.filter_cons, List.flatMap_cons, ← ih, BEq.comm (a := w.flagged)]
      split
      · rw [List.map_cons, List.filterMap_cons]
        cases s.find? w.reference <;> rfl
      · rfl

/-- The issue of a nickname belongs to one file. -/
theorem exists_nicknameIssue (hshort : s.find? n.short = some p)
    (hfull : ∃ full, s.find? n.full = some full) :
    ∃ issue, s.TellsNickname n issue p ∧
      ∀ path, s.nicknameIssue? path n = if path = p.firstSeen.file then some issue else none := by
  obtain ⟨full, hfull⟩ := hfull
  cases hissue : s.nicknameIssue? p.firstSeen.file n with
  | none => simp [nicknameIssue?, hshort, hfull] at hissue
  | some issue =>
      obtain ⟨short, htells, -⟩ := tellsNickname hissue
      obtain rfl : p = short := Option.some.inj (hshort.symm.trans htells.found)
      refine ⟨issue, htells, fun path => ?_⟩
      split
      next hpath => rw [hpath, hissue]
      next hpath => simp [nicknameIssue?, hshort, hfull, Ne.symm hpath]

end State

section Project

variable {settings : Settings} {notes : List FileNotes}

theorem Placed.nodup_keys (h : Placed notes) (hunquoted : Unquoted settings notes)
    (strict : Bool) :
    (((State.ofNotes settings notes).issuesIn strict
      (State.ofNotes settings notes).files).map Issue.key).Nodup := by
  have hfiles := (ledger_ofNotes settings notes).files_eq
  have hnodup : (State.ofNotes settings notes).files.Nodup :=
    hfiles ▸ State.nodup_sortNotes h.paths
  rw [List.Nodup, List.pairwise_map, State.issuesIn, List.pairwise_flatMap]
  constructor
  · intro path hpath
    rw [hfiles] at hpath
    obtain ⟨f, hf, rfl⟩ := List.mem_map.1 hpath
    exact h.pairwise_issuesOf hunquoted strict (State.mem_sortNotes.1 hf)
  · refine hnodup.imp ?_
    intro path path' hne i hi j hj hkey
    have hfile : i.file = j.file := congrArg IssueKey.file hkey
    rw [h.file_of_mem_issuesOf hi, h.file_of_mem_issuesOf hj] at hfile
    exact hne (Option.some.inj hfile)

/-- Each misspelling is reported at each mention of the character, and there is no other issue of a
spelling. -/
theorem exists_accusations (settings : Settings) (notes : List FileNotes) (strict : Bool) :
    let s := State.ofNotes settings notes
    ∃ groups, List.Forall₂ (s.Accuses s.files) s.misspellings groups ∧
      ((s.issuesIn strict s.files).filter (·.code == "CHAR001")).Perm groups.flatten := by
  intro s
  have hledger : Ledger _ _ (entriesOf notes) s := ledger_ofNotes settings notes
  have hall : (s.issuesIn strict s.files).filter (·.code == "CHAR001") =
      (s.mentionsIn s.files).flatMap s.spellingIssuesOf := by
    simp only [State.issuesIn, List.filter_flatMap, State.filter_spellings, State.mentionsIn,
      List.flatMap_assoc]
  rw [hall, List.flatMap_congr fun m _ => s.spellingIssuesOf_eq m]
  -- The issues are listed mention by mention; the groups list them misspelling by misspelling.
  refine ⟨_, ?_, (Lists.flatMap_perm_flatMap _ _ _).trans (.of_eq (List.flatMap_def ..))⟩
  refine List.forall₂_map_right_iff.2 (List.forall₂_same.2 fun w hw => ?_)
  obtain ⟨-, reference, hreference, hname⟩ := hledger.compared w hw
  have hfound := hledger.find?_eq_some_iff.2 ⟨hreference, hname⟩
  refine ⟨reference, hfound, ?_⟩
  rw [hfound]
  exact Lists.flatMap_ite_singleton _ _ _

theorem exists_of_mem_nicknames {n : Nickname}
    (h : n ∈ (State.ofNotes settings notes).nicknames) :
    (∃ p, (State.ofNotes settings notes).find? n.short = some p) ∧
      ∃ p, (State.ofNotes settings notes).find? n.full = some p := by
  have hledger := ledger_ofNotes settings notes
  rw [State.nicknames_ofNotes] at h
  obtain ⟨⟨p, q⟩, hpair, hfound⟩ := List.mem_filterMap.1 h
  obtain ⟨hp, hq⟩ := State.mem_of_mem_pairs hpair
  have hp := hledger.find?_eq_some_iff.2 ⟨List.mem_mergeSort.1 hp, rfl⟩
  have hq := hledger.find?_eq_some_iff.2 ⟨List.mem_mergeSort.1 hq, rfl⟩
  rcases (State.eq_of_nickname? hfound).2 with rfl | rfl
  · exact ⟨⟨q, hq⟩, p, hp⟩
  · exact ⟨⟨p, hp⟩, q, hq⟩

/-- Each nickname is reported where its short form is first seen, and no other issue is one of a
nickname. -/
theorem Placed.exists_nicknames (h : Placed notes) (strict : Bool) :
    let s := State.ofNotes settings notes
    ∃ issues, List.Forall₂ (fun n issue => ∃ short, s.TellsNickname n issue short) s.nicknames
        issues ∧
      ((s.issuesIn strict s.files).filter (·.code == "CHAR004")).Perm issues := by
  intro s
  have hledger : Ledger _ _ (entriesOf notes) s := ledger_ofNotes settings notes
  have hnodup : (s.files.map id).Nodup := by
    rw [List.map_id, hledger.files_eq]
    exact State.nodup_sortNotes h.paths
  have hall : (s.issuesIn strict s.files).filter (·.code == "CHAR004") =
      s.files.flatMap fun path => s.nicknames.flatMap fun n =>
        (s.nicknameIssue? path n).toList := by
    simp only [State.issuesIn, List.filter_flatMap, State.filter_nicknames,
      List.filterMap_eq_flatMap_toList]
  have hone : ∀ n ∈ s.nicknames, ∃ issue, (∃ short, s.TellsNickname n issue short) ∧
      (s.files.flatMap fun path => (s.nicknameIssue? path n).toList) = [issue] := by
    intro n hn
    obtain ⟨⟨p, hp⟩, hfull⟩ := exists_of_mem_nicknames hn
    obtain ⟨issue, htells, hissue⟩ := State.exists_nicknameIssue hp hfull
    refine ⟨issue, ⟨p, htells⟩, ?_⟩
    -- Only the file where the short form is first seen reports it, and it is gone through once.
    have hfile := h.file_mem (hledger.find?_eq_some_iff.1 hp).1
    rw [← Lists.flatMap_ite_of_mem id hnodup hfile fun _ => [issue]]
    refine List.flatMap_congr fun path _ => ?_
    rw [hissue]
    by_cases hpath : path = p.firstSeen.file <;> simp [hpath]
  obtain ⟨issues, hissues, heq⟩ := Lists.exists_forall₂_of_singletons hone
  refine ⟨issues, hissues, ?_⟩
  rw [hall, ← heq]
  exact Lists.flatMap_perm_flatMap _ _ _

theorem Placed.nodup_mentionsAlong (h : Placed notes) (name : String) :
    ((State.ofNotes settings notes).mentionsAlong
      (State.ofNotes settings notes).files name).Nodup := by
  have hordered := h.pairwise_entriesOf (ledger_ofNotes settings notes).files_eq
  rw [State.mentionsAlong, mentionsIn_ofNotes h.paths]
  refine List.Nodup.filter _ (List.pairwise_map.2 (hordered.imp ?_))
  intro a b hprecedes heq
  rw [heq] at hprecedes
  exact State.precedes_irrefl _ _ hprecedes

/-- The rules find all characters that they look for in every file. Taken together, the files report
each misspelling once at each mention of the flagged character, each nickname once where its short
form is first seen, and no others. A collector keeps all of these issues, and also whichever of them
it is given in whatever order. -/
theorem spellings_and_nicknames_reported_once (settings : Settings) {notes : List FileNotes}
    (h : Placed notes) (hunquoted : Unquoted settings notes) (strict : Bool) :
    let s := State.ofNotes settings notes
    ∃ found, s.files.mapM (s.fileIssues strict) = .ok found ∧
      (∃ groups, List.Forall₂ (s.Accuses s.files) s.misspellings groups ∧
        (found.flatten.filter (·.code == "CHAR001")).Perm groups.flatten) ∧
      (∀ name, (s.mentionsAlong s.files name).Nodup ∧ ∀ m, m ∈ s.mentionsAlong s.files name ↔
        (∃ f ∈ notes, m ∈ f.mentions) ∧ ¬IsOrdinary notes m.name ∧ s.canonical m.name = name) ∧
      (∃ issues, List.Forall₂ (fun n issue => ∃ short, s.TellsNickname n issue short) s.nicknames
          issues ∧
        (found.flatten.filter (·.code == "CHAR004")).Perm issues) ∧
      ∀ (c : Collector) (given : List Issue), c.issuesOf validatorId = [] →
        given.Subperm found.flatten →
          (c.addAll validatorId given).issuesOf validatorId = given := by
  intro s
  have hledger : Ledger _ _ (entriesOf notes) s := ledger_ofNotes settings notes
  have hfound : s.files.mapM (s.fileIssues strict) = .ok (s.files.map (s.issuesOf strict)) :=
    mapM_eq_ok_iff.2 (List.forall₂_map_right_iff.2 (List.forall₂_same.2 fun path _ =>
      hledger.fileIssues_eq strict path))
  refine ⟨_, hfound, ?_⟩
  rw [← List.flatMap_def]
  refine ⟨exists_accusations settings notes strict, fun name => ⟨h.nodup_mentionsAlong name,
    fun m => mem_mentionsAlong h.paths⟩, h.exists_nicknames strict, ?_⟩
  rintro c given hnone ⟨kept, hperm, hsub⟩
  have hnodup : ((c.issuesOf validatorId ++ given).map Issue.key).Nodup := by
    rw [hnone, List.nil_append]
    exact (hperm.map Issue.key).nodup_iff.1 ((h.nodup_keys hunquoted strict).sublist (hsub.map _))
  rw [Collector.issuesOf_addAll_of_nodup hnodup, hnone, List.nil_append]

/-- Jon has a short form of Jonathan's name, and Jonathon is taken for a misspelling of it. -/
theorem jonathon_reported_once :
    let jon : Mention := { name := "Jon", location := ⟨"a.md", 1, 6, 5⟩ }
    let jonathan : Mention := { name := "Jonathan", location := ⟨"b.md", 1, 6, 5⟩ }
    let jonathon : Mention := { name := "Jonathon", location := ⟨"c.md", 1, 6, 5⟩ }
    let notes : List FileNotes :=
      [{ path := "a.md", mentions := [jon] }, { path := "b.md", mentions := [jonathan] },
        { path := "c.md", mentions := [jonathon] }]
    let s := State.ofNotes {} notes
    Placed notes ∧ Unquoted {} notes ∧ s.misspellings = [⟨"Jonathon", "Jonathan"⟩] ∧
      s.nicknames = [⟨"Jonathan", "Jon"⟩] ∧
      ∃ found, s.files.mapM (s.fileIssues false) = .ok found ∧
        (found.flatten.filter (·.code == "CHAR001")).length = 1 ∧
        (found.flatten.filter (·.code == "CHAR004")).length = 1 := by
  intro jon jonathan jonathon notes s
  have hplaced : Placed notes :=
    ⟨⟨by decide, by decide, by decide⟩, by decide⟩
  have hunquoted : Unquoted {} notes := ⟨by decide, by decide, by decide⟩
  have hsorted : State.sortNotes notes = notes := State.sortNotes_of_pairwise (by decide +kernel)
  obtain ⟨t, hs, hmisspellings, hnicknames, hmentions⟩ : ∃ t, s = t ∧
      t.misspellings = [⟨"Jonathon", "Jonathan"⟩] ∧ t.nicknames = [⟨"Jonathan", "Jon"⟩] ∧
      t.mentionsAlong t.files "Jonathon" = [jonathon] := by
    have hs : s = State.ofNotes {} notes := rfl
    rw [State.ofNotes, hsorted] at hs
    dsimp only at hs
    rw [State.compareAll, List.mergeSort_of_pairwise (by decide +kernel)] at hs
    exact ⟨_, hs, by decide +kernel, by decide +kernel, by decide +kernel⟩
  rw [← hs] at hmisspellings hnicknames hmentions
  obtain ⟨found, hfound, ⟨groups, hgroups, hspellings⟩, -, ⟨issues, hissues, hnicks⟩, -⟩ :=
    spellings_and_nicknames_reported_once {} hplaced hunquoted false
  refine ⟨hplaced, hunquoted, hmisspellings, hnicknames, found, hfound, ?_, ?_⟩
  · rw [hmisspellings] at hgroups
    obtain ⟨_, _, ⟨reference, -, rfl⟩, hnone, rfl⟩ := List.forall₂_cons_left_iff.1 hgroups
    obtain rfl := List.forall₂_nil_left_iff.1 hnone
    rw [hspellings.length_eq, hmentions]
    rfl
  · rw [hnicks.length_eq, ← hissues.length_eq, hnicknames]
    rfl

end Project

end Continuity.Character
