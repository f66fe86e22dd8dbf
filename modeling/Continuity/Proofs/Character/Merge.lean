import Continuity.Proofs.Character.Mention
import Continuity.Proofs.Data.Lists
import Continuity.Proofs.Files.Order

/-! # The order in which notes arrive

Notes are put into the order of their files, and what stands in a file into the order of its places,
before anything is made of them. So the state of all notes does not depend on the order in which the
notes arrive, nor on the order of the mentions and declarations of pronouns in any of them.
-/

namespace Continuity.Character

/-- Notes on a file differ at most in the order of the mentions and of the declarations of pronouns,
which then have places of their own, and in how the words are listed. -/
structure FileNotes.Rearranged (f g : FileNotes) : Prop where
  path : f.path = g.path
  mentions : f.mentions = g.mentions ∨
    f.mentions.Perm g.mentions ∧ (f.mentions.map (·.location.offset)).Nodup
  aliases : f.aliases = g.aliases
  declaredPronouns : f.declaredPronouns = g.declaredPronouns
  pronounChanges : f.pronounChanges = g.pronounChanges ∨
    f.pronounChanges.Perm g.pronounChanges ∧ (f.pronounChanges.map (·.location.offset)).Nodup
  relationships : f.relationships = g.relationships
  lowercaseWords : ∀ word, word ∈ f.lowercaseWords ↔ word ∈ g.lowercaseWords

/-- Notes are the same but for their order, and for the order within each of them. -/
def Rearranged (notes notes' : List FileNotes) : Prop :=
  ∃ between, notes.Perm between ∧ List.Forall₂ FileNotes.Rearranged between notes'

namespace FileNotes.Rearranged

variable {f g : FileNotes}

theorem refl (f : FileNotes) : f.Rearranged f :=
  ⟨rfl, .inl rfl, rfl, rfl, .inl rfl, rfl, fun _ => Iff.rfl⟩

theorem sortMentions_eq (h : f.Rearranged g) :
    State.sortMentions f.mentions = State.sortMentions g.mentions := by
  rcases h.mentions with heq | ⟨hperm, hoffsets⟩
  · rw [heq]
  · exact Sorting.mergeSort_congr_of_key hperm hoffsets

theorem sortChanges_eq (h : f.Rearranged g) :
    State.sortChanges f.pronounChanges = State.sortChanges g.pronounChanges := by
  rcases h.pronounChanges with heq | ⟨hperm, hoffsets⟩
  · rw [heq]
  · exact Sorting.mergeSort_congr_of_key hperm hoffsets

theorem mem_mentions (h : f.Rearranged g) {m : Mention} : m ∈ f.mentions ↔ m ∈ g.mentions := by
  rw [← State.mem_sortMentions, h.sortMentions_eq, State.mem_sortMentions]

theorem aliasesOf_eq (h : f.Rearranged g) : State.aliasesOf f = State.aliasesOf g := by
  rw [State.aliasesOf, State.aliasesOf, h.aliases]

theorem addDeclared_eq (h : f.Rearranged g) (s : State) : s.addDeclared f = s.addDeclared g := by
  rw [State.addDeclared, State.addDeclared, h.declaredPronouns, h.relationships]

theorem addFile_eq (h : f.Rearranged g) {ordinary ordinary' : List String}
    (hordinary : ∀ name, name ∈ ordinary ↔ name ∈ ordinary') (s : State) :
    s.addFile ordinary f = s.addFile ordinary' g := by
  rw [State.addFile, State.addFile, h.sortMentions_eq, h.sortChanges_eq, h.path]
  simp only [Lists.contains_congr hordinary]

end FileNotes.Rearranged

namespace State

variable {notes notes' : List FileNotes}

theorem mem_ordinaryWords_congr
    (hmentions : ∀ m, m ∈ notes.flatMap (·.mentions) ↔ m ∈ notes'.flatMap (·.mentions))
    (hwords : ∀ word, word ∈ notes.flatMap (·.lowercaseWords) ↔
      word ∈ notes'.flatMap (·.lowercaseWords)) (name : String) :
    name ∈ ordinaryWords notes ↔ name ∈ ordinaryWords notes' := by
  simp only [ordinaryWords, List.mem_eraseDups, List.mem_map, List.mem_filter, Bool.and_eq_true,
    Bool.not_eq_true', ← Bool.not_eq_true, List.contains_iff_mem, hmentions, hwords]

theorem sortNotes_congr (h : notes.Perm notes')
    (hpaths : (notes.map fun f => Path.ofString f.path).Nodup) :
    sortNotes notes = sortNotes notes' :=
  Path.mergeSort_congr h hpaths

theorem pairwise_sortNotes (notes : List FileNotes) :
    ((sortNotes notes).map fun f => Path.ofString f.path).Pairwise fun p q => p.le q = true :=
  Path.pairwise_mergeSort FileNotes.path notes

theorem sortNotes_of_pairwise
    (h : (notes.map fun f => Path.ofString f.path).Pairwise fun p q => p.le q = true) :
    sortNotes notes = notes :=
  List.mergeSort_of_pairwise (List.pairwise_map.1 h)

/-- Rearranged notes are rearranged, file by file, after they have been sorted. -/
theorem forall₂_sortNotes (h : Rearranged notes notes')
    (hpaths : (notes.map fun f => Path.ofString f.path).Nodup) :
    List.Forall₂ FileNotes.Rearranged (sortNotes notes) (sortNotes notes') := by
  obtain ⟨between, hperm, hfiles⟩ := h
  obtain ⟨sorted, hsorted, hperm'⟩ :=
    List.perm_comp_forall₂ (sortNotes_perm between) hfiles
  have hplaces : (sortNotes between).map (fun f => Path.ofString f.path) =
      sorted.map fun f => Path.ofString f.path :=
    Lists.map_eq_of_forall₂ hsorted fun f g hfg => congrArg Path.ofString hfg.path
  have hpaths' : (sorted.map fun f => Path.ofString f.path).Nodup :=
    hplaces ▸ (((sortNotes_perm between).trans hperm.symm).map _).nodup_iff.2 hpaths
  -- The other notes, taken in the order of the sorted ones, are sorted as well.
  have hordered : sortNotes sorted = sorted :=
    sortNotes_of_pairwise (hplaces ▸ pairwise_sortNotes between)
  rw [sortNotes_congr hperm hpaths, ← sortNotes_congr hperm' hpaths', hordered]
  exact hsorted

/-- The state of all notes does not depend on the order of the notes, nor on the order in them. -/
theorem ofNotes_congr (settings : Settings) (h : Rearranged notes notes')
    (hpaths : (notes.map fun f => Path.ofString f.path).Nodup) :
    ofNotes settings notes = ofNotes settings notes' := by
  have hsorted := forall₂_sortNotes h hpaths
  -- Whatever is read of the notes in their order is the same for those that correspond.
  have hfiles := Lists.map_eq_of_forall₂ hsorted fun f g hfg => hfg.path
  have haliases := congrArg List.flatten
    (Lists.map_eq_of_forall₂ hsorted fun f g hfg => hfg.aliasesOf_eq)
  rw [← List.flatMap_def, ← List.flatMap_def] at haliases
  have hordinary := mem_ordinaryWords_congr
    (Lists.mem_flatMap_iff_of_forall₂ hsorted fun f g hfg _ => hfg.mem_mentions)
    (Lists.mem_flatMap_iff_of_forall₂ hsorted fun f g hfg => hfg.lowercaseWords)
  have hadd (s : State) := Lists.foldl_eq_of_forall₂ hsorted
    (fun f g hfg => hfg.addFile_eq hordinary) s
  have hdeclared (s : State) := Lists.foldl_eq_of_forall₂ hsorted
    (fun f g hfg => hfg.addDeclared_eq) s
  simp only [ofNotes, hfiles, haliases, hadd, hdeclared]

end State

end Continuity.Character

/-! ## The mentions of a project from the first to the last

The mentions of all files that count are the mentions of the first file, then those of the second,
and so on. What is noted of the places and of the introduction and the pronouns of a character
follows them in this sequence.
-/

namespace Continuity.Character

namespace State

/-- The mentions in files, one file after the other. -/
def mentionsIn (s : State) (files : List String) : List Mention :=
  files.flatMap fun path => (s.mentions.lookup path).getD []

/-- The mentions of a character in files, one file after the other. -/
def mentionsAlong (s : State) (files : List String) (name : String) : List Mention :=
  (s.mentionsIn files).filter fun m => s.canonical m.name == name

/-- What is noted of a character follows its mentions in files, one file after the other. -/
structure Follows (s : State) (files : List String) (p : Profile) : Prop where
  appearances : p.appearances = (s.mentionsAlong files p.name).map (·.location)
  firstSeen : (s.mentionsAlong files p.name).head?.map (·.location) = some p.firstSeen
  told : p.Told (s.mentionsAlong files p.name)

end State

section Notes

variable {notes : List FileNotes} {f : FileNotes} {settings : Settings}

/-- The mentions of a file are those of its notes that count, in the order of the text. -/
theorem mentions_ofNotes (hpaths : (notes.map (·.path)).Nodup) (hf : f ∈ notes) :
    ((State.ofNotes settings notes).mentions.lookup f.path).getD [] =
      keptMentions (State.ordinaryWords (State.sortNotes notes)) f := by
  have hkept (ordinary : List String) (g : FileNotes) :
      (keptEntries ordinary g).filter (·.1 == f.path) =
        if g.path = f.path then keptEntries ordinary g else [] := by
    split
    next hpath => simp [keptEntries, hpath]
    next hpath => simp [keptEntries, hpath]
  have hfile := State.mem_sortNotes.2 hf
  rw [(ledger_ofNotes settings notes).mentions, entriesOf, List.filter_flatMap]
  simp only [hkept]
  rw [Lists.flatMap_ite_of_mem FileNotes.path (State.nodup_sortNotes hpaths) hfile, keptEntries,
    List.map_map]
  exact List.map_id _

theorem mentionsIn_ofNotes (hpaths : (notes.map (·.path)).Nodup) :
    (State.ofNotes settings notes).mentionsIn (State.ofNotes settings notes).files =
      (entriesOf notes).map (·.2) := by
  rw [(ledger_ofNotes settings notes).files_eq, State.mentionsIn, List.flatMap_map, entriesOf,
    List.map_flatMap]
  refine List.flatMap_congr fun f hf => ?_
  rw [mentions_ofNotes hpaths (State.mem_sortNotes.1 hf), keptEntries, List.map_map]
  exact (List.map_id _).symm

/-- The mentions of a character are those that count and whose names resolve to its own. -/
theorem mem_mentionsAlong (hpaths : (notes.map (·.path)).Nodup) {name : String} {m : Mention} :
    m ∈ (State.ofNotes settings notes).mentionsAlong (State.ofNotes settings notes).files name ↔
      (∃ f ∈ notes, m ∈ f.mentions) ∧ ¬IsOrdinary notes m.name ∧
        (State.ofNotes settings notes).canonical m.name = name := by
  rw [State.mentionsAlong, mentionsIn_ofNotes hpaths, List.mem_filter, beq_iff_eq, List.mem_map]
  constructor
  · rintro ⟨⟨⟨path, m⟩, hentry, rfl⟩, hname⟩
    obtain ⟨f, hf, -, hm, hcounts⟩ := mem_entriesOf.1 hentry
    exact ⟨⟨f, hf, hm⟩, hcounts, hname⟩
  · rintro ⟨⟨f, hf, hm⟩, hcounts, hname⟩
    exact ⟨⟨(f.path, m), mem_entriesOf.2 ⟨f, hf, rfl, hm, hcounts⟩, rfl⟩, hname⟩

theorem pairwise_mentions_ofNotes (hpaths : (notes.map (·.path)).Nodup) (hf : f ∈ notes) :
    (((State.ofNotes settings notes).mentions.lookup f.path).getD []).Pairwise
      fun a b => a.location.offset ≤ b.location.offset := by
  rw [mentions_ofNotes hpaths hf]
  exact (Sorting.pairwise_of_key _ _).filter _

/-- All characters follow the files. -/
theorem follows_ofNotes (hpaths : (notes.map (·.path)).Nodup) {p : Profile}
    (hp : p ∈ (State.ofNotes settings notes).characters) :
    (State.ofNotes settings notes).Follows (State.ofNotes settings notes).files p := by
  have hledger := ledger_ofNotes settings notes
  have halong : (State.ofNotes settings notes).mentionsAlong
      (State.ofNotes settings notes).files p.name =
        (mentionsOf (namesOf settings notes) (entriesOf notes) p.name).map (·.2) := by
    rw [State.mentionsAlong, mentionsIn_ofNotes hpaths, List.filter_map, mentionsOf]
    simp only [State.canonical, hledger.names_eq]
    rfl
  have happearances : p.appearances = ((State.ofNotes settings notes).mentionsAlong
      (State.ofNotes settings notes).files p.name).map (·.location) := by
    rw [hledger.appearances p hp, halong, List.map_map]
    rfl
  refine ⟨happearances, ?_, halong ▸ hledger.told p hp⟩
  rw [← List.head?_map, ← happearances]
  exact hledger.firstSeen p hp

end Notes

end Continuity.Character
