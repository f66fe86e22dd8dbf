import Mathlib.Data.List.Nodup
import Mathlib.Data.List.Flatten
import Continuity.Proofs.Character.Configured
import Continuity.Proofs.Character.Rules
import Continuity.Proofs.Data.Lists

/-! # Every mention counts once

The notes of a project are taken of different files, and in each file at different places. Then the
places of all mentions that count are strictly ordered, so each of them is known once: with its file
and with the one character that its name resolves to. The mentions that do not count are those of
ordinary words.
-/

namespace Continuity.Character

/-- Notes on different files, with each mention at a place of its own. -/
structure Distinct (notes : List FileNotes) : Prop where
  paths : (notes.map (·.path)).Nodup
  located : ∀ f ∈ notes, ∀ m ∈ f.mentions, m.location.file = f.path
  offsets : ∀ f ∈ notes, (f.mentions.map (·.location.offset)).Nodup

/-- A name that is only an ordinary word at the front of sentences. -/
structure IsOrdinary (notes : List FileNotes) (name : String) : Prop where
  mentioned : ∃ f ∈ notes, ∃ m ∈ f.mentions, m.name = name
  sentenceInitial : ∀ f ∈ notes, ∀ m ∈ f.mentions, m.name = name → m.sentenceInitial = true
  single : ' ' ∉ name.toList
  lowercase : ∃ f ∈ notes, Text.lower name ∈ f.lowercaseWords

namespace State

variable {notes : List FileNotes} {f : FileNotes} {name : String} {mentions : List Mention}

theorem sortNotes_perm (notes : List FileNotes) : (sortNotes notes).Perm notes :=
  List.mergeSort_perm notes _

@[simp] theorem mem_sortNotes : f ∈ sortNotes notes ↔ f ∈ notes := (sortNotes_perm notes).mem_iff

theorem nodup_sortNotes (h : (notes.map (·.path)).Nodup) :
    ((sortNotes notes).map (·.path)).Nodup :=
  ((sortNotes_perm notes).map _).nodup_iff.2 h

@[simp] theorem mem_sortMentions {m : Mention} : m ∈ sortMentions mentions ↔ m ∈ mentions :=
  (List.mergeSort_perm mentions _).mem_iff

theorem mem_ordinaryWords : name ∈ ordinaryWords notes ↔ IsOrdinary notes name := by
  simp only [ordinaryWords, List.mem_eraseDups, List.mem_map, List.mem_filter, List.mem_flatMap,
    Bool.and_eq_true, Bool.not_eq_true', ← Bool.not_eq_true, List.contains_iff_mem]
  constructor
  · rintro ⟨m, ⟨⟨f, hf, hm⟩, ⟨⟨-, hinner⟩, hsingle⟩, hlowercase⟩, rfl⟩
    refine ⟨⟨f, hf, m, hm, rfl⟩, ?_, hsingle, hlowercase⟩
    intro g hg m' hm' hname
    by_contra hinitial
    exact hinner ⟨m', ⟨⟨g, hg, hm'⟩, by simpa using hinitial⟩, hname⟩
  · rintro ⟨⟨f, hf, m, hm, rfl⟩, hinitial, hsingle, hlowercase⟩
    refine ⟨m, ⟨⟨f, hf, hm⟩, ⟨⟨hinitial f hf m hm rfl, ?_⟩, hsingle⟩, hlowercase⟩, rfl⟩
    rintro ⟨m', ⟨⟨g, hg, hm'⟩, hinner⟩, hname⟩
    exact hinner (hinitial g hg m' hm' hname)

/-- The mentions of a file are put into the order of their offsets. -/
theorem pairwise_sortMentions (h : (mentions.map (·.location.offset)).Nodup) :
    (sortMentions mentions).Pairwise fun a b => a.location.offset < b.location.offset := by
  have hordered := Sorting.pairwise_of_key (fun m : Mention => m.location.offset) mentions
  have hnodup : ((sortMentions mentions).map (·.location.offset)).Nodup :=
    ((List.mergeSort_perm mentions _).map _).nodup_iff.2 h
  refine (hordered.and (List.pairwise_map.1 hnodup)).imp ?_
  rintro a b ⟨hle, hne⟩
  exact lt_of_le_of_ne hle hne

end State

instance (notes : List FileNotes) (name : String) : Decidable (IsOrdinary notes name) :=
  decidable_of_iff _ State.mem_ordinaryWords

section Notes

variable {notes notes' : List FileNotes} {f g : FileNotes} {m m' : Mention} {name path : String}

/-- The order of the files does not matter for what an ordinary word is. -/
theorem IsOrdinary.congr (h : ∀ f, f ∈ notes ↔ f ∈ notes') :
    IsOrdinary notes name ↔ IsOrdinary notes' name := by
  constructor
  · rintro ⟨hmentioned, hinitial, hsingle, hlowercase⟩
    simp only [h] at hmentioned hinitial hlowercase
    exact ⟨hmentioned, hinitial, hsingle, hlowercase⟩
  · rintro ⟨hmentioned, hinitial, hsingle, hlowercase⟩
    simp only [← h] at hmentioned hinitial hlowercase
    exact ⟨hmentioned, hinitial, hsingle, hlowercase⟩

theorem mem_keptEntries {ordinary : List String} :
    (path, m) ∈ keptEntries ordinary f ↔ f.path = path ∧ m ∈ f.mentions ∧ m.name ∉ ordinary := by
  simp [keptEntries, keptMentions, and_comm]

/-- The mentions that count are those of names that are no ordinary words. -/
theorem mem_entriesOf :
    (path, m) ∈ entriesOf notes ↔
      ∃ f ∈ notes, f.path = path ∧ m ∈ f.mentions ∧ ¬IsOrdinary notes m.name := by
  have hordinary : m.name ∈ State.ordinaryWords (State.sortNotes notes) ↔
      IsOrdinary notes m.name :=
    State.mem_ordinaryWords.trans (IsOrdinary.congr fun _ => State.mem_sortNotes)
  simp only [entriesOf, List.mem_flatMap, mem_keptEntries, State.mem_sortNotes, hordinary]

namespace Distinct

/-- Where mentions of a file have keys of their own, there is one mention with a file and key. -/
theorem eq_of_key (h : Distinct notes) {κ : Type} {key : Mention → κ}
    (hkeys : ∀ f ∈ notes, (f.mentions.map key).Nodup) (hf : f ∈ notes) (hm : m ∈ f.mentions)
    (hg : g ∈ notes) (hm' : m' ∈ g.mentions) (hfile : m.location.file = m'.location.file)
    (hkey : key m = key m') : f = g ∧ m = m' := by
  have hpath : f.path = g.path := by
    rw [← h.located f hf m hm, ← h.located g hg m' hm', hfile]
  obtain rfl : f = g := List.inj_on_of_nodup_map h.paths hf hg hpath
  exact ⟨rfl, List.inj_on_of_nodup_map (hkeys f hf) hm hm' hkey⟩

theorem eq_of_location (h : Distinct notes) (hf : f ∈ notes) (hm : m ∈ f.mentions) (hg : g ∈ notes)
    (hm' : m' ∈ g.mentions) (hlocation : m.location = m'.location) : f = g ∧ m = m' :=
  h.eq_of_key h.offsets hf hm hg hm' (congrArg Location.file hlocation)
    (congrArg Location.offset hlocation)

/-- The files come in the order of their numbers. -/
theorem pairwise_fileIndex (h : Distinct notes) {s : State}
    (hfiles : s.files = (State.sortNotes notes).map (·.path)) :
    (State.sortNotes notes).Pairwise fun f g => s.fileIndex f.path < s.fileIndex g.path := by
  have hnodup : s.files.Nodup := hfiles ▸ State.nodup_sortNotes h.paths
  rw [← List.pairwise_map (f := FileNotes.path) (R := fun p q => s.fileIndex p < s.fileIndex q),
    ← hfiles, List.pairwise_iff_getElem]
  intro i j hi hj hij
  rw [State.fileIndex, State.fileIndex, hnodup.idxOf_getElem, hnodup.idxOf_getElem]
  exact hij

theorem pairwise_keptEntries (h : Distinct notes) (s : State) (ordinary : List String)
    (hf : f ∈ notes) :
    (keptEntries ordinary f).Pairwise
      fun a b => s.precedes a.2.location b.2.location = true := by
  rw [keptEntries, List.pairwise_map]
  have hoffsets := (State.pairwise_sortMentions (h.offsets f hf)).filter
    fun m => !ordinary.contains m.name
  refine hoffsets.imp_of_mem ?_
  intro m m' hm hm' hlt
  have hplace {m : Mention} (hm : m ∈ keptMentions ordinary f) : m.location.file = f.path :=
    h.located f hf m (State.mem_sortMentions.1 (List.mem_filter.1 hm).1)
  simp [State.precedes, hplace hm, hplace hm', hlt]

/-- The mentions that count come in the order of their places. -/
theorem pairwise_entriesOf (h : Distinct notes) {s : State}
    (hfiles : s.files = (State.sortNotes notes).map (·.path)) :
    (entriesOf notes).Pairwise fun a b => s.precedes a.2.location b.2.location = true := by
  rw [entriesOf, List.pairwise_flatMap]
  -- Offsets decide within a file, and the numbers of the files across files.
  constructor
  · intro f hf
    exact h.pairwise_keptEntries s _ (State.mem_sortNotes.1 hf)
  · refine (h.pairwise_fileIndex hfiles).imp_of_mem ?_
    rintro f g hf hg hlt ⟨path, m⟩ hm ⟨path', m'⟩ hm'
    rw [mem_keptEntries] at hm hm'
    have hfile := h.located f (State.mem_sortNotes.1 hf) m hm.2.1
    have hfile' := h.located g (State.mem_sortNotes.1 hg) m' hm'.2.1
    simp [State.precedes, hfile, hfile', hlt]

end Distinct

end Notes

namespace State

/-- A mention is nowhere in a state. -/
structure Drops (s : State) (m : Mention) : Prop where
  ofNoFile : ∀ path, m ∉ (s.mentions.lookup path).getD []
  ofNoCharacter : ∀ p ∈ s.characters, m.location ∉ p.appearances

/-- A mention is once in a state, with its file, and its place once, with the character that its
name resolves to. -/
structure CountsOnce (s : State) (path : String) (m : Mention) : Prop where
  ofFile : ((s.mentions.lookup path).getD []).count m = 1
  ofNoOtherFile : ∀ path', path' ≠ path → m ∉ (s.mentions.lookup path').getD []
  ofCharacter : ∃ p, s.find? (s.canonical m.name) = some p ∧ p.appearances.count m.location = 1 ∧
    ∀ q ∈ s.characters, m.location ∈ q.appearances → q = p

/-- A character goes by a name that resolves to itself, and what is noted of its mentions fits
together. -/
structure Fits (s : State) (p : Profile) : Prop where
  found : s.find? p.name = some p
  canonical_name : s.canonical p.name = p.name
  ordered : p.appearances.Pairwise fun a b => s.precedes a b = true
  firstSeen : p.appearances.head? = some p.firstSeen
  spellings : (p.spellings.map (·.2)).sum = p.appearances.length

theorem precedes_irrefl (s : State) (place : Location) : ¬s.precedes place place = true := by
  simp [precedes]

theorem precedes_trans {s : State} {a b c : Location} (hab : s.precedes a b = true)
    (hbc : s.precedes b c = true) : s.precedes a c = true := by
  simp only [precedes, Bool.or_eq_true, Bool.and_eq_true, decide_eq_true_eq, beq_iff_eq] at *
  omega

end State

namespace Ledger

variable {files : List String} {names : List (String × String)} {seen : List (String × Mention)}
  {s : State} {p : Profile} {path : String} {m : Mention}

/-- Names are compared of characters that there are, so the rules never miss one. -/
theorem exists_fileIssues (h : Ledger files names seen s) (strict : Bool) (path : String) :
    ∃ issues, s.fileIssues strict path = .ok issues := by
  have hget {name reference : String} (hreference : reference ∈ s.references name) :
      ∃ p, s.get reference = .ok p := by
    simp only [State.references, List.mem_map, List.mem_filter] at hreference
    obtain ⟨misspelling, ⟨hmem, -⟩, rfl⟩ := hreference
    obtain ⟨-, p, hp, hname⟩ := h.compared misspelling hmem
    exact ⟨p, State.get_eq_ok_iff.2 (h.find?_eq_some_iff.2 ⟨hp, hname⟩)⟩
  have hmention (m : Mention) : ∃ issues, s.spellingIssuesAt m = .ok issues := by
    apply exists_mapM_eq_ok
    intro reference hreference
    obtain ⟨p, hp⟩ := hget hreference
    exact ⟨State.spellingIssue m p, bind_eq_ok_iff.2 ⟨p, hp, rfl⟩⟩
  have hspellings (mentions : List Mention) : ∃ issues, s.spellingIssues mentions = .ok issues := by
    obtain ⟨found, hfound⟩ := exists_mapM_eq_ok fun m (_ : m ∈ mentions) => hmention m
    exact ⟨found.flatten, bind_eq_ok_iff.2 ⟨found, hfound, rfl⟩⟩
  obtain ⟨spellings, hfound⟩ := hspellings ((s.mentions.lookup path).getD [])
  exact ⟨_, bind_eq_ok_iff.2 ⟨spellings, hfound, rfl⟩⟩

theorem mem_mentions (h : Ledger files names seen s) :
    m ∈ (s.mentions.lookup path).getD [] ↔ (path, m) ∈ seen := by
  simp [h.mentions]

theorem mem_appearances (h : Ledger files names seen s) (hp : p ∈ s.characters)
    {place : Location} :
    place ∈ p.appearances ↔
      ∃ entry ∈ seen, s.canonical entry.2.name = p.name ∧ entry.2.location = place := by
  simp [h.appearances p hp, State.canonical, h.names_eq, mentionsOf, and_assoc]

theorem drops (h : Ledger files names seen s)
    (hnew : ∀ entry ∈ seen, entry.2.location ≠ m.location) : s.Drops m where
  ofNoFile := fun _ hm => hnew _ (h.mem_mentions.1 hm) rfl
  ofNoCharacter := by
    intro p hp hmem
    obtain ⟨entry, hentry, -, hlocation⟩ := (h.mem_appearances hp).1 hmem
    exact hnew entry hentry hlocation

/-- Where one mention is known at a place, it is there once. -/
theorem countsOnce (h : Ledger files names seen s) (hnodup : (seen.map (·.2.location)).Nodup)
    (hm : (path, m) ∈ seen) : s.CountsOnce path m := by
  have hunique {entry : String × Mention} (hentry : entry ∈ seen)
      (hlocation : entry.2.location = m.location) : entry = (path, m) :=
    List.inj_on_of_nodup_map hnodup hentry hm hlocation
  have hplaces (keep : String × Mention → Bool) :
      ((seen.filter keep).map (·.2.location)).Nodup :=
    hnodup.sublist (List.filter_sublist.map _)
  obtain ⟨p, hp, hname⟩ := h.known _ hm
  refine ⟨?_, ?_, p, h.find?_eq_some_iff.2 ⟨hp, hname⟩, ?_, ?_⟩
  · apply List.count_eq_one_of_mem
    · rw [h.mentions]
      apply List.Nodup.of_map Mention.location
      rw [List.map_map]
      exact hplaces _
    · exact h.mem_mentions.2 hm
  · intro path' hpath hm'
    exact hpath (congrArg Prod.fst (hunique (h.mem_mentions.1 hm') rfl))
  · apply List.count_eq_one_of_mem
    · rw [h.appearances p hp]
      exact hplaces _
    · exact (h.mem_appearances hp).2 ⟨_, hm, hname.symm, rfl⟩
  · intro q hq hmem
    obtain ⟨entry, hentry, hresolves, hlocation⟩ := (h.mem_appearances hq).1 hmem
    obtain rfl := hunique hentry hlocation
    exact h.eq_of_name hq hp (hresolves.symm.trans hname.symm)

/-- A character was met at a mention, whose name resolves to its own. -/
theorem exists_first (h : Ledger files names seen s) (hp : p ∈ s.characters) :
    ∃ entry ∈ seen, s.canonical entry.2.name = p.name ∧ entry.2.location = p.firstSeen :=
  (h.mem_appearances hp).1 (List.mem_of_mem_head? (h.firstSeen p hp))

/-- Where names resolve to names that resolve to themselves, the name of a character is one. -/
theorem canonical_name (h : Ledger files names seen s)
    (hcanonical : ∀ name, s.canonical (s.canonical name) = s.canonical name)
    (hp : p ∈ s.characters) : s.canonical p.name = p.name := by
  obtain ⟨entry, -, hname, -⟩ := h.exists_first hp
  rw [← hname, hcanonical]

/-- Where moreover the mentions are known in the order of their places, all characters fit. -/
theorem fits (h : Ledger files names seen s)
    (hcanonical : ∀ name, s.canonical (s.canonical name) = s.canonical name)
    (hordered : seen.Pairwise fun a b => s.precedes a.2.location b.2.location = true)
    (hp : p ∈ s.characters) : s.Fits p where
  found := h.find?_eq_some_iff.2 ⟨hp, rfl⟩
  canonical_name := h.canonical_name hcanonical hp
  ordered := by
    rw [h.appearances p hp, List.pairwise_map]
    exact hordered.filter _
  firstSeen := h.firstSeen p hp
  spellings := h.spellings p hp

end Ledger

section Main

variable (settings : Settings) {notes : List FileNotes}

/-- A character of all notes is first seen at a mention in one of them. -/
theorem exists_firstMention {settings : Settings} {p : Profile}
    (hp : p ∈ (State.ofNotes settings notes).characters) :
    ∃ f ∈ notes, ∃ m ∈ f.mentions, (State.ofNotes settings notes).canonical m.name = p.name ∧
      m.location = p.firstSeen := by
  obtain ⟨⟨path, m⟩, hentry, hname, hplace⟩ := (ledger_ofNotes settings notes).exists_first hp
  obtain ⟨f, hf, -, hm, -⟩ := mem_entriesOf.1 hentry
  exact ⟨f, hf, m, hm, hname, hplace⟩

theorem canonical_canonical_ofNotes (notes : List FileNotes) (name : String) :
    (State.ofNotes settings notes).canonical ((State.ofNotes settings notes).canonical name) =
      (State.ofNotes settings notes).canonical name := by
  simp only [canonical_ofNotes]
  exact resolved_resolved _ _ name

/-- No mention is lost or counted twice. Each is dropped, because its name is an ordinary word, or
is there once, with its file and its character; every character fits, and the rules find all
characters that they look for. -/
theorem every_mention_counts_once (h : Distinct notes) :
    let s := State.ofNotes settings notes
    (∀ f ∈ notes, ∀ m ∈ f.mentions,
      IsOrdinary notes m.name ∧ s.Drops m ∨ ¬IsOrdinary notes m.name ∧ s.CountsOnce f.path m) ∧
    (s.characters.map (·.name)).Nodup ∧ (∀ p ∈ s.characters, s.Fits p) ∧
    ∀ strict path, ∃ issues, s.fileIssues strict path = .ok issues := by
  intro s
  have hledger : Ledger _ _ (entriesOf notes) s := ledger_ofNotes settings notes
  have hordered := h.pairwise_entriesOf hledger.files_eq
  have hnodup : ((entriesOf notes).map (·.2.location)).Nodup := by
    refine List.pairwise_map.2 (hordered.imp ?_)
    intro a b hprecedes heq
    rw [heq] at hprecedes
    exact s.precedes_irrefl _ hprecedes
  have hcanonical := canonical_canonical_ofNotes settings notes
  refine ⟨?_, hledger.nodup, fun p => hledger.fits hcanonical hordered, hledger.exists_fileIssues⟩
  intro f hf m hm
  by_cases hordinary : IsOrdinary notes m.name
  · -- Only a mention of the same name could be at the same place, and it would not count either.
    refine .inl ⟨hordinary, hledger.drops ?_⟩
    rintro ⟨path, m'⟩ hentry hlocation
    obtain ⟨g, hg, -, hm', hcounts⟩ := mem_entriesOf.1 hentry
    obtain ⟨-, rfl⟩ := h.eq_of_location hg hm' hf hm hlocation
    exact hcounts hordinary
  · have hentry := mem_entriesOf.2 ⟨f, hf, rfl, hm, hordinary⟩
    exact .inr ⟨hordinary, hledger.countsOnce hnodup hentry⟩

end Main

/-- "The" is dropped, and Annie, who is Anna, is mentioned in two files. -/
theorem annie_counts_once :
    let settings : Settings := { aliases := [("Anna", "Annie")] }
    let the : Mention := { name := "The", location := ⟨"a.md", 1, 1, 0⟩, sentenceInitial := true }
    let anna : Mention := { name := "Anna", location := ⟨"a.md", 1, 9, 8⟩ }
    let annie : Mention := { name := "Annie", location := ⟨"b.md", 1, 1, 0⟩ }
    let a : FileNotes := { path := "a.md", mentions := [anna, the], lowercaseWords := ["the"] }
    let b : FileNotes := { path := "b.md", mentions := [annie] }
    let s := State.ofNotes settings [b, a]
    Distinct [b, a] ∧ s.Drops the ∧ s.CountsOnce "a.md" anna ∧ s.CountsOnce "b.md" annie ∧
      s.canonical annie.name = "Anna" := by
  intro settings the anna annie a b s
  have hdistinct : Distinct [b, a] := ⟨by decide, by decide, by decide⟩
  have hordinary : IsOrdinary [b, a] "The" ∧ ¬IsOrdinary [b, a] "Anna" ∧
      ¬IsOrdinary [b, a] "Annie" := by decide +kernel
  obtain ⟨hmentions, -⟩ := every_mention_counts_once settings hdistinct
  have hdeclared : ("Anna", "Annie") ∈ settings.aliases := List.mem_cons_self
  have hheads : ¬settings.Heads "Annie" := by decide +kernel
  obtain ⟨canonical, other, hpair, -, hannie⟩ := exists_canonical_of_other hdeclared rfl hheads
  obtain ⟨rfl, rfl⟩ := Prod.mk.inj (List.mem_singleton.1 hpair)
  have ha : a ∈ [b, a] := .tail _ (.head _)
  have hb : b ∈ [b, a] := .head _
  refine ⟨hdistinct, ?_, ?_, ?_, hannie _⟩
  · exact ((hmentions a ha the (.tail _ (.head _))).resolve_right fun h => h.1 hordinary.1).2
  · exact ((hmentions a ha anna (.head _)).resolve_left fun h => hordinary.2.1 h.1).2
  · exact ((hmentions b hb annie (.head _)).resolve_left fun h => hordinary.2.2 h.1).2

end Continuity.Character
