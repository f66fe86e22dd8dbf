import Continuity.Character.State
import Continuity.Proofs.Character.Alias
import Continuity.Proofs.Data.Merge
import Continuity.Proofs.Data.Lists

/-! # What the state of characters knows of the mentions

Mentions are counted one after the other. After each of them every character has exactly the
mentions whose names resolve to its own, in the order in which they came, and every file has its
mentions. What else is noted of the characters changes nothing of that.
-/

namespace Continuity.Character

namespace Profile

/-- The character with what mentions alone decide. -/
def tally (p : Profile) : Profile :=
  { p with aliases := [], pronouns := none, relationships := [] }

@[simp] theorem name_addMention (p : Profile) (m : Mention) : (p.addMention m).name = p.name := rfl

/-- What is noted of the introduction and of the pronouns of a character is what its first mentions
say that say something of it. -/
structure Told (p : Profile) (mentions : List Mention) : Prop where
  introducedAt : p.introducedAt = (mentions.find? (·.introduction)).map (·.location)
  firstEvidence :
    p.firstEvidence = (mentions.find? fun m => !m.pronouns.isEmpty).map (·.location)
  evidencePronouns :
    p.evidencePronouns = (mentions.find? fun m => !m.pronouns.isEmpty).bind (·.pronouns.head?)

theorem Told.addMention {p : Profile} {mentions : List Mention} (h : p.Told mentions)
    (m : Mention) : (p.addMention m).Told (mentions ++ [m]) where
  introducedAt := by
    rw [List.find?_append, List.find?_singleton, Profile.addMention, h.introducedAt]
    cases mentions.find? (·.introduction) <;> cases m.introduction <;> rfl
  firstEvidence := by
    rw [List.find?_append, List.find?_singleton, Profile.addMention, h.firstEvidence]
    cases mentions.find? fun m => !m.pronouns.isEmpty <;> cases m.pronouns <;> rfl
  evidencePronouns := by
    rw [List.find?_append, List.find?_singleton, Profile.addMention, h.firstEvidence,
      h.evidencePronouns]
    cases mentions.find? fun m => !m.pronouns.isEmpty with
    | some found => rfl
    | none => cases hpronouns : m.pronouns <;> simp [hpronouns]

end Profile

namespace State

/-- The state without what is noted of the characters besides their mentions. -/
def core (s : State) : State :=
  { s with characters := s.characters.map Profile.tally, pronounChanges := [] }

/-! ## Steps that leave the core as it is -/

section Core

variable {s s' : State}

theorem core_modify {f : Profile → Profile} (hf : ∀ p, (f p).tally = p.tally) (s : State)
    (name : String) : (s.modify name f).core = s.core := by
  have hmap : (s.modify name f).characters.map Profile.tally = s.characters.map Profile.tally := by
    rw [modify, List.map_map]
    apply List.map_congr_left
    intro p _
    rw [Function.comp_apply]
    split
    · exact hf p
    · rfl
  simp only [core, hmap]
  rfl

theorem core_addPronounChange (s : State) (c : PronounChange) :
    (s.addPronounChange c).core = s.core := rfl

theorem core_addConfigured (s : State) (pronouns : List (String × String)) :
    (s.addConfigured pronouns).core = s.core := by
  apply Lists.foldl_keeps (f := core)
  intro s _
  apply core_modify
  intro p
  rfl

theorem core_addDeclared (s : State) (f : FileNotes) : (s.addDeclared f).core = s.core := by
  unfold addDeclared
  dsimp only
  rw [Lists.foldl_keeps (f := core), Lists.foldl_keeps (f := core)]
  · intro s _
    apply core_modify
    intro p
    rfl
  · intro s _
    apply core_modify
    intro p
    rfl

theorem core_addAliases (s : State) (pairs : List (String × String)) :
    (s.addAliases pairs).core = s.core := by
  apply Lists.foldl_keeps (f := core)
  rintro s ⟨key, name⟩
  dsimp only
  split
  · rfl
  · apply core_modify
    intro p
    rfl

end Core

end State

/-- The mentions of a character among those of all files, by the names that others resolve to. -/
def mentionsOf (names : List (String × String)) (seen : List (String × Mention)) (name : String) :
    List (String × Mention) :=
  seen.filter fun (_, m) => (names.lookup (Text.fold m.name)).getD m.name == name

/-- The mentions of a file that count, in the order of the text. -/
def keptMentions (ordinary : List String) (f : FileNotes) : List Mention :=
  (State.sortMentions f.mentions).filter fun m => !ordinary.contains m.name

/-- The mentions of a file that count, each with the file. -/
def keptEntries (ordinary : List String) (f : FileNotes) : List (String × Mention) :=
  (keptMentions ordinary f).map (f.path, ·)

/-- What a state knows after some mentions, each with the file that it stands in. -/
structure Ledger (files : List String) (names : List (String × String))
    (seen : List (String × Mention)) (s : State) : Prop where
  files_eq : s.files = files
  names_eq : s.canonicalNames = names
  nodup : (s.characters.map (·.name)).Nodup
  appearances : ∀ p ∈ s.characters,
    p.appearances = (mentionsOf names seen p.name).map (·.2.location)
  firstSeen : ∀ p ∈ s.characters, p.appearances.head? = some p.firstSeen
  spellings : ∀ p ∈ s.characters, (p.spellings.map (·.2)).sum = p.appearances.length
  told : ∀ p ∈ s.characters, p.Told ((mentionsOf names seen p.name).map (·.2))
  /-- No mention is without its character. -/
  known : ∀ entry ∈ seen, ∃ p ∈ s.characters, p.name = s.canonical entry.2.name
  mentions : ∀ path, (s.mentions.lookup path).getD [] = (seen.filter (·.1 == path)).map (·.2)
  /-- Names are compared of characters only. -/
  compared : ∀ m ∈ s.misspellings,
    (∃ p ∈ s.characters, p.name = m.flagged) ∧ ∃ p ∈ s.characters, p.name = m.reference

namespace Ledger

variable {files : List String} {names : List (String × String)} {seen : List (String × Mention)}
  {s s' : State} {p : Profile} {path name : String} {m : Mention} {location : Location}

theorem start (files : List String) (names : List (String × String)) :
    Ledger files names [] { files, canonicalNames := names } where
  files_eq := rfl
  names_eq := rfl
  nodup := List.nodup_nil
  appearances := by simp
  firstSeen := by simp
  spellings := by simp
  told := by simp
  known := by simp
  mentions := by simp
  compared := by simp

/-- A state knows as much as its core. -/
theorem core_iff : Ledger files names seen s.core ↔ Ledger files names seen s := by
  have hmap {P : Profile → Prop} :
      (∃ p ∈ s.core.characters, P p) ↔ ∃ p ∈ s.characters, P p.tally := by
    simp [State.core]
  have hnames : s.core.characters.map (·.name) = s.characters.map (·.name) := by
    simp only [State.core, List.map_map]
    rfl
  constructor
  · intro h
    have htally {p : Profile} (hp : p ∈ s.characters) : p.tally ∈ s.core.characters :=
      List.mem_map_of_mem hp
    exact {
      files_eq := h.files_eq
      names_eq := h.names_eq
      nodup := hnames ▸ h.nodup
      appearances := fun p hp => h.appearances p.tally (htally hp)
      firstSeen := fun p hp => h.firstSeen p.tally (htally hp)
      spellings := fun p hp => h.spellings p.tally (htally hp)
      told := fun p hp => { h.told p.tally (htally hp) with }
      known := fun entry hentry => hmap.1 (h.known entry hentry)
      mentions := h.mentions
      compared := fun m hm => (h.compared m hm).imp hmap.1 hmap.1 }
  · intro h
    have htally {q : Profile} (hq : q ∈ s.core.characters) : ∃ p ∈ s.characters, p.tally = q :=
      List.mem_map.1 hq
    exact {
      files_eq := h.files_eq
      names_eq := h.names_eq
      nodup := hnames ▸ h.nodup
      appearances := by
        intro q hq
        obtain ⟨p, hp, rfl⟩ := htally hq
        exact h.appearances p hp
      firstSeen := by
        intro q hq
        obtain ⟨p, hp, rfl⟩ := htally hq
        exact h.firstSeen p hp
      spellings := by
        intro q hq
        obtain ⟨p, hp, rfl⟩ := htally hq
        exact h.spellings p hp
      told := by
        intro q hq
        obtain ⟨p, hp, rfl⟩ := htally hq
        exact { h.told p hp with }
      known := fun entry hentry => hmap.2 (h.known entry hentry)
      mentions := h.mentions
      compared := fun m hm => (h.compared m hm).imp hmap.2 hmap.2 }

theorem of_core (h : Ledger files names seen s) (hcore : s'.core = s.core) :
    Ledger files names seen s' :=
  core_iff.1 (hcore ▸ core_iff.2 h)

/-! ## One more mention -/

theorem eq_of_name (h : Ledger files names seen s) {q : Profile} (hp : p ∈ s.characters)
    (hq : q ∈ s.characters) (hname : p.name = q.name) : p = q :=
  List.inj_on_of_nodup_map h.nodup hp hq hname

theorem find?_eq_some_iff (h : Ledger files names seen s) :
    s.find? name = some p ↔ p ∈ s.characters ∧ p.name = name := by
  constructor
  · intro hfound
    exact ⟨List.mem_of_find?_eq_some hfound, by simpa using List.find?_some hfound⟩
  · rintro ⟨hp, rfl⟩
    cases hfound : s.find? p.name with
    | none => simpa using List.find?_eq_none.1 hfound p hp
    | some q =>
        have hq := List.mem_of_find?_eq_some hfound
        have hname : q.name = p.name := by simpa using List.find?_some hfound
        rw [h.eq_of_name hq hp hname]

/-- A name that no character has is the name of no mention. -/
theorem mentionsOf_eq_nil (h : Ledger files names seen s) (hnew : s.find? name = none) :
    mentionsOf names seen name = [] := by
  rw [mentionsOf, List.filter_eq_nil_iff]
  intro entry hentry hname
  obtain ⟨p, hp, hknown⟩ := h.known entry hentry
  have hcanonical : s.canonical entry.2.name = name := by
    rw [State.canonical, h.names_eq]
    simpa using hname
  have hfound := h.find?_eq_some_iff.2 ⟨hp, hknown.trans hcanonical⟩
  rw [hnew] at hfound
  cases hfound

end Ledger

namespace State

variable {s : State} {path name : String} {m : Mention} {location : Location} {p q : Profile}

theorem mem_meet :
    p ∈ (s.meet name location).characters ↔
      p ∈ s.characters ∨ s.find? name = none ∧ p = newProfile name location := by
  unfold meet
  cases s.find? name <;> simp

theorem name_mem_meet : name ∈ (s.meet name location).characters.map (·.name) := by
  cases hfound : s.find? name with
  | some p =>
      have hname : p.name = name := by simpa using List.find?_some hfound
      exact hname ▸ List.mem_map_of_mem (mem_meet.2 (.inl (List.mem_of_find?_eq_some hfound)))
  | none => exact List.mem_map_of_mem (mem_meet.2 (.inr ⟨hfound, rfl⟩))

theorem nodup_meet (h : (s.characters.map (·.name)).Nodup) :
    ((s.meet name location).characters.map (·.name)).Nodup := by
  unfold meet
  cases hfound : s.find? name with
  | some p => exact h
  | none =>
      have hnew : name ∉ s.characters.map (·.name) := by
        intro hmem
        obtain ⟨p, hp, hname⟩ := List.mem_map.1 hmem
        simpa [hname] using List.find?_eq_none.1 hfound p hp
      simpa [newProfile] using
        List.nodup_append.2 ⟨h, List.nodup_singleton name, by simpa using hnew⟩

/-- A mention changes the characters and the mentions of its file, and nothing else. -/
theorem addMention_eq (s : State) (path : String) (m : Mention) :
    s.addMention path m =
      { s with
        characters := ((s.meet (s.canonical m.name) m.location).modify (s.canonical m.name)
          (·.addMention m)).characters
        mentions := Entries.modify path [] (· ++ [m]) s.mentions } := by
  unfold addMention meet modify
  dsimp only
  split <;> rfl

theorem names_addMention (s : State) (path : String) (m : Mention) :
    (s.addMention path m).characters.map (·.name) =
      (s.meet (s.canonical m.name) m.location).characters.map (·.name) := by
  rw [addMention_eq, modify, List.map_map]
  apply List.map_congr_left
  intro p _
  rw [Function.comp_apply]
  split <;> rfl

/-- A character after a mention is one that was there before or is met for the first time, and has
the mention if it goes by its name. -/
theorem mem_addMention :
    q ∈ (s.addMention path m).characters ↔
      ∃ p, (p ∈ s.characters ∨
          s.find? (s.canonical m.name) = none ∧ p = newProfile (s.canonical m.name) m.location) ∧
        (if p.name = s.canonical m.name then p.addMention m else p) = q := by
  rw [addMention_eq]
  simp [modify, mem_meet]

theorem lessEstablished_cases (s : State) (p q : Profile) :
    s.lessEstablished p q = (p, q) ∨ s.lessEstablished p q = (q, p) := by
  unfold lessEstablished
  split
  · exact .inl rfl
  · split
    · exact .inr rfl
    · split
      · exact .inl rfl
      · exact .inr rfl

theorem mem_of_mem_pairs {α : Type} {a b : α} {as : List α} (h : (a, b) ∈ pairs as) :
    a ∈ as ∧ b ∈ as := by
  induction as with
  | nil => cases h
  | cons first rest ih =>
      rcases List.mem_append.1 h with h | h
      · obtain ⟨c, hc, heq⟩ := List.mem_map.1 h
        obtain ⟨rfl, rfl⟩ := Prod.mk.inj heq
        exact ⟨List.mem_cons_self, List.mem_cons_of_mem _ hc⟩
      · exact (ih h).imp (List.mem_cons_of_mem _) (List.mem_cons_of_mem _)

end State

namespace Ledger

variable {files : List String} {names : List (String × String)} {seen : List (String × Mention)}
  {s s' : State} {p q : Profile} {path name : String} {m : Mention}

theorem mentionsOf_snoc (names : List (String × String)) (seen : List (String × Mention))
    (path name : String) (m : Mention) :
    mentionsOf names (seen ++ [(path, m)]) name =
      mentionsOf names seen name ++
        if (names.lookup (Text.fold m.name)).getD m.name = name then [(path, m)] else [] := by
  rw [mentionsOf, List.filter_append]
  congr 1
  simp [List.filter_cons]

/-- What is known of the character that a mention belongs to, before the mention is counted. -/
theorem counted_before (h : Ledger files names seen s)
    (hp : p ∈ s.characters ∨ s.find? (s.canonical m.name) = none ∧
      p = State.newProfile (s.canonical m.name) m.location) :
    p.appearances = (mentionsOf names seen p.name).map (·.2.location) ∧
      (p.appearances ++ [m.location]).head? = some p.firstSeen ∧
      (p.spellings.map (·.2)).sum = p.appearances.length ∧
      p.Told ((mentionsOf names seen p.name).map (·.2)) := by
  rcases hp with hp | ⟨hnew, rfl⟩
  · refine ⟨h.appearances p hp, ?_, h.spellings p hp, h.told p hp⟩
    rw [List.head?_append, h.firstSeen p hp, Option.some_or]
  · have hnil := h.mentionsOf_eq_nil hnew
    rw [State.newProfile, hnil]
    exact ⟨rfl, rfl, rfl, rfl, rfl, rfl⟩

/-- One more mention is known as well. -/
theorem snoc (h : Ledger files names seen s) (path : String) (m : Mention) :
    Ledger files names (seen ++ [(path, m)]) (s.addMention path m) := by
  have hnames : (s.addMention path m).canonicalNames = s.canonicalNames := by
    rw [State.addMention_eq]
  have hcanonical : (names.lookup (Text.fold m.name)).getD m.name = s.canonical m.name := by
    rw [State.canonical, h.names_eq]
  -- Each character that there was is still there under its name.
  have hnamed {name : String} (hname : ∃ p ∈ s.characters, p.name = name) :
      ∃ p ∈ (s.addMention path m).characters, p.name = name := by
    rw [← List.mem_map (f := Profile.name)] at hname ⊢
    rw [State.names_addMention]
    obtain ⟨p, hp, rfl⟩ := List.mem_map.1 hname
    exact List.mem_map_of_mem (State.mem_meet.2 (.inl hp))
  exact {
    files_eq := by
      rw [State.addMention_eq]
      exact h.files_eq
    names_eq := hnames.trans h.names_eq
    nodup := by
      rw [State.names_addMention]
      exact State.nodup_meet h.nodup
    appearances := by
      intro q hq
      obtain ⟨p, hp, rfl⟩ := State.mem_addMention.1 hq
      have hbefore := (h.counted_before hp).1
      by_cases hname : p.name = s.canonical m.name
      · rw [if_pos hname, Profile.name_addMention, mentionsOf_snoc,
          if_pos (hcanonical.trans hname.symm), List.map_append]
        exact congrArg (· ++ [m.location]) hbefore
      · rw [if_neg hname, mentionsOf_snoc, if_neg (fun heq => hname (heq.symm.trans hcanonical)),
          List.append_nil]
        exact hbefore
    firstSeen := by
      intro q hq
      obtain ⟨p, hp, rfl⟩ := State.mem_addMention.1 hq
      by_cases hname : p.name = s.canonical m.name
      · rw [if_pos hname]
        exact (h.counted_before hp).2.1
      · rw [if_neg hname]
        rcases hp with hp | ⟨-, rfl⟩
        · exact h.firstSeen p hp
        · exact absurd rfl hname
    spellings := by
      intro q hq
      obtain ⟨p, hp, rfl⟩ := State.mem_addMention.1 hq
      have hbefore := (h.counted_before hp).2.2.1
      split
      · rw [Profile.addMention, Entries.sum_modify_succ, List.length_append, hbefore]
        rfl
      · exact hbefore
    told := by
      intro q hq
      obtain ⟨p, hp, rfl⟩ := State.mem_addMention.1 hq
      have hbefore := (h.counted_before hp).2.2.2
      by_cases hname : p.name = s.canonical m.name
      · rw [if_pos hname, Profile.name_addMention, mentionsOf_snoc,
          if_pos (hcanonical.trans hname.symm), List.map_append]
        exact hbefore.addMention m
      · rw [if_neg hname, mentionsOf_snoc, if_neg (fun heq => hname (heq.symm.trans hcanonical)),
          List.append_nil]
        exact hbefore
    known := by
      intro entry hentry
      rw [State.canonical, hnames]
      rcases List.mem_append.1 hentry with hentry | hentry
      · exact hnamed (h.known entry hentry)
      · obtain rfl := List.mem_singleton.1 hentry
        rw [← List.mem_map (f := Profile.name), State.names_addMention]
        exact State.name_mem_meet
    mentions := by
      intro path'
      rw [State.addMention_eq, Entries.lookup_modify, List.filter_append, List.map_append,
        ← h.mentions path']
      by_cases hpath : path' = path
      · subst hpath
        simp
      · simp [hpath, Ne.symm hpath]
    compared := by
      intro misspelling hmem
      rw [State.addMention_eq] at hmem
      exact (h.compared misspelling hmem).imp hnamed hnamed }

/-! ## All mentions -/

/-- The mentions of a text are known one after the other. -/
theorem foldl_addMention (h : Ledger files names seen s) (path : String) (mentions : List Mention) :
    Ledger files names (seen ++ mentions.map (path, ·))
      (mentions.foldl (fun s m => s.addMention path m) s) := by
  induction mentions generalizing s seen with
  | nil => simpa using h
  | cons m rest ih => simpa using ih (h.snoc path m)

theorem addFile (h : Ledger files names seen s) (ordinary : List String) (f : FileNotes) :
    Ledger files names (seen ++ keptEntries ordinary f) (s.addFile ordinary f) := by
  have hmentions := h.foldl_addMention f.path (keptMentions ordinary f)
  exact hmentions.of_core (Lists.foldl_keeps State.core_addPronounChange _ _)

theorem foldl_addFile (h : Ledger files names seen s) (ordinary : List String)
    (notes : List FileNotes) :
    Ledger files names (seen ++ notes.flatMap (keptEntries ordinary))
      (notes.foldl (State.addFile ordinary) s) := by
  induction notes generalizing s seen with
  | nil => simpa using h
  | cons f rest ih => simpa using ih (h.addFile ordinary f)

/-! ## The comparison of names -/

/-- A comparison of two characters changes neither what is known of the mentions nor the
characters. -/
theorem compare (h : Ledger files names seen s) (settings : Settings) (hp : p ∈ s.characters)
    (hq : q ∈ s.characters) :
    Ledger files names seen (s.compare settings (p, q)) ∧
      (s.compare settings (p, q)).characters = s.characters := by
  unfold State.compare
  dsimp only
  split
  · exact ⟨{ h with }, rfl⟩
  · split
    · refine ⟨{ h with compared := ?_ }, rfl⟩
      intro misspelling hmem
      rcases List.mem_append.1 hmem with hmem | hmem
      · exact h.compared misspelling hmem
      · obtain rfl := List.mem_singleton.1 hmem
        rcases s.lessEstablished_cases p q with heq | heq
        · rw [heq]
          exact ⟨⟨p, hp, rfl⟩, q, hq, rfl⟩
        · rw [heq]
          exact ⟨⟨q, hq, rfl⟩, p, hp, rfl⟩
    · exact ⟨h, rfl⟩

theorem compareAll (h : Ledger files names seen s) (settings : Settings) :
    Ledger files names seen (s.compareAll settings) := by
  have hall : Ledger files names seen (s.compareAll settings) ∧
      (s.compareAll settings).characters = s.characters := by
    apply List.foldlRecOn (motive := fun t => Ledger files names seen t ∧
      t.characters = s.characters)
    · exact ⟨h, rfl⟩
    · rintro t ⟨ht, hcharacters⟩ ⟨p, q⟩ hpair
      obtain ⟨hp, hq⟩ := State.mem_of_mem_pairs hpair
      rw [List.mem_mergeSort, ← hcharacters] at hp hq
      obtain ⟨hnext, hsame⟩ := ht.compare settings hp hq
      exact ⟨hnext, hsame.trans hcharacters⟩
  exact hall.1

end Ledger

/-! ## The state of all notes -/

/-- The names that others resolve to, by the declarations of the options and of all files. -/
def namesOf (settings : Settings) (notes : List FileNotes) : List (String × String) :=
  resolveAliases (settings.aliases ++ (State.sortNotes notes).flatMap State.aliasesOf)
    (settings.aliases.map fun (name, _) => Text.fold name)

/-- The mentions of all files that count, in the order of the files. -/
def entriesOf (notes : List FileNotes) : List (String × Mention) :=
  (State.sortNotes notes).flatMap (keptEntries (State.ordinaryWords (State.sortNotes notes)))

/-- The state of all notes knows all mentions that count. -/
theorem ledger_ofNotes (settings : Settings) (notes : List FileNotes) :
    Ledger ((State.sortNotes notes).map (·.path)) (namesOf settings notes) (entriesOf notes)
      (State.ofNotes settings notes) := by
  have hmentions := (Ledger.start ((State.sortNotes notes).map (·.path))
    (namesOf settings notes)).foldl_addFile (State.ordinaryWords (State.sortNotes notes))
    (State.sortNotes notes)
  have hconfigured := hmentions.of_core (State.core_addConfigured _ settings.pronouns)
  have hdeclared := hconfigured.of_core (Lists.foldl_keeps State.core_addDeclared _
    (State.sortNotes notes))
  have haliases := hdeclared.of_core (State.core_addAliases _
    (settings.aliases ++ (State.sortNotes notes).flatMap State.aliasesOf))
  exact haliases.compareAll settings

end Continuity.Character
