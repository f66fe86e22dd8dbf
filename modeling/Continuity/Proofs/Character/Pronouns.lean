import Mathlib.Data.List.Pairwise
import Continuity.Proofs.Character.Comparison
import Continuity.Proofs.Character.Issues
import Continuity.Proofs.Character.Merge

/-! # The pronouns that are established

Pronouns are declared in the text, in the options and in front matter, and they are shown by the
sentences that mention a character. What is declared goes by the names of the characters, and the
last declaration in the text before a mention goes before all else.

An empty text names no pronouns. Where the options or front matter give one, the pronouns are those
that the text shows first.
-/

namespace Continuity.Character

/-- Notes on different files, with each mention at a place of its own, whose declarations of
pronouns stand in their own files as well. -/
structure Situated (notes : List FileNotes) : Prop extends Distinct notes where
  changes : ∀ f ∈ notes, ∀ c ∈ f.pronounChanges, c.location.file = f.path

/-! ## What a state knows of declared pronouns -/

/-- The declarations of pronouns in the texts of all files, in the order of the project. -/
def changesOf (notes : List FileNotes) : List PronounChange :=
  (State.sortNotes notes).flatMap fun f => State.sortChanges f.pronounChanges

/-- The pronouns that the options give last, or else front matter first, to a character. -/
def givenBy (canonical : String → String) (configured declared : List (String × String))
    (name : String) : Option String :=
  ((configured.reverse.find? fun d => canonical d.1 == name).or
    (declared.find? fun d => canonical d.1 == name)).map (·.2)

/-- What a state knows of declarations of pronouns, where names resolve in one way. -/
structure PronounLedger (canonical : String → String) (changes : List PronounChange)
    (given : String → Option String) (s : State) : Prop where
  canonical_eq : s.canonical = canonical
  changes : ∀ name, (s.pronounChanges.lookup name).getD [] =
    changes.filter fun c => canonical c.name == name
  given : ∀ p ∈ s.characters, p.pronouns = given p.name

namespace PronounLedger

variable {canonical : String → String} {changes : List PronounChange}
  {given given' : String → Option String} {s : State} {name : String}

/-- A change of a character under its name gives no other character pronouns. -/
theorem modify (h : PronounLedger canonical changes given s) (name : String)
    (given' : String → Option String) {f : Profile → Profile} (hname : ∀ p, (f p).name = p.name)
    (hnew : ∀ p, p.pronouns = given name → (f p).pronouns = given' name)
    (hkeep : ∀ n, n ≠ name → given' n = given n) :
    PronounLedger canonical changes given' (s.modify name f) where
  canonical_eq := h.canonical_eq
  changes := h.changes
  given := by
    intro q hq
    obtain ⟨p, hp, rfl⟩ := List.mem_map.1 hq
    by_cases heq : p.name = name
    · subst heq
      rw [if_pos (by simp), hname]
      exact hnew p (h.given p hp)
    · rw [if_neg (by simpa using heq), hkeep _ heq]
      exact h.given p hp

/-- A change that leaves the pronouns as they are. -/
theorem modify_same (h : PronounLedger canonical changes given s) {f : Profile → Profile}
    (hname : ∀ p, (f p).name = p.name) (hpronouns : ∀ p, (f p).pronouns = p.pronouns) :
    PronounLedger canonical changes given (s.modify name f) :=
  h.modify name given hname (fun p hp => (hpronouns p).trans hp) fun _ _ => rfl

theorem congr (h : PronounLedger canonical changes given s) (heq : ∀ n, given n = given' n) :
    PronounLedger canonical changes given' s :=
  ⟨h.canonical_eq, h.changes, fun p hp => (h.given p hp).trans (heq _)⟩

/-- A mention gives no pronouns. -/
theorem addMention (h : PronounLedger canonical changes (fun _ => none) s) (path : String)
    (m : Mention) : PronounLedger canonical changes (fun _ => none) (s.addMention path m) where
  canonical_eq := by
    rw [← h.canonical_eq, State.addMention_eq]
    rfl
  changes := by
    rw [State.addMention_eq]
    exact h.changes
  given := by
    intro q hq
    obtain ⟨p, hp, rfl⟩ := State.mem_addMention.1 hq
    have hbefore : p.pronouns = none := by
      rcases hp with hp | ⟨-, rfl⟩
      · exact h.given p hp
      · rfl
    split
    · exact hbefore
    · exact hbefore

theorem addPronounChange (h : PronounLedger canonical changes given s) (c : PronounChange) :
    PronounLedger canonical (changes ++ [c]) given (s.addPronounChange c) where
  canonical_eq := h.canonical_eq
  changes := by
    intro name
    rw [State.addPronounChange, Entries.lookup_modify, h.canonical_eq, List.filter_append,
      ← h.changes name]
    by_cases hname : name = canonical c.name
    · subst hname
      simp
    · simp [hname, Ne.symm hname]
  given := h.given

theorem foldl_addPronounChange (h : PronounLedger canonical changes given s)
    (more : List PronounChange) :
    PronounLedger canonical (changes ++ more) given (more.foldl State.addPronounChange s) := by
  induction more generalizing s changes with
  | nil => simpa using h
  | cons c rest ih => simpa using ih (h.addPronounChange c)

theorem addFile (h : PronounLedger canonical changes (fun _ => none) s) (ordinary : List String)
    (f : FileNotes) :
    PronounLedger canonical (changes ++ State.sortChanges f.pronounChanges) (fun _ => none)
      (s.addFile ordinary f) := by
  refine PronounLedger.foldl_addPronounChange ?_ _
  exact List.foldlRecOn _ _ h fun t ht m _ => ht.addMention f.path m

theorem foldl_addFile (h : PronounLedger canonical changes (fun _ => none) s)
    (ordinary : List String) (notes : List FileNotes) :
    PronounLedger canonical (changes ++ notes.flatMap fun f => State.sortChanges f.pronounChanges)
      (fun _ => none) (notes.foldl (State.addFile ordinary) s) := by
  induction notes generalizing s changes with
  | nil => simpa using h
  | cons f rest ih => simpa using ih (h.addFile ordinary f)

/-- Of what the options give a character, the last counts. -/
theorem addConfigured (h : PronounLedger canonical changes given s)
    (configured : List (String × String)) :
    PronounLedger canonical changes
      (fun name => ((configured.reverse.find? fun d => canonical d.1 == name).map (·.2)).or
        (given name)) (s.addConfigured configured) := by
  induction configured generalizing s given with
  | nil => exact h.congr fun name => by simp
  | cons d rest ih =>
      obtain ⟨n, set⟩ := d
      have hstep := h.modify (s.canonical n)
        (fun name => if canonical n = name then some set else given name)
        (f := fun p => { p with pronouns := set }) (fun _ => rfl)
        (fun _ _ => by rw [h.canonical_eq, if_pos rfl])
        (fun name hname => if_neg fun heq => hname (by rw [h.canonical_eq, heq]))
      refine (ih hstep).congr fun name => ?_
      rw [List.reverse_cons, List.find?_append, List.find?_singleton]
      by_cases hname : canonical n = name <;>
        cases rest.reverse.find? fun d => canonical d.1 == name <;> simp [hname]

/-- Of what front matter declares for a character, the first counts. -/
theorem foldl_declared (h : PronounLedger canonical changes given s)
    (declared : List (String × String)) :
    PronounLedger canonical changes
      (fun name => (given name).or
        ((declared.find? fun d => canonical d.1 == name).map (·.2)))
      (declared.foldl (fun s d =>
        s.modifyNamed d.1 fun p => { p with pronouns := p.pronouns.or (some d.2) }) s) := by
  induction declared generalizing s given with
  | nil => exact h.congr fun name => by simp
  | cons d rest ih =>
      obtain ⟨n, set⟩ := d
      have hstep := h.modify (s.canonical n)
        (fun name => (given name).or (if canonical n = name then some set else none))
        (f := fun p => { p with pronouns := p.pronouns.or (some set) }) (fun _ => rfl)
        (fun p hp => by
          dsimp only
          rw [h.canonical_eq, if_pos rfl, hp, h.canonical_eq])
        (fun name hname => by
          rw [if_neg fun heq => hname (by rw [h.canonical_eq, heq]), Option.or_none])
      refine (ih hstep).congr fun name => ?_
      rw [Option.or_assoc]
      by_cases hname : canonical n = name
      · rw [List.find?_cons_of_pos (by simpa using hname), if_pos hname]
        rfl
      · rw [List.find?_cons_of_neg (by simpa using hname), if_neg hname, Option.none_or]

theorem addDeclared (h : PronounLedger canonical changes given s) (f : FileNotes) :
    PronounLedger canonical changes
      (fun name => (given name).or
        ((f.declaredPronouns.find? fun d => canonical d.1 == name).map (·.2)))
      (s.addDeclared f) :=
  List.foldlRecOn _ _ (h.foldl_declared f.declaredPronouns) fun _ ht _ _ =>
    ht.modify_same (fun _ => rfl) fun _ => rfl

theorem foldl_addDeclared (h : PronounLedger canonical changes given s) (notes : List FileNotes) :
    PronounLedger canonical changes
      (fun name => (given name).or
        (((notes.flatMap (·.declaredPronouns)).find? fun d => canonical d.1 == name).map (·.2)))
      (notes.foldl State.addDeclared s) := by
  induction notes generalizing s given with
  | nil => exact h.congr fun name => by simp
  | cons f rest ih =>
      refine (ih (h.addDeclared f)).congr fun name => ?_
      rw [List.flatMap_cons, List.find?_append, Option.or_assoc, Option.map_or]

theorem addAliases (h : PronounLedger canonical changes given s) (pairs : List (String × String)) :
    PronounLedger canonical changes given (s.addAliases pairs) := by
  refine List.foldlRecOn _ _ h fun t ht entry _ => ?_
  dsimp only
  split
  · exact ht
  · exact ht.modify_same (fun _ => rfl) fun _ => rfl

theorem compareAll (h : PronounLedger canonical changes given s) (settings : Settings) :
    PronounLedger canonical changes given (s.compareAll settings) := by
  rw [State.compareAll_eq]
  exact ⟨h.canonical_eq, h.changes, h.given⟩

end PronounLedger

/-- The state of all notes knows all declarations of pronouns. -/
theorem pronounLedger_ofNotes (settings : Settings) (notes : List FileNotes) :
    PronounLedger (State.ofNotes settings notes).canonical (changesOf notes)
      (givenBy (State.ofNotes settings notes).canonical settings.pronouns
        ((State.sortNotes notes).flatMap (·.declaredPronouns)))
      (State.ofNotes settings notes) := by
  let start : State := {
    files := (State.sortNotes notes).map (·.path), canonicalNames := namesOf settings notes }
  have hstart : PronounLedger start.canonical [] (fun _ => none) start :=
    ⟨rfl, by simp [start], by simp [start]⟩
  have hall := (((((hstart.foldl_addFile (State.ordinaryWords (State.sortNotes notes))
    (State.sortNotes notes)).addConfigured settings.pronouns).foldl_addDeclared
    (State.sortNotes notes)).addAliases
    (settings.aliases ++ (State.sortNotes notes).flatMap State.aliasesOf)).compareAll settings)
  have hcanonical : (State.ofNotes settings notes).canonical = start.canonical := hall.canonical_eq
  rw [hcanonical]
  refine hall.congr fun name => ?_
  rw [givenBy, Option.map_or, Option.or_none]

/-! ## Which pronouns are established -/

namespace State

/-- A declaration in the text is of the character that a mention is of, and comes before it. -/
def applies (s : State) (m : Mention) (c : PronounChange) : Bool :=
  s.canonical c.name == s.canonical m.name && s.precedes c.location m.location

/-- A declaration in the text applies to a mention, and none that applies comes later. Of those at
one place it is the last one listed. -/
structure IsLatest (s : State) (notes : List FileNotes) (m : Mention) (c : PronounChange) :
    Prop where
  listed : ∃ f ∈ notes, (f.pronounChanges.filter fun c' =>
    s.applies m c' && decide (c'.location.offset = c.location.offset)).getLast? = some c
  latest : ∀ f ∈ notes, ∀ c' ∈ f.pronounChanges, s.applies m c' = true →
    ¬s.precedes c.location c'.location = true

/-- The options give a character pronouns, in the last of their entries for it, or else front matter
does, in the first of its entries in the order of the files. -/
inductive IsGiven (s : State) (settings : Settings) (notes : List FileNotes) (name : String) :
    String → Prop
  | configured {other set : String} {earlier later : List (String × String)}
      (split : settings.pronouns = earlier ++ (other, set) :: later)
      (same : s.canonical other = name) (last : ∀ d ∈ later, s.canonical d.1 ≠ name) :
      IsGiven s settings notes name set
  | declared {f : FileNotes} {other set : String} {earlier later : List (String × String)}
      (unconfigured : ∀ d ∈ settings.pronouns, s.canonical d.1 ≠ name) (mem : f ∈ notes)
      (split : f.declaredPronouns = earlier ++ (other, set) :: later)
      (same : s.canonical other = name) (first : ∀ d ∈ earlier, s.canonical d.1 ≠ name)
      (firstFile : ∀ g ∈ notes, (∃ d ∈ g.declaredPronouns, s.canonical d.1 = name) →
        s.fileIndex f.path ≤ s.fileIndex g.path) :
      IsGiven s settings notes name set

/-- A mention that counts shows pronouns of a character. -/
structure IsEvidence (s : State) (notes : List FileNotes) (name : String) (m : Mention) : Prop where
  mentioned : ∃ f ∈ notes, m ∈ f.mentions
  counts : ¬IsOrdinary notes m.name
  same : s.canonical m.name = name
  shows : m.pronouns ≠ []

/-- No mention shows pronouns of the character earlier. -/
structure IsFirstEvidence (s : State) (notes : List FileNotes) (name : String) (m : Mention) :
    Prop extends s.IsEvidence notes name m where
  first : ∀ m', s.IsEvidence notes name m' → ¬s.precedes m'.location m.location = true

/-- Pronouns are established where a character is mentioned: by the latest declaration in the text,
or else by the options or front matter, or else by another mention, which is the first that shows
any. -/
inductive Establishes (s : State) (settings : Settings) (notes : List FileNotes) (m : Mention) :
    String → Prop
  | latest {c : PronounChange} (latest : s.IsLatest notes m c) :
      Establishes s settings notes m c.pronouns
  | given {set : String}
      (unchanged : ∀ f ∈ notes, ∀ c ∈ f.pronounChanges, ¬s.applies m c = true)
      (given : s.IsGiven settings notes (s.canonical m.name) set) (named : set ≠ "") :
      Establishes s settings notes m set
  | shown {first : Mention} {set : String}
      (unchanged : ∀ f ∈ notes, ∀ c ∈ f.pronounChanges, ¬s.applies m c = true)
      (unnamed : ∀ set, s.IsGiven settings notes (s.canonical m.name) set → set = "")
      (evidence : s.IsFirstEvidence notes (s.canonical m.name) first) (other : first ≠ m)
      (head : first.pronouns.head? = some set) :
      Establishes s settings notes m set

end State

section Changes

variable {settings : Settings} {notes : List FileNotes} {f g : FileNotes} {s : State} {m : Mention}
  {c : PronounChange}

theorem mem_changesOf : c ∈ changesOf notes ↔ ∃ f ∈ notes, c ∈ f.pronounChanges := by
  simp only [changesOf, State.sortChanges, List.mem_flatMap, State.mem_sortNotes,
    List.mem_mergeSort]

/-- The number of a file tells it from the others. -/
theorem Distinct.eq_of_fileIndex (h : Distinct notes)
    (hfiles : s.files = (State.sortNotes notes).map (·.path)) (hf : f ∈ notes) (hg : g ∈ notes)
    (hindex : s.fileIndex f.path = s.fileIndex g.path) : f = g := by
  have hmem : f.path ∈ s.files := hfiles ▸ List.mem_map_of_mem (State.mem_sortNotes.2 hf)
  exact List.inj_on_of_nodup_map h.paths hf hg ((List.idxOf_inj hmem).1 hindex)

namespace Situated

/-- Declarations come in the order of their places. -/
theorem pairwise_changesOf (h : Situated notes)
    (hfiles : s.files = (State.sortNotes notes).map (·.path)) :
    (changesOf notes).Pairwise fun c d => ¬s.precedes d.location c.location = true := by
  rw [changesOf, List.pairwise_flatMap]
  have hplace {f : FileNotes} (hf : f ∈ State.sortNotes notes) {c : PronounChange}
      (hc : c ∈ State.sortChanges f.pronounChanges) : c.location.file = f.path :=
    h.changes f (State.mem_sortNotes.1 hf) c (List.mem_mergeSort.1 hc)
  constructor
  · intro f hf
    refine (Sorting.pairwise_of_key (fun c : PronounChange => c.location.offset) _).imp_of_mem ?_
    intro c d hc hd hle
    simpa [State.precedes, hplace hf hc, hplace hf hd] using hle
  · refine (h.pairwise_fileIndex hfiles).imp_of_mem ?_
    intro f g hf hg hlt c hc d hd
    simp only [State.precedes, hplace hf hc, hplace hg hd, Bool.or_eq_true, Bool.and_eq_true,
      decide_eq_true_eq, beq_iff_eq]
    omega

/-- The declarations at one place are those of its file, as they are listed there. -/
theorem filter_changesOf (h : Situated notes) (hf : f ∈ notes) (keep : PronounChange → Bool)
    (offset : Int) :
    ((changesOf notes).filter keep).filter (fun c =>
        decide (c.location.file = f.path) && decide (c.location.offset = offset)) =
      f.pronounChanges.filter fun c => keep c && decide (c.location.offset = offset) := by
  have hfile : ∀ g ∈ State.sortNotes notes,
      (State.sortChanges g.pronounChanges).filter (fun c =>
          (decide (c.location.file = f.path) && decide (c.location.offset = offset)) && keep c) =
        if g.path = f.path then
          g.pronounChanges.filter fun c => keep c && decide (c.location.offset = offset)
        else [] := by
    intro g hg
    have hplace : ∀ c ∈ State.sortChanges g.pronounChanges, c.location.file = g.path := fun c hc =>
      h.changes g (State.mem_sortNotes.1 hg) c (List.mem_mergeSort.1 hc)
    split
    next hpath =>
      rw [List.filter_congr (q := fun c => keep c && decide (c.location.offset = offset))
          fun c hc => by simp [hplace c hc, hpath, Bool.and_comm],
        ← List.filter_filter, State.sortChanges, Sorting.filter_key_mergeSort, List.filter_filter]
    next hpath =>
      refine List.filter_eq_nil_iff.2 fun c hc => ?_
      simp [hplace c hc, hpath]
  rw [List.filter_filter, changesOf, List.filter_flatMap, List.flatMap_congr hfile]
  exact Lists.flatMap_ite_of_mem FileNotes.path (State.nodup_sortNotes h.paths)
    (State.mem_sortNotes.2 hf) _

end Situated

theorem latestChange?_ofNotes (settings : Settings) (notes : List FileNotes) (m : Mention) :
    (State.ofNotes settings notes).latestChange?
        ((State.ofNotes settings notes).canonical m.name) m.location =
      ((changesOf notes).filter ((State.ofNotes settings notes).applies m)).getLast? := by
  rw [State.latestChange?, (pronounLedger_ofNotes settings notes).changes, List.filter_filter]
  congr 2
  funext c
  rw [State.applies, Bool.and_comm]

theorem latestChange?_eq_none_iff :
    (State.ofNotes settings notes).latestChange?
        ((State.ofNotes settings notes).canonical m.name) m.location = none ↔
      ∀ f ∈ notes, ∀ c ∈ f.pronounChanges, ¬(State.ofNotes settings notes).applies m c = true := by
  rw [latestChange?_ofNotes, List.getLast?_eq_none_iff, List.filter_eq_nil_iff]
  simp only [mem_changesOf]
  constructor
  · intro hnone f hf c hc
    exact hnone c ⟨f, hf, hc⟩
  · rintro hnone c ⟨f, hf, hc⟩
    exact hnone f hf c hc

/-- The last of the declarations before a mention is the latest one. -/
theorem Situated.isLatest (h : Situated notes)
    (hlast : (State.ofNotes settings notes).latestChange?
      ((State.ofNotes settings notes).canonical m.name) m.location = some c) :
    (State.ofNotes settings notes).IsLatest notes m c := by
  have hfiles := (ledger_ofNotes settings notes).files_eq
  rw [latestChange?_ofNotes, List.getLast?_eq_some_iff] at hlast
  obtain ⟨before, hsplit⟩ := hlast
  have hc : c ∈ (changesOf notes).filter ((State.ofNotes settings notes).applies m) := by
    rw [hsplit]
    exact List.mem_concat_self
  obtain ⟨f, hf, hcf⟩ := mem_changesOf.1 (List.mem_filter.1 hc).1
  refine ⟨⟨f, hf, ?_⟩, ?_⟩
  · rw [← h.filter_changesOf hf, hsplit, List.filter_append,
      List.filter_cons_of_pos (by simp [h.changes f hf c hcf])]
    exact List.getLast?_concat
  · intro g hg d hd happlies
    have hordered := (h.pairwise_changesOf hfiles).filter
      ((State.ofNotes settings notes).applies m)
    have hd' := List.mem_filter.2 ⟨mem_changesOf.2 ⟨g, hg, hd⟩, happlies⟩
    rw [hsplit] at hordered hd'
    rcases List.mem_append.1 hd' with hd' | hd'
    · exact (List.pairwise_append.1 hordered).2.2 d hd' c (List.mem_singleton_self c)
    · rw [List.mem_singleton.1 hd']
      exact State.precedes_irrefl _ _

theorem Situated.latestChange?_eq_some_iff (h : Situated notes) :
    (State.ofNotes settings notes).latestChange?
        ((State.ofNotes settings notes).canonical m.name) m.location = some c ↔
      (State.ofNotes settings notes).IsLatest notes m c := by
  refine ⟨h.isLatest, ?_⟩
  rintro hc
  obtain ⟨f, hf, hlisted⟩ := hc.listed
  have hmem := List.mem_filter.1 (List.mem_of_getLast? hlisted)
  have happlies : (State.ofNotes settings notes).applies m c = true := by
    simpa using hmem.2
  cases hlast : (State.ofNotes settings notes).latestChange?
      ((State.ofNotes settings notes).canonical m.name) m.location with
  | none => exact absurd happlies (latestChange?_eq_none_iff.1 hlast f hf c hmem.1)
  | some d =>
      -- Neither is before the other, so both are last among those of one file at one offset.
      have hd := h.isLatest hlast
      obtain ⟨g, hg, hlisted'⟩ := hd.listed
      have hmem' := List.mem_filter.1 (List.mem_of_getLast? hlisted')
      have happlies' : (State.ofNotes settings notes).applies m d = true := by
        simpa using hmem'.2
      have hcd := hc.latest g hg d hmem'.1 happlies'
      have hdc := hd.latest f hf c hmem.1 happlies
      simp only [State.precedes, Bool.or_eq_true, Bool.and_eq_true, decide_eq_true_eq, beq_iff_eq,
        not_or, not_and, not_lt, h.changes f hf c hmem.1, h.changes g hg d hmem'.1] at hcd hdc
      have hindex := le_antisymm hdc.1 hcd.1
      obtain rfl := h.eq_of_fileIndex (ledger_ofNotes settings notes).files_eq hf hg hindex
      have hoffset := le_antisymm (hdc.2 rfl) (hcd.2 rfl)
      rw [hoffset, hlisted'] at hlisted
      exact hlisted

end Changes

section Given

variable {settings : Settings} {notes : List FileNotes} {s : State} {p : Profile}
  {set : String}

/-- The first declaration of front matter is in the first file that has one. -/
theorem Distinct.find?_declared_eq_some_iff (h : Distinct notes)
    (hfiles : s.files = (State.sortNotes notes).map (·.path)) {keep : String × String → Bool}
    {d : String × String} :
    ((State.sortNotes notes).flatMap (·.declaredPronouns)).find? keep = some d ↔
      ∃ f ∈ notes, f.declaredPronouns.find? keep = some d ∧
        ∀ g ∈ notes, (∃ e ∈ g.declaredPronouns, keep e = true) →
          s.fileIndex f.path ≤ s.fileIndex g.path := by
  have hordered := h.pairwise_fileIndex hfiles
  rw [List.find?_flatMap, List.findSome?_eq_some_iff]
  constructor
  · rintro ⟨front, f, back, hsplit, hfound, hfront⟩
    have hmem {g : FileNotes} : g ∈ notes ↔ g ∈ front ++ f :: back := by
      rw [← hsplit, State.mem_sortNotes]
    refine ⟨f, hmem.2 (by simp), hfound, fun g hg hkeeps => ?_⟩
    rw [hsplit] at hordered
    rcases List.mem_append.1 (hmem.1 hg) with hg | hg
    · obtain ⟨e, he, hkeep⟩ := hkeeps
      exact absurd hkeep (List.find?_eq_none.1 (hfront g hg) e he)
    · rcases List.mem_cons.1 hg with rfl | hg
      · exact le_rfl
      · exact ((List.pairwise_cons.1 (List.pairwise_append.1 hordered).2.1).1 g hg).le
  · rintro ⟨f, hf, hfound, hfirst⟩
    obtain ⟨front, back, hsplit⟩ := List.append_of_mem (State.mem_sortNotes.2 hf)
    refine ⟨front, f, back, hsplit, hfound, fun g hg => List.find?_eq_none.2 fun e he hkeep => ?_⟩
    have hmem : g ∈ notes := State.mem_sortNotes.1 (hsplit ▸ List.mem_append_left _ hg)
    rw [hsplit] at hordered
    have hlt := (List.pairwise_append.1 hordered).2.2 g hg f List.mem_cons_self
    exact absurd (hfirst g hmem ⟨e, he, hkeep⟩) (not_le.2 hlt)

/-- The pronouns of a character are what the options or front matter give it. -/
theorem Distinct.pronouns_eq_some_iff (h : Distinct notes)
    (hp : p ∈ (State.ofNotes settings notes).characters) (set : String) :
    p.pronouns = some set ↔
      (State.ofNotes settings notes).IsGiven settings notes p.name set := by
  have hfiles := (ledger_ofNotes settings notes).files_eq
  rw [(pronounLedger_ofNotes settings notes).given p hp, givenBy, Option.map_eq_some_iff]
  constructor
  · rintro ⟨⟨other, set⟩, hfound, rfl⟩
    cases hlast : settings.pronouns.reverse.find? fun d =>
        (State.ofNotes settings notes).canonical d.1 == p.name with
    | some d =>
        obtain rfl : d = (other, set) := by simpa [hlast] using hfound
        obtain ⟨hsame, earlier, later, hsplit, hlater⟩ := Lists.find?_reverse_eq_some_iff.1 hlast
        exact .configured hsplit (by simpa using hsame) (by simpa using hlater)
    | none =>
        rw [hlast, Option.none_or, h.find?_declared_eq_some_iff hfiles] at hfound
        obtain ⟨f, hf, hfound, hfirst⟩ := hfound
        obtain ⟨hsame, earlier, later, hsplit, hearlier⟩ := List.find?_eq_some_iff_append.1 hfound
        refine .declared ?_ hf hsplit (by simpa using hsame) (by simpa using hearlier)
          (by simpa using hfirst)
        simpa using hlast
  · intro hgiven
    cases hgiven with
    | @configured other _ earlier later hsplit hsame hlast =>
        refine ⟨(other, set), ?_, rfl⟩
        rw [Lists.find?_reverse_eq_some_iff.2
          ⟨by simpa using hsame, earlier, later, hsplit, by simpa using hlast⟩, Option.some_or]
    | @declared f other _ earlier later hnone hf hsplit hsame hearlier hfirst =>
        refine ⟨(other, set), ?_, rfl⟩
        rw [List.find?_eq_none.2 (by simpa using hnone), Option.none_or,
          h.find?_declared_eq_some_iff hfiles]
        refine ⟨f, hf, ?_, by simpa using hfirst⟩
        exact List.find?_eq_some_iff_append.2
          ⟨by simpa using hsame, earlier, later, hsplit, by simpa using hearlier⟩

end Given

section Evidence

variable {settings : Settings} {notes : List FileNotes} {f : FileNotes} {m first : Mention}
  {p : Profile} {name set : String}

/-- The first of the mentions of a character that shows pronouns is its first evidence. -/
theorem Distinct.find?_evidence_eq_some_iff (h : Distinct notes) :
    ((State.ofNotes settings notes).mentionsAlong (State.ofNotes settings notes).files name).find?
        (fun m => !m.pronouns.isEmpty) = some first ↔
      (State.ofNotes settings notes).IsFirstEvidence notes name first := by
  have hordered : ((State.ofNotes settings notes).mentionsAlong
      (State.ofNotes settings notes).files name).Pairwise fun a b =>
        (State.ofNotes settings notes).precedes a.location b.location = true := by
    rw [State.mentionsAlong, mentionsIn_ofNotes h.paths]
    refine List.Pairwise.filter _ (List.pairwise_map.2 ?_)
    exact h.pairwise_entriesOf (ledger_ofNotes settings notes).files_eq
  have hevidence {m : Mention} : (State.ofNotes settings notes).IsEvidence notes name m ↔
      m ∈ (State.ofNotes settings notes).mentionsAlong (State.ofNotes settings notes).files name ∧
        (!m.pronouns.isEmpty) = true := by
    rw [mem_mentionsAlong h.paths]
    constructor
    · intro hm
      exact ⟨⟨hm.mentioned, hm.counts, hm.same⟩, by simpa using hm.shows⟩
    · rintro ⟨⟨hmentioned, hcounts, hsame⟩, hshows⟩
      exact ⟨hmentioned, hcounts, hsame, by simpa using hshows⟩
  rw [Lists.find?_eq_some_iff_of_pairwise (fun a b hab hba =>
    State.precedes_irrefl _ _ (State.precedes_trans hab hba)) hordered]
  constructor
  · rintro ⟨hmem, hshows, hfirst⟩
    refine ⟨hevidence.2 ⟨hmem, hshows⟩, fun m' hm' => ?_⟩
    exact hfirst m' (hevidence.1 hm').1 (hevidence.1 hm').2
  · intro hfirst
    obtain ⟨hmem, hshows⟩ := hevidence.1 hfirst.toIsEvidence
    exact ⟨hmem, hshows, fun m' hm' hshows' => hfirst.first m' (hevidence.2 ⟨hm', hshows'⟩)⟩

section Established

variable {c : PronounChange} {given : String}

/-- A declaration that applies goes before all else. -/
theorem Situated.establishes_iff_of_latest (h : Situated notes)
    (hlast : (State.ofNotes settings notes).latestChange?
      ((State.ofNotes settings notes).canonical m.name) m.location = some c) :
    (State.ofNotes settings notes).Establishes settings notes m set ↔ c.pronouns = set := by
  constructor
  · intro hestablishes
    cases hestablishes with
    | latest hlatest =>
        rw [← h.latestChange?_eq_some_iff, hlast, Option.some.injEq] at hlatest
        rw [hlatest]
    | given hunchanged =>
        rw [latestChange?_eq_none_iff.2 hunchanged] at hlast
        cases hlast
    | shown hunchanged =>
        rw [latestChange?_eq_none_iff.2 hunchanged] at hlast
        cases hlast
  · rintro rfl
    exact .latest (h.isLatest hlast)

section Unchanged

variable (hunchanged : ∀ f ∈ notes, ∀ c ∈ f.pronounChanges,
  ¬(State.ofNotes settings notes).applies m c = true)

include hunchanged

theorem Situated.not_isLatest (h : Situated notes) :
    ¬(State.ofNotes settings notes).IsLatest notes m c := by
  rw [← h.latestChange?_eq_some_iff, latestChange?_eq_none_iff.2 hunchanged]
  exact nofun

/-- Where no declaration applies, pronouns that are given to the character go before those shown. -/
theorem Situated.establishes_iff_of_given (h : Situated notes)
    (hp : p ∈ (State.ofNotes settings notes).characters)
    (hname : p.name = (State.ofNotes settings notes).canonical m.name)
    (hpronouns : p.pronouns = some given) (hnamed : given ≠ "") :
    (State.ofNotes settings notes).Establishes settings notes m set ↔ given = set := by
  have hgiven := h.pronouns_eq_some_iff hp
  rw [hname] at hgiven
  constructor
  · intro hestablishes
    cases hestablishes with
    | latest hlatest => exact absurd hlatest (h.not_isLatest hunchanged)
    | given _ hset =>
        rw [← hgiven, hpronouns] at hset
        exact Option.some.inj hset
    | shown _ hunnamed => exact absurd (hunnamed given ((hgiven given).1 hpronouns)) hnamed
  · rintro rfl
    exact .given hunchanged ((hgiven given).1 hpronouns) hnamed

/-- Where moreover none are given that name any, pronouns are those of the first evidence. -/
theorem Situated.establishes_iff_of_unnamed (h : Situated notes)
    (hunnamed : ∀ set, (State.ofNotes settings notes).IsGiven settings notes
      ((State.ofNotes settings notes).canonical m.name) set → set = "") :
    (State.ofNotes settings notes).Establishes settings notes m set ↔
      ∃ first, (State.ofNotes settings notes).IsFirstEvidence notes
        ((State.ofNotes settings notes).canonical m.name) first ∧ first ≠ m ∧
          first.pronouns.head? = some set := by
  constructor
  · intro hestablishes
    cases hestablishes with
    | latest hlatest => exact absurd hlatest (h.not_isLatest hunchanged)
    | given _ hset hnamed => exact absurd (hunnamed _ hset) hnamed
    | shown _ _ hfirst hother hhead => exact ⟨_, hfirst, hother, hhead⟩
  · rintro ⟨first, hfirst, hother, hhead⟩
    exact .shown hunchanged hunnamed hfirst hother hhead

end Unchanged

/-- What is noted of the pronouns of a character is those of the first evidence, at another
mention. -/
theorem Situated.evidencePronouns_eq_some_iff (h : Situated notes) (hf : f ∈ notes)
    (hm : m ∈ f.mentions) (hp : p ∈ (State.ofNotes settings notes).characters) (set : String) :
    (∃ place, p.firstEvidence = some place ∧ place ≠ m.location ∧ p.evidencePronouns = some set) ↔
      ∃ first, (State.ofNotes settings notes).IsFirstEvidence notes p.name first ∧ first ≠ m ∧
        first.pronouns.head? = some set := by
  have htold := (follows_ofNotes h.paths hp).told
  simp only [← h.find?_evidence_eq_some_iff]
  rw [htold.firstEvidence, htold.evidencePronouns]
  cases hfound : ((State.ofNotes settings notes).mentionsAlong
      (State.ofNotes settings notes).files p.name).find? fun m => !m.pronouns.isEmpty with
  | none => simp
  | some first =>
      obtain ⟨g, hg, hmem⟩ := (h.find?_evidence_eq_some_iff.1 hfound).mentioned
      -- Mentions at one place are the same.
      have hother : first.location ≠ m.location ↔ first ≠ m :=
        not_congr ⟨fun heq => (h.eq_of_location hg hmem hf hm heq).2, congrArg Mention.location⟩
      simp [hother]

/-- The rule finds what establishes pronouns at a mention. -/
theorem Situated.establishedPronouns?_eq_some_iff (h : Situated notes) (hf : f ∈ notes)
    (hm : m ∈ f.mentions) (hp : p ∈ (State.ofNotes settings notes).characters)
    (hname : p.name = (State.ofNotes settings notes).canonical m.name) (set : String) :
    (State.ofNotes settings notes).establishedPronouns? p m = some set ↔
      (State.ofNotes settings notes).Establishes settings notes m set := by
  have hevidence := h.evidencePronouns_eq_some_iff hf hm hp set
  rw [hname] at hevidence
  rw [State.establishedPronouns?, hname]
  cases hlast : (State.ofNotes settings notes).latestChange?
      ((State.ofNotes settings notes).canonical m.name) m.location with
  | some c => rw [h.establishes_iff_of_latest hlast, Option.some.injEq]
  | none =>
      have hunchanged := latestChange?_eq_none_iff.1 hlast
      cases hgiven : p.pronouns.filter fun set => !set.isEmpty with
      | some given =>
          obtain ⟨hpronouns, hnamed⟩ := Option.filter_eq_some_iff.1 hgiven
          rw [h.establishes_iff_of_given hunchanged hp hname hpronouns (by simpa using hnamed),
            Option.some.injEq]
      | none =>
          have hunnamed : ∀ set, (State.ofNotes settings notes).IsGiven settings notes
              ((State.ofNotes settings notes).canonical m.name) set → set = "" := by
            intro set hset
            rw [← hname, ← h.pronouns_eq_some_iff hp] at hset
            simpa [hset] using hgiven
          rw [h.establishes_iff_of_unnamed hunchanged hunnamed, ← hevidence]
          cases p.firstEvidence with
          | none => simp
          | some place => simp

end Established

/-- A mention that counts has an issue if some of its pronouns are not the established ones. -/
theorem Situated.isSome_pronounIssue?_iff (h : Situated notes) (hf : f ∈ notes)
    (hm : m ∈ f.mentions) (hcounts : ¬IsOrdinary notes m.name) :
    ((State.ofNotes settings notes).pronounIssue? m).isSome = true ↔
      ∃ set, (State.ofNotes settings notes).Establishes settings notes m set ∧
        ∃ used ∈ m.pronouns, used ≠ set := by
  have hledger := ledger_ofNotes settings notes
  obtain ⟨p, hp, hname⟩ := hledger.known _ (mem_entriesOf.2 ⟨f, hf, rfl, hm, hcounts⟩)
  have hfound := hledger.find?_eq_some_iff.2 ⟨hp, hname⟩
  have hestablished := h.establishedPronouns?_eq_some_iff hf hm hp hname
  rw [State.pronounIssue?]
  by_cases hshows : m.pronouns = []
  · simp [hshows]
  · rw [if_neg (by simpa using hshows)]
    have hused (set : String) : (m.pronouns.find? (· != set)).isSome = true ↔
        ∃ used ∈ m.pronouns, used ≠ set := by
      simp
    simp only [hfound, Option.bind_eq_bind, Option.bind_some, Option.isSome_bind, Option.pure_def,
      Option.isSome_some, Option.any_true, Option.any_eq_true, ← hestablished, hused]

end Evidence

/-- The message of a mention whose pronouns are not the established ones. -/
def driftMessage (used name set : String) : String :=
  "Pronoun '" ++ used ++ "' used for '" ++ name ++ "', who is established as '" ++ set ++ "'"

/-- An issue at a mention tells of a set of its pronouns that is not the established one. -/
structure State.TellsDrift (s : State) (settings : Settings) (notes : List FileNotes) (m : Mention)
    (issue : Issue) (used set : String) : Prop where
  isAt : IsAt "CHAR003" m.location issue
  message : issue.message = driftMessage used m.name set
  established : s.Establishes settings notes m set
  mem : used ∈ m.pronouns
  ne : used ≠ set

section Main

variable {notes : List FileNotes} {f : FileNotes} {m : Mention} {issue : Issue}

theorem Situated.exists_tellsDrift {settings : Settings} (h : Situated notes) (hf : f ∈ notes)
    (hm : m ∈ f.mentions)
    (hissue : (State.ofNotes settings notes).pronounIssue? m = some issue) :
    ∃ used set, (State.ofNotes settings notes).TellsDrift settings notes m issue used set := by
  have hisAt := State.isAt_of_pronounIssue hissue
  unfold State.pronounIssue? at hissue
  split at hissue
  next => cases hissue
  next =>
    obtain ⟨p, hfound, hissue⟩ := Option.bind_eq_some_iff.1 hissue
    obtain ⟨set, hset, hissue⟩ := Option.bind_eq_some_iff.1 hissue
    obtain ⟨used, hused, hissue⟩ := Option.bind_eq_some_iff.1 hissue
    obtain ⟨hp, hname⟩ := (ledger_ofNotes settings notes).find?_eq_some_iff.1 hfound
    cases hissue
    exact ⟨used, set, hisAt, rfl, (h.establishedPronouns?_eq_some_iff hf hm hp hname set).1 hset,
      List.mem_of_find?_eq_some hused, by simpa using List.find?_some hused⟩

/-- The rules find all characters that they look for. A mention that counts has one issue of its
pronouns if some of them are not the established ones, and else none. -/
theorem pronoun_drift_exact (settings : Settings) (h : Situated notes) (strict : Bool)
    (hf : f ∈ notes) :
    let s := State.ofNotes settings notes
    ∃ (issues : List Issue) (kept : List Mention), s.fileIssues strict f.path = .ok issues ∧
      issues.filter (·.code == "CHAR003") = kept.filterMap s.pronounIssue? ∧ kept.Nodup ∧
      (∀ m, m ∈ kept ↔ m ∈ f.mentions ∧ ¬IsOrdinary notes m.name) ∧
      ∀ m ∈ kept,
        ((s.pronounIssue? m).isSome = true ↔
          ∃ set, s.Establishes settings notes m set ∧ ∃ used ∈ m.pronouns, used ≠ set) ∧
        ∀ issue, s.pronounIssue? m = some issue →
          ∃ used set, s.TellsDrift settings notes m issue used set := by
  intro s
  have hordinary {name : String} : name ∈ State.ordinaryWords (State.sortNotes notes) ↔
      IsOrdinary notes name :=
    State.mem_ordinaryWords.trans (IsOrdinary.congr fun _ => State.mem_sortNotes)
  have hkept (m : Mention) : m ∈ keptMentions (State.ordinaryWords (State.sortNotes notes)) f ↔
      m ∈ f.mentions ∧ ¬IsOrdinary notes m.name := by
    simp [keptMentions, hordinary]
  refine ⟨s.issuesOf strict f.path, keptMentions (State.ordinaryWords (State.sortNotes notes)) f,
    (ledger_ofNotes settings notes).fileIssues_eq strict f.path, ?_, ?_, hkept, fun m hm => ?_⟩
  · rw [s.filter_pronouns, mentions_ofNotes h.paths hf]
  · refine List.Nodup.filter _ (List.Nodup.of_map (fun m : Mention => m.location.offset) ?_)
    exact ((List.mergeSort_perm _ _).map _).nodup_iff.2 (h.offsets f hf)
  · obtain ⟨hmention, hcounts⟩ := (hkept m).1 hm
    exact ⟨h.isSome_pronounIssue?_iff hf hmention hcounts,
      fun issue => h.exists_tellsDrift hf hmention⟩

end Main

/-- Sarah is she in the first file, is declared to be he in the second, and is she again in the
third. -/
theorem sarah_drifts :
    let mention (file set : String) : Mention :=
      { name := "Sarah", location := ⟨file, 1, 31, 30⟩, pronouns := [set] }
    let notes : List FileNotes :=
      [{ path := "a.md", mentions := [mention "a.md" "she"] },
        { path := "b.md", mentions := [mention "b.md" "he"]
          pronounChanges := [⟨"Sarah", "he", ⟨"b.md", 1, 9, 8⟩⟩] },
        { path := "c.md", mentions := [mention "c.md" "she"] }]
    let s := State.ofNotes {} notes
    Situated notes ∧ ∃ issues, s.fileIssues false "c.md" = .ok issues ∧ ∃ issue ∈ issues,
      ∃ used set, s.TellsDrift {} notes (mention "c.md" "she") issue used set := by
  intro mention notes s
  have hdistinct : Situated notes := ⟨⟨by decide, by decide, by decide⟩, by decide⟩
  have hcounts : ¬IsOrdinary notes "Sarah" := by decide +kernel
  have hissue : (s.pronounIssue? (mention "c.md" "she")).isSome = true := by
    have hsorted : State.sortNotes notes = notes := State.sortNotes_of_pairwise (by decide +kernel)
    have hs : s = State.ofNotes {} notes := rfl
    rw [State.ofNotes, hsorted] at hs
    dsimp only at hs
    rw [State.compareAll, List.mergeSort_of_pairwise (by decide +kernel)] at hs
    rw [hs]
    decide +kernel
  obtain ⟨issues, kept, hissues, hfiltered, -, hkept, htells⟩ :=
    pronoun_drift_exact {} hdistinct false (.tail _ (.tail _ (.head _)))
  have hm : mention "c.md" "she" ∈ kept := (hkept _).2 ⟨.head _, hcounts⟩
  obtain ⟨issue, hissue⟩ := Option.isSome_iff_exists.1 hissue
  refine ⟨hdistinct, issues, hissues, issue, ?_, (htells _ hm).2 issue hissue⟩
  have hmem : issue ∈ kept.filterMap s.pronounIssue? := List.mem_filterMap.2 ⟨_, hm, hissue⟩
  rw [← hfiltered] at hmem
  exact (List.mem_filter.1 hmem).1

/-- Ann is he, but the options give her an empty text and front matter says that she is she. The
empty text names no pronouns, and yet front matter does not count beside it. -/
theorem empty_pronouns_establish_none :
    let ann : Mention := { name := "Ann", location := ⟨"a.md", 1, 6, 5⟩, pronouns := ["he"] }
    let notes : List FileNotes :=
      [{ path := "a.md", mentions := [ann], declaredPronouns := [("Ann", "she")] }]
    let settings : Settings := { pronouns := [("Ann", "")] }
    let s := State.ofNotes settings notes
    Situated notes ∧ ¬IsOrdinary notes ann.name ∧ (∀ f ∈ notes, f.pronounChanges = []) ∧
      s.IsGiven settings notes (s.canonical ann.name) "" ∧ (∃ used ∈ ann.pronouns, used ≠ "") ∧
      s.fileIssues false "a.md" = .ok [] := by
  intro ann notes settings s
  have hsplit : settings.pronouns = [] ++ ("Ann", "") :: [] := rfl
  have hgiven : s.IsGiven settings notes (s.canonical ann.name) "" :=
    .configured hsplit rfl (by simp)
  refine ⟨⟨⟨by decide, by decide, by decide⟩, by decide⟩, by decide +kernel, by decide, hgiven,
    by decide, ?_⟩
  have hsorted : State.sortNotes notes = notes := State.sortNotes_of_pairwise (by decide +kernel)
  have hs : s = State.ofNotes settings notes := rfl
  rw [State.ofNotes, hsorted] at hs
  dsimp only at hs
  rw [State.compareAll, List.mergeSort_of_pairwise (by decide +kernel)] at hs
  rw [hs]
  decide +kernel

end Continuity.Character
