import Mathlib.Data.List.Pairwise
import Continuity.Proofs.Character.Issues
import Continuity.Proofs.Character.Merge

/-! # What is taken for a misspelling

Two characters are compared by the names that they go by, but an issue of a spelling quotes the name
as it is mentioned. So the name that is quoted is much like the reference where it is that of the
character, apart from case. Where it is declared as another name of the character, it need not be.

Of two characters with names much alike, the less established one is flagged. As one of two always
is, and none is less established than itself, flagged names lead on to their references without ever
coming back.
-/

namespace Continuity.Character

variable {settings : Settings} {notes : List FileNotes} {m : Mention} {p : Profile}

/-- A mention is never taken for a misspelling of its own name in other case. -/
theorem fold_ne_of_alike (hp : p ∈ (State.ofNotes settings notes).characters)
    (halike : Alike settings ((State.ofNotes settings notes).canonical m.name) p.name) :
    Text.fold m.name ≠ Text.fold p.name := by
  intro hname
  have hself := (ledger_ofNotes settings notes).canonical_name
    (canonical_canonical_ofNotes settings notes) hp
  cases hlookup : (State.ofNotes settings notes).canonicalNames.lookup (Text.fold m.name) with
  | none =>
      rw [State.canonical, hlookup] at halike
      exact halike.nearMiss.apart hname
  | some name =>
      -- Both names resolve to the same character, but no character is compared with itself.
      rw [State.canonical, hlookup] at halike
      rw [State.canonical, ← hname, hlookup] at hself
      exact halike.nearMiss.apart (congrArg Text.fold hself)

/-- The rules find all characters that they look for. Each issue of a spelling quotes a name that is
mentioned in the file and belongs to a character that is much like the reference. The quoted name is
never the reference itself, and it is as near to it where it is the name of the character, apart
from case. -/
theorem flagged_character_is_near_miss (settings : Settings) (notes : List FileNotes)
    (strict : Bool) (path : String) :
    let s := State.ofNotes settings notes
    ∃ issues, s.fileIssues strict path = .ok issues ∧
      ∀ issue ∈ issues, issue.code = "CHAR001" →
        ∃ f ∈ notes, f.path = path ∧ ∃ m ∈ f.mentions, ∃ reference,
          s.find? reference.name = some reference ∧ issue = State.spellingIssue m reference ∧
          Alike settings (s.canonical m.name) reference.name ∧
          Text.fold m.name ≠ Text.fold reference.name ∧
          (Text.fold m.name = Text.fold (s.canonical m.name) →
            NearMiss settings.maxDistance m.name reference.name) := by
  intro s
  have hledger : Ledger _ _ (entriesOf notes) s := ledger_ofNotes settings notes
  refine ⟨_, hledger.fileIssues_eq strict path, ?_⟩
  intro issue hissue hcode
  have hspelling : issue ∈ ((s.mentions.lookup path).getD []).flatMap s.spellingIssuesOf := by
    rw [← s.filter_spellings strict path]
    exact List.mem_filter.2 ⟨hissue, by simpa using hcode⟩
  obtain ⟨m, hm, hissue⟩ := List.mem_flatMap.1 hspelling
  obtain ⟨reference, hmisspelling, hfound, rfl⟩ := State.mem_spellingIssuesOf.1 hissue
  obtain ⟨f, hf, hpath, hmention, -⟩ := mem_entriesOf.1 (hledger.mem_mentions.1 hm)
  obtain ⟨halike, -, -⟩ := State.exists_of_mem_misspellings hmisspelling
  have hreference : reference ∈ s.characters := (hledger.find?_eq_some_iff.1 hfound).1
  refine ⟨f, hf, hpath, m, hmention, reference, hfound, rfl, halike,
    fold_ne_of_alike hreference halike, ?_⟩
  intro hname
  exact halike.nearMiss.congr hname

/-- Lisa is declared as another name of Elizabeth, who is taken for a misspelling of Elisabeth. -/
theorem alias_taken_for_misspelling :
    let elisabeth : Mention := { name := "Elisabeth", location := ⟨"a.md", 1, 6, 5⟩ }
    let lisa : Mention := { name := "Lisa", location := ⟨"b.md", 6, 6, 58⟩ }
    let notes : List FileNotes :=
      [{ path := "a.md", mentions := [elisabeth] },
        { path := "b.md", mentions := [lisa]
          aliases := [⟨"Elizabeth", "Lisa", some ⟨"b.md", 1, 1, 0⟩⟩] }]
    (match (State.ofNotes {} notes).fileIssues false "b.md" with
      | .ok issues => issues.map fun issue => (issue.code, issue.message)
      | .error _ => []) =
        [("CHAR001", "Character name 'Lisa' looks like a misspelling of 'Elisabeth' " ++
          "(first seen at a.md:1:6)")] ∧
      ¬NearMiss ({} : Settings).maxDistance "Lisa" "Elisabeth" := by
  intro elisabeth lisa notes
  have hsorted : State.sortNotes notes = notes := State.sortNotes_of_pairwise (by decide +kernel)
  refine ⟨?_, by decide +kernel⟩
  rw [State.ofNotes, hsorted]
  dsimp only
  rw [State.compareAll, List.mergeSort_of_pairwise (by decide +kernel)]
  decide +kernel

/-! ## The less established of two characters -/

namespace State

/-- One character appears less often than another, or as often and later. -/
def IsLessEstablished (s : State) (p q : Profile) : Prop :=
  p.appearances.length < q.appearances.length ∨
    p.appearances.length = q.appearances.length ∧ s.precedes q.firstSeen p.firstSeen = true

variable {s : State} {p q r : Profile} {a b c : Location} {w : Misspelling}

/-- One of two places comes before the other. -/
def AreApart (s : State) (a b : Location) : Prop :=
  s.precedes a b = true ∨ s.precedes b a = true

instance (s : State) : Std.Symm s.AreApart := ⟨fun _ _ => Or.symm⟩

theorem IsLessEstablished.irrefl (p : Profile) : ¬s.IsLessEstablished p p := by
  rintro (hlt | ⟨-, hprecedes⟩)
  · exact lt_irrefl _ hlt
  · exact s.precedes_irrefl _ hprecedes

theorem IsLessEstablished.trans (hpq : s.IsLessEstablished p q) (hqr : s.IsLessEstablished q r) :
    s.IsLessEstablished p r := by
  rcases hpq with hpq | ⟨hpq, hlater⟩ <;> rcases hqr with hqr | ⟨hqr, hlater'⟩
  · exact .inl (hpq.trans hqr)
  · exact .inl (hqr ▸ hpq)
  · exact .inl (hpq ▸ hqr)
  · exact .inr ⟨hpq.trans hqr, precedes_trans hlater' hlater⟩

/-- The character with one name is less established than the one with another. -/
def Defers (s : State) (name other : String) : Prop :=
  ∃ p q, s.find? name = some p ∧ s.find? other = some q ∧ s.IsLessEstablished p q

instance (s : State) : IsTrans String s.Defers where
  trans := by
    rintro _ _ _ ⟨p, q, hp, hq, hpq⟩ ⟨q', r, hq', hr, hqr⟩
    obtain rfl := Option.some.inj (hq.symm.trans hq')
    exact ⟨p, r, hp, hr, hpq.trans hqr⟩

theorem Defers.irrefl (name : String) : ¬s.Defers name name := by
  rintro ⟨p, q, hp, hq, hpq⟩
  obtain rfl := Option.some.inj (hp.symm.trans hq)
  exact IsLessEstablished.irrefl p hpq

/-- Of two characters that are not first seen at once, the less established one is found. -/
theorem lessEstablished_spec (h : s.AreApart p.firstSeen q.firstSeen) :
    s.IsLessEstablished (s.lessEstablished p q).1 (s.lessEstablished p q).2 := by
  unfold lessEstablished
  split
  next hlt => exact .inl hlt
  next hle =>
    split
    next hlt => exact .inl hlt
    next hle' =>
      have hsame := le_antisymm (not_lt.1 hle') (not_lt.1 hle)
      split
      next hlater => exact .inr ⟨hsame, hlater⟩
      next hearlier => exact .inr ⟨hsame.symm, h.resolve_right hearlier⟩

end State

/-! ## Each two characters -/

/-- A misspelling is one of two names for the other. -/
def Misspelling.IsOf (w : Misspelling) (a b : String) : Prop := w = ⟨a, b⟩ ∨ w = ⟨b, a⟩

instance (w : Misspelling) (a b : String) : Decidable (w.IsOf a b) :=
  inferInstanceAs (Decidable (w = ⟨a, b⟩ ∨ w = ⟨b, a⟩))

namespace State

variable {w : Misspelling} {p q : Profile} {a b : String}

theorem alike_of_isOf (hw : w ∈ (ofNotes settings notes).misspellings) (h : w.IsOf a b) :
    Alike settings a b := by
  obtain ⟨halike, -, -⟩ := exists_of_mem_misspellings hw
  rcases h with rfl | rfl
  · exact halike
  · exact halike.symm

theorem misspelling?_eq_some_iff {s : State} :
    s.misspelling? settings (p, q) = some w ↔ Alike settings p.name q.name ∧
      w = ⟨(s.lessEstablished p q).1.name, (s.lessEstablished p q).2.name⟩ := by
  have hpair : (nicknamePair? p.name q.name = none ∧ areSimilar settings p.name q.name = true) ↔
      Alike settings p.name q.name := by
    rw [areSimilar_iff, and_iff_right_iff_imp]
    intro h
    have hunrelated := h.unrelated
    simp only [areRelated, Bool.or_eq_false_iff, Option.isSome_eq_false_iff,
      Option.isNone_iff_eq_none] at hunrelated
    exact hunrelated.1
  unfold misspelling?
  dsimp only
  by_cases h : Alike settings p.name q.name
  · rw [if_pos (hpair.2 h), and_iff_right h, Option.some.injEq, eq_comm]
  · simp [h, hpair]

/-- Two characters whose names are alike are taken for a misspelling, one of the other. -/
theorem exists_isOf (hp : p ∈ (ofNotes settings notes).characters)
    (hq : q ∈ (ofNotes settings notes).characters) (hne : p.name ≠ q.name)
    (h : Alike settings p.name q.name) :
    ∃ w ∈ (ofNotes settings notes).misspellings, w.IsOf p.name q.name := by
  have hof (p q : Profile) : Misspelling.IsOf
      ⟨((ofNotes settings notes).lessEstablished p q).1.name,
        ((ofNotes settings notes).lessEstablished p q).2.name⟩ p.name q.name := by
    rcases (ofNotes settings notes).lessEstablished_cases p q with heq | heq
    · exact .inl (by rw [heq])
    · exact .inr (by rw [heq])
  rw [misspellings_ofNotes]
  rcases mem_pairs_of_ne (List.mem_mergeSort.2 hp) (List.mem_mergeSort.2 hq)
    fun heq => hne (congrArg Profile.name heq) with hpair | hpair
  · exact ⟨_, List.mem_filterMap.2 ⟨_, hpair, misspelling?_eq_some_iff.2 ⟨h, rfl⟩⟩, hof p q⟩
  · exact ⟨_, List.mem_filterMap.2 ⟨_, hpair, misspelling?_eq_some_iff.2 ⟨h.symm, rfl⟩⟩,
      (hof q p).symm⟩

/-- No two misspellings are of the same two names. -/
theorem countP_isOf_le_one (settings : Settings) (notes : List FileNotes) (a b : String) :
    (ofNotes settings notes).misspellings.countP (fun w => decide (w.IsOf a b)) ≤ 1 := by
  have hfiltered := (pairwise_misspellings settings notes).filter fun w => decide (w.IsOf a b)
  rw [List.countP_eq_length_filter]
  cases hfound : (ofNotes settings notes).misspellings.filter fun w => decide (w.IsOf a b) with
  | nil => simp
  | cons w rest =>
      cases rest with
      | nil => simp
      | cons w' rest =>
          -- Two of the same names have them in the same order or swapped.
          have hof {w'' : Misspelling} (h : w'' ∈ w :: w' :: rest) : w''.IsOf a b := by
            rw [← hfound] at h
            simpa using (List.mem_filter.1 h).2
          rw [hfound] at hfiltered
          obtain ⟨hne, hswap⟩ := List.rel_of_pairwise_cons hfiltered List.mem_cons_self
          rcases hof List.mem_cons_self with rfl | rfl <;>
            rcases hof (List.mem_cons_of_mem _ List.mem_cons_self) with rfl | rfl
          · exact absurd rfl hne
          · exact absurd rfl hswap
          · exact absurd rfl hswap
          · exact absurd rfl hne

end State

/-- No two characters are first seen at once. -/
theorem Distinct.areApart (h : Distinct notes) {p q : Profile}
    (hp : p ∈ (State.ofNotes settings notes).characters)
    (hq : q ∈ (State.ofNotes settings notes).characters) (hne : p.name ≠ q.name) :
    (State.ofNotes settings notes).AreApart p.firstSeen q.firstSeen := by
  have hledger := ledger_ofNotes settings notes
  obtain ⟨entry, hentry, hname, hplace⟩ := hledger.exists_first hp
  obtain ⟨entry', hentry', hname', hplace'⟩ := hledger.exists_first hq
  have hdifferent : entry ≠ entry' := by
    rintro rfl
    exact hne (hname.symm.trans hname')
  -- Both are first seen at mentions that count, and these come in the order of their places.
  have hordered : (entriesOf notes).Pairwise
      (Order.Preimage (·.2.location) (State.ofNotes settings notes).AreApart) :=
    (h.pairwise_entriesOf hledger.files_eq).imp .inl
  rw [← hplace, ← hplace']
  exact hordered.forall hentry hentry' hdifferent

/-- The flagged character of a misspelling is less established than the reference. -/
theorem Distinct.defers (h : Distinct notes) {w : Misspelling}
    (hw : w ∈ (State.ofNotes settings notes).misspellings) :
    (State.ofNotes settings notes).Defers w.flagged w.reference := by
  have hledger := ledger_ofNotes settings notes
  rw [State.misspellings_ofNotes] at hw
  obtain ⟨⟨p, q⟩, hpair, hfound⟩ := List.mem_filterMap.1 hw
  obtain ⟨hp, hq⟩ := State.mem_of_mem_pairs hpair
  obtain ⟨halike, rfl⟩ := State.misspelling?_eq_some_iff.1 hfound
  have hp : p ∈ (State.ofNotes settings notes).characters := List.mem_mergeSort.1 hp
  have hq : q ∈ (State.ofNotes settings notes).characters := List.mem_mergeSort.1 hq
  have hne : p.name ≠ q.name := fun heq => halike.nearMiss.apart (congrArg Text.fold heq)
  have hless := State.lessEstablished_spec (h.areApart hp hq hne)
  rcases (State.ofNotes settings notes).lessEstablished_cases p q with heq | heq
  · rw [heq] at hless ⊢
    exact ⟨p, q, hledger.find?_eq_some_iff.2 ⟨hp, rfl⟩, hledger.find?_eq_some_iff.2 ⟨hq, rfl⟩,
      hless⟩
  · rw [heq] at hless ⊢
    exact ⟨q, p, hledger.find?_eq_some_iff.2 ⟨hq, rfl⟩, hledger.find?_eq_some_iff.2 ⟨hp, rfl⟩,
      hless⟩

/-- Names that lead on from the flagged one to the reference do not come back. -/
theorem Distinct.nodup_of_isChain (h : Distinct notes) {names : List String}
    (hnames : names.IsChain fun a b => ⟨a, b⟩ ∈ (State.ofNotes settings notes).misspellings) :
    names.Nodup := by
  have hdefers : names.IsChain (State.ofNotes settings notes).Defers :=
    hnames.imp fun _ _ hmem => h.defers hmem
  refine (List.isChain_iff_pairwise.1 hdefers).imp ?_
  rintro name _ hself rfl
  exact State.Defers.irrefl name hself

/-- Two characters are taken for a misspelling once, if their names are alike, and else not at all.
The flagged one is less established, so that misspellings followed from the flagged name to the
reference never come to a name again. Two names of which one is a short form of the other are no
misspelling. -/
theorem misspellings_exact (settings : Settings) {notes : List FileNotes} (h : Distinct notes) :
    let s := State.ofNotes settings notes
    (∀ p ∈ s.characters, ∀ q ∈ s.characters, p.name ≠ q.name →
      s.misspellings.countP (fun w => decide (w.IsOf p.name q.name)) =
        if Alike settings p.name q.name then 1 else 0) ∧
    (∀ w ∈ s.misspellings, s.Defers w.flagged w.reference) ∧
    (∀ names : List String, names.IsChain (fun a b => ⟨a, b⟩ ∈ s.misspellings) → names.Nodup) ∧
    ∀ w ∈ s.misspellings, ∀ n ∈ s.nicknames, ¬w.IsOf n.full n.short := by
  intro s
  refine ⟨?_, fun w hw => h.defers hw, fun names => h.nodup_of_isChain, ?_⟩
  · intro p hp q hq hne
    split
    next halike =>
      obtain ⟨w, hw, hof⟩ := State.exists_isOf hp hq hne halike
      have hpos : 0 < s.misspellings.countP fun w => decide (w.IsOf p.name q.name) :=
        List.countP_pos_iff.2 ⟨w, hw, by simpa using hof⟩
      exact le_antisymm (State.countP_isOf_le_one settings notes _ _) hpos
    next hunlike =>
      refine List.countP_eq_zero.2 fun w hw hof => hunlike (State.alike_of_isOf hw ?_)
      simpa using hof
  · intro w hw n hn hof
    have halike := State.alike_of_isOf hw hof
    rw [State.nicknames_ofNotes] at hn
    obtain ⟨pair, -, hfound⟩ := List.mem_filterMap.1 hn
    have hshort := (State.eq_of_nickname? hfound).1
    have hunrelated := halike.unrelated
    simp [areRelated, nicknamePair?, hshort] at hunrelated

/-- Jonathon and Jonathen are mentioned once each and Jonathan twice, so that the first of them is
taken for the second, and both are taken for the third. -/
theorem jonathon_taken_once :
    let mention (name file : String) : Mention := { name, location := ⟨file, 1, 6, 5⟩ }
    let notes : List FileNotes :=
      [{ path := "a.md", mentions := [mention "Jonathan" "a.md"] },
        { path := "b.md", mentions := [mention "Jonathan" "b.md"] },
        { path := "c.md", mentions := [mention "Jonathen" "c.md"] },
        { path := "d.md", mentions := [mention "Jonathon" "d.md"] }]
    let s := State.ofNotes {} notes
    Distinct notes ∧ Alike {} "Jonathon" "Jonathen" ∧
      s.misspellings.countP (fun w => decide (w.IsOf "Jonathon" "Jonathen")) = 1 ∧
      ["Jonathon", "Jonathen", "Jonathan"].IsChain (fun a b => ⟨a, b⟩ ∈ s.misspellings) ∧
      ¬["Jonathon", "Jonathen", "Jonathon"].IsChain (fun a b => ⟨a, b⟩ ∈ s.misspellings) := by
  intro mention notes s
  have hdistinct : Distinct notes := ⟨by decide, by decide, by decide⟩
  have halike : Alike {} "Jonathon" "Jonathen" := by decide +kernel
  have hsorted : State.sortNotes notes = notes := State.sortNotes_of_pairwise (by decide +kernel)
  obtain ⟨t, hs, hnames, hchain⟩ : ∃ t, s = t ∧
      t.characters.map (·.name) = ["Jonathan", "Jonathen", "Jonathon"] ∧
      ["Jonathon", "Jonathen", "Jonathan"].IsChain (fun a b => ⟨a, b⟩ ∈ t.misspellings) := by
    have hs : s = State.ofNotes {} notes := rfl
    rw [State.ofNotes, hsorted] at hs
    dsimp only at hs
    rw [State.compareAll, List.mergeSort_of_pairwise (by decide +kernel)] at hs
    exact ⟨_, hs, by decide +kernel, by decide +kernel⟩
  rw [← hs] at hnames hchain
  obtain ⟨hcount, -, hnodup, -⟩ := misspellings_exact {} hdistinct
  have hmem (name : String) (h : name ∈ ["Jonathan", "Jonathen", "Jonathon"]) :
      ∃ p ∈ s.characters, p.name = name := by
    rwa [← hnames, List.mem_map] at h
  obtain ⟨p, hp, hpname⟩ := hmem "Jonathon" (by decide)
  obtain ⟨q, hq, hqname⟩ := hmem "Jonathen" (by decide)
  have hone := hcount p hp q hq (by rw [hpname, hqname]; decide)
  rw [hpname, hqname, if_pos halike] at hone
  exact ⟨hdistinct, halike, hone, hchain, fun hcircle => absurd (hnodup _ hcircle) (by decide)⟩

end Continuity.Character
