import Continuity.Proofs.Character.Distance
import Continuity.Proofs.Character.Mention

/-! # The comparison of names

Each two characters are compared once, after all mentions are known. Whether a name is a short form
of the other, or so much like it that one may be misspelled, does not depend on which of the two
comes first; only then it is decided which of them is the less established.
-/

namespace Continuity.Character

/-! ## Names that are much alike -/

/-- Two names differ, apart from case, but by no more than a limit. -/
structure NearMiss (limit : Int) (a b : String) : Prop where
  apart : Text.fold a ≠ Text.fold b
  near : (distance (Text.foldChars a.toList) (Text.foldChars b.toList) : Int) ≤ limit

/-- One of two names may be the other misspelled. -/
structure Alike (settings : Settings) (a b : String) : Prop where
  unrelated : areRelated a b = false
  minLength : settings.minNameLength ≤ State.letterCount a
  minLength' : settings.minNameLength ≤ State.letterCount b
  nearMiss : NearMiss settings.maxDistance a b

section Alike

variable {settings : Settings} {limit : Int} {a b c : String}

theorem foldChars_eq_iff :
    Text.foldChars a.toList = Text.foldChars b.toList ↔ Text.fold a = Text.fold b := by
  rw [Text.fold, Text.fold, String.ofList_inj]

instance (limit : Int) (a b : String) : Decidable (NearMiss limit a b) :=
  decidable_of_iff (Text.fold a ≠ Text.fold b ∧
      (distance (Text.foldChars a.toList) (Text.foldChars b.toList) : Int) ≤ limit)
    ⟨fun h => ⟨h.1, h.2⟩, fun h => ⟨h.apart, h.near⟩⟩

theorem NearMiss.symm (h : NearMiss limit a b) : NearMiss limit b a where
  apart := h.apart.symm
  near := distance_comm _ _ ▸ h.near

theorem NearMiss.congr (h : NearMiss limit a b) (hname : Text.fold c = Text.fold a) :
    NearMiss limit c b where
  apart := hname ▸ h.apart
  near := foldChars_eq_iff.2 hname ▸ h.near

theorem nearMiss_of_isWithin (h : isWithin limit a.toList b.toList = true) :
    NearMiss limit a b where
  apart := fun heq => (isWithin_iff.1 h).1 (foldChars_eq_iff.2 heq)
  near := (isWithin_iff.1 h).2

theorem isWithin_of_nearMiss (h : NearMiss limit a b) :
    isWithin limit a.toList b.toList = true :=
  isWithin_iff.2 ⟨fun heq => h.apart (foldChars_eq_iff.1 heq), h.near⟩

theorem areRelated_comm (a b : String) : areRelated a b = areRelated b a := by
  have hpair : (nicknamePair? a b).isSome = (nicknamePair? b a).isSome := by
    unfold nicknamePair?
    cases isShortOf b a <;> cases isShortOf a b <;> rfl
  have hshare : shareFullName a b = shareFullName b a := by
    simp only [shareFullName, Bool.and_comm]
  rw [areRelated, areRelated, hpair, hshare]

theorem Alike.symm (h : Alike settings a b) : Alike settings b a where
  unrelated := areRelated_comm a b ▸ h.unrelated
  minLength := h.minLength'
  minLength' := h.minLength
  nearMiss := h.nearMiss.symm

theorem alike_of_areSimilar (h : State.areSimilar settings a b = true) : Alike settings a b := by
  simp only [State.areSimilar, Bool.and_eq_true, Bool.not_eq_true', decide_eq_true_eq] at h
  exact ⟨h.1.1.1, h.1.1.2, h.1.2, nearMiss_of_isWithin h.2⟩

theorem areSimilar_iff : State.areSimilar settings a b = true ↔ Alike settings a b := by
  refine ⟨alike_of_areSimilar, fun h => ?_⟩
  simp only [State.areSimilar, Bool.and_eq_true, Bool.not_eq_true', decide_eq_true_eq]
  exact ⟨⟨⟨h.unrelated, h.minLength⟩, h.minLength'⟩, isWithin_of_nearMiss h.nearMiss⟩

instance (settings : Settings) (a b : String) : Decidable (Alike settings a b) :=
  decidable_of_iff _ areSimilar_iff

end Alike

/-! ## Each two members of a list -/

section Pairs

variable {α : Type} {a b : α} {as : List α}

/-- Each two members are paired, the one way round or the other. -/
theorem mem_pairs_of_ne (ha : a ∈ as) (hb : b ∈ as) (hne : a ≠ b) :
    (a, b) ∈ State.pairs as ∨ (b, a) ∈ State.pairs as := by
  induction as with
  | nil => cases ha
  | cons first rest ih =>
      rcases List.mem_cons.1 ha with rfl | ha'
      · have hb' : b ∈ rest := (List.mem_cons.1 hb).resolve_left fun heq => hne heq.symm
        exact .inl (List.mem_append_left _ (List.mem_map_of_mem hb'))
      · rcases List.mem_cons.1 hb with rfl | hb'
        · exact .inr (List.mem_append_left _ (List.mem_map_of_mem ha'))
        · exact (ih ha' hb').imp (List.mem_append_right _) (List.mem_append_right _)

/-- No two members are paired twice, neither way round. -/
theorem pairwise_pairs (hnodup : as.Nodup) :
    (State.pairs as).Pairwise fun e e' => e ≠ e' ∧ e ≠ e'.swap := by
  induction as with
  | nil => exact .nil
  | cons first rest ih =>
      obtain ⟨hfirst, hrest⟩ := List.nodup_cons.1 hnodup
      -- The first member is paired with each later one, and it is in none of their pairs.
      refine List.pairwise_append.2 ⟨?_, ih hrest, ?_⟩
      · rw [List.pairwise_map]
        refine hrest.imp_of_mem fun {b c} hb hc hne => ⟨?_, ?_⟩
        · exact fun heq => hne (Prod.mk.inj heq).2
        · exact fun heq => hfirst ((Prod.mk.inj heq).1 ▸ hc)
      · rintro e he ⟨c, d⟩ hpair
        obtain ⟨b, hb, rfl⟩ := List.mem_map.1 he
        obtain ⟨hc, hd⟩ := State.mem_of_mem_pairs hpair
        refine ⟨?_, ?_⟩
        · exact fun heq => hfirst ((Prod.mk.inj heq).1 ▸ hc)
        · exact fun heq => hfirst ((Prod.mk.inj heq).1 ▸ hd)

end Pairs

/-! ## What comes of the comparisons -/

namespace State

/-- The misspelling that two characters' names may be. -/
def misspelling? (settings : Settings) (s : State) (pair : Profile × Profile) :
    Option Misspelling :=
  if nicknamePair? pair.1.name pair.2.name = none ∧ areSimilar settings pair.1.name pair.2.name then
    let (flagged, reference) := s.lessEstablished pair.1 pair.2
    some ⟨flagged.name, reference.name⟩
  else none

/-- The nickname that one of two characters' names may be. -/
def nickname? (pair : Profile × Profile) : Option Nickname :=
  (nicknamePair? pair.1.name pair.2.name).map fun (full, short) => ⟨full, short⟩

/-- The characters in the order of their names. -/
def byName (s : State) : List Profile :=
  s.characters.mergeSort fun a b => decide (a.name ≤ b.name)

section Comparison

variable {settings : Settings} {s s' : State} {p q : Profile} {pair : Profile × Profile}

theorem lessEstablished_congr (h : s.files = s'.files) (p q : Profile) :
    s.lessEstablished p q = s'.lessEstablished p q := by
  unfold lessEstablished precedes fileIndex
  rw [h]

theorem compare_eq (settings : Settings) (s : State) (pair : Profile × Profile) :
    s.compare settings pair =
      { s with
        misspellings := s.misspellings ++ (s.misspelling? settings pair).toList
        nicknames := s.nicknames ++ (nickname? pair).toList } := by
  obtain ⟨p, q⟩ := pair
  unfold compare misspelling? nickname?
  dsimp only
  cases hpair : nicknamePair? p.name q.name with
  | some found => simp
  | none => by_cases hsimilar : areSimilar settings p.name q.name = true <;> simp [hsimilar]

theorem foldl_compare (settings : Settings) (s : State) (compared : List (Profile × Profile)) :
    compared.foldl (compare settings) s =
      { s with
        misspellings := s.misspellings ++ compared.filterMap (s.misspelling? settings)
        nicknames := s.nicknames ++ compared.filterMap nickname? } := by
  induction compared generalizing s with
  | nil => simp
  | cons pair rest ih =>
      have hnext (t : State) (h : t.files = s.files) :
          t.misspelling? settings = s.misspelling? settings := by
        funext pair
        simp only [misspelling?, lessEstablished_congr h]
      rw [List.foldl_cons, ih, hnext _ (by rw [compare_eq]), compare_eq]
      simp only [List.append_assoc, List.filterMap_cons]
      cases s.misspelling? settings pair <;> cases nickname? pair <;> rfl

theorem compareAll_eq (settings : Settings) (s : State) :
    s.compareAll settings =
      { s with
        misspellings := s.misspellings ++ (pairs s.byName).filterMap (s.misspelling? settings)
        nicknames := s.nicknames ++ (pairs s.byName).filterMap nickname? } :=
  foldl_compare settings s _

theorem eq_of_misspelling? {found : Misspelling} (h : s.misspelling? settings pair = some found) :
    Alike settings found.flagged found.reference ∧
      (found = ⟨pair.1.name, pair.2.name⟩ ∨ found = ⟨pair.2.name, pair.1.name⟩) := by
  unfold misspelling? at h
  split at h
  next hsimilar =>
    have halike := alike_of_areSimilar hsimilar.2
    rcases s.lessEstablished_cases pair.1 pair.2 with heq | heq
    · rw [heq] at h
      cases h
      exact ⟨halike, .inl rfl⟩
    · rw [heq] at h
      cases h
      exact ⟨halike.symm, .inr rfl⟩
  next => cases h

theorem eq_of_nickname? {found : Nickname} (h : nickname? pair = some found) :
    isShortOf found.short found.full = true ∧
      (found = ⟨pair.1.name, pair.2.name⟩ ∨ found = ⟨pair.2.name, pair.1.name⟩) := by
  obtain ⟨⟨full, short⟩, hpair, rfl⟩ := Option.map_eq_some_iff.1 h
  unfold nicknamePair? at hpair
  split at hpair
  next hshort =>
    cases hpair
    exact ⟨hshort, .inl rfl⟩
  next =>
    split at hpair
    next hshort =>
      cases hpair
      exact ⟨hshort, .inr rfl⟩
    next => cases hpair

end Comparison

/-! ## The comparisons of all notes -/

/-- What has come of comparisons. -/
def verdicts (s : State) : List Misspelling × List Nickname := (s.misspellings, s.nicknames)

section Notes

theorem verdicts_of_core {s s' : State} (h : s'.core = s.core) : s'.verdicts = s.verdicts := by
  have hcore (s : State) : s.core.verdicts = s.verdicts := rfl
  rw [← hcore s', h, hcore]

theorem verdicts_addFile (ordinary : List String) (s : State) (f : FileNotes) :
    (s.addFile ordinary f).verdicts = s.verdicts := by
  rw [addFile, verdicts_of_core (Lists.foldl_keeps core_addPronounChange _ _),
    Lists.foldl_keeps (f := verdicts)]
  intro s m
  rw [addMention_eq]
  rfl

/-- Names are compared once, when all else is done. -/
theorem exists_uncompared (settings : Settings) (notes : List FileNotes) :
    ∃ s : State, ofNotes settings notes = s.compareAll settings ∧ s.verdicts = ([], []) := by
  refine ⟨_, rfl, ?_⟩
  rw [verdicts_of_core (core_addAliases _ _),
    verdicts_of_core (Lists.foldl_keeps core_addDeclared _ _),
    verdicts_of_core (core_addConfigured _ _), Lists.foldl_keeps (verdicts_addFile _)]
  rfl

/-- The misspellings and the nicknames are those of each two characters. -/
theorem verdicts_ofNotes (settings : Settings) (notes : List FileNotes) :
    (ofNotes settings notes).verdicts =
      ((pairs (ofNotes settings notes).byName).filterMap
        ((ofNotes settings notes).misspelling? settings),
        (pairs (ofNotes settings notes).byName).filterMap nickname?) := by
  obtain ⟨s, heq, hnone⟩ := exists_uncompared settings notes
  obtain ⟨hmisspellings, hnicknames⟩ := Prod.mk.inj hnone
  have hsame : (s.compareAll settings).misspelling? settings = s.misspelling? settings := by
    funext pair
    have hfiles : (s.compareAll settings).files = s.files := by
      rw [compareAll_eq]
    rw [misspelling?, misspelling?, lessEstablished_congr hfiles]
  have hbyName : (s.compareAll settings).byName = s.byName := by
    rw [compareAll_eq]
    rfl
  rw [heq, hsame, hbyName, compareAll_eq, verdicts, hmisspellings, hnicknames]
  rfl

theorem misspellings_ofNotes (settings : Settings) (notes : List FileNotes) :
    (ofNotes settings notes).misspellings = (pairs (ofNotes settings notes).byName).filterMap
      ((ofNotes settings notes).misspelling? settings) :=
  congrArg Prod.fst (verdicts_ofNotes settings notes)

theorem nicknames_ofNotes (settings : Settings) (notes : List FileNotes) :
    (ofNotes settings notes).nicknames =
      (pairs (ofNotes settings notes).byName).filterMap nickname? :=
  congrArg Prod.snd (verdicts_ofNotes settings notes)

theorem exists_of_mem_misspellings {settings : Settings} {notes : List FileNotes}
    {found : Misspelling} (h : found ∈ (ofNotes settings notes).misspellings) :
    Alike settings found.flagged found.reference ∧
      (∃ p ∈ (ofNotes settings notes).characters, p.name = found.flagged) ∧
      ∃ p ∈ (ofNotes settings notes).characters, p.name = found.reference := by
  refine ⟨?_, (ledger_ofNotes settings notes).compared found h⟩
  rw [misspellings_ofNotes] at h
  obtain ⟨pair, -, hfound⟩ := List.mem_filterMap.1 h
  exact (eq_of_misspelling? hfound).1

/-- What comes of comparisons of characters with names of their own tells the compared ones apart,
whichever of them is which. -/
theorem pairwise_filterMap_pairs {β : Type} {verdict : Profile × Profile → Option β}
    (names : β → String × String)
    (h : ∀ pair found, verdict pair = some found →
      names found = (pair.1.name, pair.2.name) ∨ names found = (pair.2.name, pair.1.name))
    {ps : List Profile} (hnodup : (ps.map (·.name)).Nodup) :
    ((pairs ps).filterMap verdict).Pairwise fun a b =>
      names a ≠ names b ∧ names a ≠ (names b).swap := by
  rw [List.pairwise_filterMap]
  refine (pairwise_pairs hnodup.of_map).imp_of_mem ?_
  rintro ⟨p, q⟩ ⟨p', q'⟩ hpair hpair' ⟨hne, hswap⟩ a ha b hb
  obtain ⟨hp, hq⟩ := mem_of_mem_pairs hpair
  obtain ⟨hp', hq'⟩ := mem_of_mem_pairs hpair'
  have hinj {p q : Profile} (hp : p ∈ ps) (hq : q ∈ ps) (hname : p.name = q.name) : p = q :=
    List.inj_on_of_nodup_map hnodup hp hq hname
  -- The names that are found belong to the compared characters, in the one order or the other.
  have hsame : ¬(p.name = p'.name ∧ q.name = q'.name) := fun heq =>
    hne (Prod.ext (hinj hp hp' heq.1) (hinj hq hq' heq.2))
  have hcross : ¬(p.name = q'.name ∧ q.name = p'.name) := fun heq =>
    hswap (Prod.ext (hinj hp hq' heq.1) (hinj hq hp' heq.2))
  rcases h _ _ ha with hnames | hnames <;> rcases h _ _ hb with hnames' | hnames' <;>
    rw [hnames, hnames'] <;> simp only [ne_eq, Prod.swap_prod_mk, Prod.mk.injEq] <;> tauto

theorem nodup_names_byName (settings : Settings) (notes : List FileNotes) :
    ((ofNotes settings notes).byName.map (·.name)).Nodup :=
  ((List.mergeSort_perm _ _).map _).nodup_iff.2 (ledger_ofNotes settings notes).nodup

/-- Misspellings have names of their own, whichever of them is flagged. -/
theorem pairwise_misspellings (settings : Settings) (notes : List FileNotes) :
    (ofNotes settings notes).misspellings.Pairwise fun w w' =>
      (w.flagged, w.reference) ≠ (w'.flagged, w'.reference) ∧
        (w.flagged, w.reference) ≠ (w'.reference, w'.flagged) := by
  rw [misspellings_ofNotes]
  refine pairwise_filterMap_pairs (fun w : Misspelling => (w.flagged, w.reference)) ?_
    (nodup_names_byName settings notes)
  intro pair found hfound
  rcases (eq_of_misspelling? hfound).2 with rfl | rfl
  · exact .inl rfl
  · exact .inr rfl

theorem nodup_misspellings (settings : Settings) (notes : List FileNotes) :
    (ofNotes settings notes).misspellings.Nodup := by
  refine (pairwise_misspellings settings notes).imp ?_
  rintro w w' ⟨hne, -⟩ rfl
  exact hne rfl

theorem nodup_nicknames (settings : Settings) (notes : List FileNotes) :
    (ofNotes settings notes).nicknames.Nodup := by
  rw [nicknames_ofNotes]
  refine (pairwise_filterMap_pairs (fun n => (n.full, n.short)) ?_
    (nodup_names_byName settings notes)).imp ?_
  · intro pair found hfound
    rcases (eq_of_nickname? hfound).2 with rfl | rfl
    · exact .inl rfl
    · exact .inr rfl
  · rintro n n' ⟨hne, -⟩ rfl
    exact hne rfl

end Notes

end State

end Continuity.Character
