import Mathlib.Data.List.Nodup
import Continuity.Files.Discovery
import Continuity.Proofs.Data.Lists
import Continuity.Proofs.Path

/-! # The order of paths

Paths are ordered by the names that lead to them, so what two paths have in common at the front does
not matter. Sorting puts the paths of a list into their order and keeps each of them once.
-/

namespace Continuity

namespace Path

variable {p q r : Path}

theorem le_iff : p.le q = true ↔ ¬List.Lex (· < ·) q.sortKey p.sortKey := by
  rw [le, Bool.not_eq_true', List.lex_eq_false_iff_not_lex]
  simp only [decide_eq_true_eq]

theorem le_trans (hpq : p.le q = true) (hqr : q.le r = true) : p.le r = true := by
  rw [le_iff] at hpq hqr ⊢
  exact List.le_trans hpq hqr

theorem le_total (p q : Path) : (p.le q || q.le p) = true := by
  rw [Bool.or_eq_true, le_iff, le_iff]
  exact List.le_total p.sortKey q.sortKey

theorem rootText_ne_of_isName {name : String} (h : IsName name) {root : PathRoot}
    (hroot : root ≠ .relative) : rootText root ≠ name := by
  rintro rfl
  obtain ⟨-, -, hstroke⟩ := h
  cases root with
  | relative => exact hroot rfl
  | absolute => exact hstroke (by decide)
  | double => exact hstroke (by decide)

/-- A root is told from a name, so the names by which paths are ordered tell them apart. -/
theorem sortKey_inj (hp : p.IsPlain) (hq : q.IsPlain) : p.sortKey = q.sortKey ↔ p = q := by
  refine ⟨fun heq => ?_, fun heq => heq ▸ rfl⟩
  obtain ⟨root, names⟩ := p
  obtain ⟨root', names'⟩ := q
  -- Only a path with a root has its root for its first name.
  by_cases hroot : root = .relative
  · by_cases hroot' : root' = .relative
    · subst hroot hroot'
      exact congrArg (Path.mk .relative) heq
    · subst hroot
      obtain rfl : names = rootText root' :: names' := by
        simpa [sortKey, isAbsolute, hroot'] using heq
      exact absurd rfl (rootText_ne_of_isName (hp _ List.mem_cons_self) hroot')
  · by_cases hroot' : root' = .relative
    · subst hroot'
      obtain rfl : rootText root :: names = names' := by
        simpa [sortKey, isAbsolute, hroot] using heq
      exact absurd rfl (rootText_ne_of_isName (hq _ List.mem_cons_self) hroot)
    · obtain ⟨htext, rfl⟩ : rootText root = rootText root' ∧ names = names' := by
        simpa [sortKey, isAbsolute, hroot, hroot'] using heq
      cases root <;> cases root' <;> first | rfl | exact absurd htext (by decide)

theorem le_antisymm (hp : p.IsPlain) (hq : q.IsPlain) (hpq : p.le q = true)
    (hqp : q.le p = true) : p = q := by
  rw [le_iff] at hpq hqp
  exact (sortKey_inj hp hq).1 (List.le_antisymm hpq hqp)

theorem lex_append_iff {front names names' : List String} :
    List.Lex (· < ·) (front ++ names) (front ++ names') ↔ List.Lex (· < ·) names names' := by
  induction front with
  | nil => rfl
  | cons first rest ih =>
      constructor
      · intro h
        cases h with
        | cons h => exact ih.1 h
        | rel h => exact absurd h (lt_irrefl first)
      · exact fun h => .cons (ih.2 h)

/-! ## Paths below a directory -/

theorem dropFront?_eq_some_iff {front names rest : List String} :
    dropFront? front names = some rest ↔ names = front ++ rest := by
  induction front generalizing names with
  | nil => simp [dropFront?, eq_comm]
  | cons first front ih =>
      cases names with
      | nil => simp [dropFront?]
      | cons name names =>
          rw [dropFront?, List.cons_append, List.cons.injEq]
          by_cases h : first = name
          · rw [if_pos (by simpa using h), ih]
            simp [h]
          · rw [if_neg (by simpa using h)]
            simp [Ne.symm h]

variable {base way way' : Path}

theorem relativeTo?_eq_some_iff :
    p.relativeTo? base = some way ↔
      way.root = .relative ∧ p = ⟨base.root, base.parts ++ way.parts⟩ := by
  obtain ⟨root, names⟩ := p
  obtain ⟨wayRoot, wayNames⟩ := way
  rw [relativeTo?]
  by_cases hroot : root = base.root
  · subst hroot
    rw [if_pos (by simp), Option.map_eq_some_iff]
    simp only [dropFront?_eq_some_iff, mk.injEq, true_and]
    constructor
    · rintro ⟨rest, rfl, rfl, rfl⟩
      exact ⟨rfl, rfl⟩
    · rintro ⟨rfl, rfl⟩
      exact ⟨wayNames, rfl, rfl, rfl⟩
  · rw [if_neg (by simpa using hroot)]
    simp [hroot]

/-- The way to a path leads over any directory on it. -/
theorem relativeTo?_trans {root : Path} (hbase : base.relativeTo? root = some way)
    (hp : p.relativeTo? base = some way') :
    p.relativeTo? root = some ⟨.relative, way.parts ++ way'.parts⟩ := by
  obtain ⟨-, rfl⟩ := relativeTo?_eq_some_iff.1 hbase
  obtain ⟨-, rfl⟩ := relativeTo?_eq_some_iff.1 hp
  rw [relativeTo?_eq_some_iff]
  simp

theorem sortKey_append (base : Path) (names : List String) :
    sortKey ⟨base.root, base.parts ++ names⟩ = base.sortKey ++ names := by
  unfold sortKey isAbsolute
  split <;> rfl

/-- Paths below a directory are in the order of the ways that lead there from it. -/
theorem le_of_relativeTo (hp : p.relativeTo? base = some way)
    (hq : q.relativeTo? base = some way') : p.le q = way.le way' := by
  obtain ⟨hway, rfl⟩ := relativeTo?_eq_some_iff.1 hp
  obtain ⟨hway', rfl⟩ := relativeTo?_eq_some_iff.1 hq
  have hkey {way : Path} (h : way.root = .relative) : way.sortKey = way.parts := by
    simp [sortKey, isAbsolute, h]
  rw [Bool.eq_iff_iff, le_iff, le_iff, not_iff_not, sortKey_append, sortKey_append, lex_append_iff,
    hkey hway, hkey hway']

/-! ## Things that have a path -/

section Things

variable {α : Type} {path : α → String} {as bs : List α}

theorem pairwise_mergeSort (path : α → String) (as : List α) :
    ((as.mergeSort fun a b => (ofString (path a)).le (ofString (path b))).map
      fun a => ofString (path a)).Pairwise fun p q => p.le q = true := by
  rw [List.pairwise_map]
  apply List.pairwise_mergeSort
  · exact fun _ _ _ => le_trans
  · exact fun _ _ => le_total _ _

theorem mergeSort_congr (h : as.Perm bs) (hpaths : (as.map fun a => ofString (path a)).Nodup) :
    (as.mergeSort fun a b => (ofString (path a)).le (ofString (path b))) =
      bs.mergeSort fun a b => (ofString (path a)).le (ofString (path b)) := by
  refine Sorting.mergeSort_congr (fun _ _ _ => le_trans) (fun _ _ => le_total _ _) h ?_
  intro a ha b hb hab hba
  have hpath := le_antisymm (isPlain_ofString _) (isPlain_ofString _) hab hba
  exact List.inj_on_of_nodup_map hpaths ha hb hpath

end Things

/-- A path comes before another one. -/
def Precedes (p q : Path) : Prop := p.le q = true ∧ p ≠ q

instance (p q : Path) : Decidable (Precedes p q) :=
  inferInstanceAs (Decidable (p.le q = true ∧ p ≠ q))

/-- Paths can be listed in their order in one way only. -/
theorem eq_of_precedes {ps qs : List Path} (hplain : ∀ p ∈ ps, p.IsPlain)
    (hps : ps.Pairwise Precedes) (hqs : qs.Pairwise Precedes) (hmem : ∀ p, p ∈ ps ↔ p ∈ qs) :
    ps = qs := by
  have hperm : ps.Perm qs :=
    (List.perm_ext_iff_of_nodup (hps.imp And.right) (hqs.imp And.right)).2 hmem
  refine List.Perm.eq_of_pairwise ?_ hps hqs hperm
  intro p q hp hq hpq hqp
  exact le_antisymm (hplain p hp) (hplain q ((hmem q).2 hq)) hpq.1 hqp.1

end Path

namespace Files

@[simp] theorem mem_sortPaths {p : Path} {paths : List Path} :
    p ∈ sortPaths paths ↔ p ∈ paths := by
  rw [sortPaths, List.mem_mergeSort, List.mem_eraseDups]

theorem eraseDups_of_nodup {paths : List Path} (h : paths.Nodup) : paths.eraseDups = paths := by
  induction paths with
  | nil => rfl
  | cons p rest ih =>
      obtain ⟨hp, hrest⟩ := List.nodup_cons.1 h
      have hkept : rest.filter (fun q => !q == p) = rest := by
        refine List.filter_eq_self.2 fun q hq => ?_
        have hne : q ≠ p := by
          rintro rfl
          exact hp hq
        simpa using hne
      rw [List.eraseDups_cons, hkept, ih hrest]

/-- Sorted paths are in their order, and none is there twice. -/
theorem pairwise_sortPaths (paths : List Path) : (sortPaths paths).Pairwise Path.Precedes := by
  have hordered : (sortPaths paths).Pairwise fun p q => p.le q = true := by
    apply List.pairwise_mergeSort
    · exact fun _ _ _ => Path.le_trans
    · exact Path.le_total
  have hnodup : (sortPaths paths).Nodup :=
    (List.mergeSort_perm _ _).nodup_iff.2 (Lists.nodup_eraseDups paths)
  exact hordered.and hnodup

theorem sortPaths_of_pairwise {paths : List Path} (h : paths.Pairwise Path.Precedes) :
    sortPaths paths = paths := by
  have hnodup : paths.Nodup := h.imp fun hprecedes => hprecedes.2
  rw [sortPaths, eraseDups_of_nodup hnodup]
  exact List.mergeSort_of_pairwise (h.imp fun hprecedes => hprecedes.1)

end Files

end Continuity

/-! ## The order of files in a project

A file below the root of a project is called there by the way that leads to it from the root, and
any other file by its whole path. Both kinds keep their order among themselves. But a whole path is
ordered by the stroke in front of it against the first names of the ways, wherever it lies.
-/

namespace Continuity.Path

variable {root p q way : Path}

/-- The path that the name of a file in a project is. -/
def place (root p : Path) : Path := (p.relativeTo? root).getD p

theorem IsPlain.of_relativeTo (hp : p.IsPlain) (h : p.relativeTo? root = some way) :
    way.IsPlain := by
  obtain ⟨-, rfl⟩ := relativeTo?_eq_some_iff.1 h
  exact fun name hname => hp name (List.mem_append_right _ hname)

theorem isPlain_place (hp : p.IsPlain) : (place root p).IsPlain := by
  unfold place
  cases h : p.relativeTo? root with
  | none => exact hp
  | some way => exact hp.of_relativeTo h

theorem ofString_within (hp : p.IsPlain) : ofString (p.within root) = place root p :=
  ofString_toString (isPlain_place hp)

theorem place_of_inside (h : p.relativeTo? root = some way) : place root p = way := by
  simp [place, h]

theorem place_of_outside (h : p.relativeTo? root = none) : place root p = p := by
  simp [place, h]

theorem place_inj (hp : p.isAbsolute = true) (hq : q.isAbsolute = true) :
    place root p = place root q ↔ p = q := by
  refine ⟨fun heq => ?_, fun heq => heq ▸ rfl⟩
  have hrelative {p q way : Path} (hp : p.relativeTo? root = some way) (hq : q.isAbsolute = true) :
      way ≠ q := by
    rintro rfl
    simp [isAbsolute, (relativeTo?_eq_some_iff.1 hp).1] at hq
  cases hway : p.relativeTo? root with
  | none =>
      cases hway' : q.relativeTo? root with
      | none => rwa [place_of_outside hway, place_of_outside hway'] at heq
      | some way' =>
          rw [place_of_outside hway, place_of_inside hway'] at heq
          exact absurd heq.symm (hrelative hway' hp)
  | some way =>
      cases hway' : q.relativeTo? root with
      | none =>
          rw [place_of_inside hway, place_of_outside hway'] at heq
          exact absurd heq (hrelative hway hq)
      | some way' =>
          rw [place_of_inside hway, place_of_inside hway'] at heq
          subst heq
          obtain ⟨-, rfl⟩ := relativeTo?_eq_some_iff.1 hway
          exact (relativeTo?_eq_some_iff.1 hway').2.symm

theorem place_le_of_same (h : (p.relativeTo? root).isSome = (q.relativeTo? root).isSome) :
    (place root p).le (place root q) = p.le q := by
  cases hway : p.relativeTo? root with
  | none =>
      cases hway' : q.relativeTo? root with
      | none => rw [place_of_outside hway, place_of_outside hway']
      | some way' => simp [hway, hway'] at h
  | some way =>
      cases hway' : q.relativeTo? root with
      | none => simp [hway, hway'] at h
      | some way' => rw [place_of_inside hway, place_of_inside hway', le_of_relativeTo hway hway']

/-- An absolute path comes before a way if the first name of the way comes after its root. -/
theorem le_way_iff (hp : p.isAbsolute = true) (hway : way.root = .relative) (hplain : way.IsPlain) :
    p.le way = true ↔ ∃ name ∈ way.parts.head?, rootText p.root < name := by
  have hkey : way.sortKey = way.parts := by simp [sortKey, isAbsolute, hway]
  rw [le_iff, hkey, sortKey, if_pos hp]
  cases hparts : way.parts with
  | nil => simp
  | cons name rest =>
      have hname : rootText p.root ≠ name :=
        rootText_ne_of_isName (hplain name (hparts ▸ List.mem_cons_self))
          (by simpa [isAbsolute] using hp)
      constructor
      · intro h
        refine ⟨name, rfl, ?_⟩
        exact lt_of_le_of_ne (not_lt.1 fun hlt => h (.rel hlt)) hname
      · rintro ⟨_, ⟨⟩, hlt⟩ h
        cases h with
        | rel h => exact lt_asymm hlt h
        | cons h => exact hname rfl

/-- The files outside a project come before those inside, or after them, as their names there do. -/
def InStep (root : Path) (files : List Path) : Prop :=
  ∀ p ∈ files, p.relativeTo? root = none → ∀ q ∈ files, ∀ way ∈ q.relativeTo? root,
    (p.le q = true ↔ ∃ name ∈ way.parts.head?, rootText p.root < name)

instance (root : Path) (files : List Path) : Decidable (InStep root files) :=
  inferInstanceAs (Decidable (∀ p ∈ files, _ → ∀ q ∈ files, ∀ way ∈ q.relativeTo? root,
    (p.le q = true ↔ ∃ name ∈ way.parts.head?, rootText p.root < name)))

theorem inStep_of_inside {files : List Path}
    (h : ∀ p ∈ files, (p.relativeTo? root).isSome = true) : InStep root files := by
  intro p hp hnone
  have hinside := h p hp
  rw [hnone] at hinside
  cases hinside

section Listing

variable {files : List Path}

/-- Paths that are in their order before and after they are changed keep the order two by two. -/
theorem pairwise_map_iff {f : Path → Path} (hplain : ∀ p ∈ files, p.IsPlain)
    (hsorted : files.Pairwise Precedes) :
    (files.map f).Pairwise (fun p q => p.le q = true) ↔
      ∀ p ∈ files, ∀ q ∈ files, p.le q = true → (f p).le (f q) = true := by
  rw [List.pairwise_map]
  constructor
  · intro h p hp q hq hle
    obtain ⟨i, hi, rfl⟩ := List.getElem_of_mem hp
    obtain ⟨j, hj, rfl⟩ := List.getElem_of_mem hq
    rw [List.pairwise_iff_getElem] at h hsorted
    -- Of two different paths, only the one that stands first can come before the other.
    rcases lt_trichotomy i j with hij | rfl | hji
    · exact h i j hi hj hij
    · simpa using le_total (f files[i]) (f files[i])
    · obtain ⟨hback, hne⟩ := hsorted j i hj hi hji
      exact absurd (le_antisymm (hplain _ hq) (hplain _ hp) hback hle) hne
  · intro h
    refine hsorted.imp_of_mem ?_
    intro p q hp hq hpq
    exact h p hp q hq hpq.1

/-- Files keep their order in the project exactly where they are in step. -/
theorem pairwise_place_iff (hfiles : ∀ p ∈ files, p.isAbsolute = true ∧ p.IsPlain)
    (hsorted : files.Pairwise Precedes) :
    (files.map (place root)).Pairwise (fun p q => p.le q = true) ↔ InStep root files := by
  rw [pairwise_map_iff (fun p hp => (hfiles p hp).2) hsorted]
  -- A file outside comes before one inside exactly where its path comes before the way.
  have hmixed {p q way : Path} (hp : p ∈ files) (hnone : p.relativeTo? root = none)
      (hq : q ∈ files) (hway : q.relativeTo? root = some way) :
      (place root p).le (place root q) = true ↔
        ∃ name ∈ way.parts.head?, rootText p.root < name := by
    rw [place_of_outside hnone, place_of_inside hway]
    exact le_way_iff (hfiles p hp).1 (relativeTo?_eq_some_iff.1 hway).1
      ((hfiles q hq).2.of_relativeTo hway)
  have happart {p q way : Path} (hnone : p.relativeTo? root = none)
      (hway : q.relativeTo? root = some way) : p ≠ q := by
    rintro rfl
    rw [hnone] at hway
    cases hway
  constructor
  · intro h p hp hnone q hq way hway
    rw [← hmixed hp hnone hq hway]
    refine ⟨h p hp q hq, fun hplace => ?_⟩
    by_contra hle
    have hback := h q hq p hp (by simpa [hle] using le_total p q)
    have heq := le_antisymm (isPlain_place (hfiles p hp).2) (isPlain_place (hfiles q hq).2)
      hplace hback
    exact happart hnone hway ((place_inj (hfiles p hp).1 (hfiles q hq).1).1 heq)
  · intro h p hp q hq hle
    cases hp' : p.relativeTo? root with
    | none =>
        cases hq' : q.relativeTo? root with
        | none => rwa [place_le_of_same (by rw [hp', hq'])]
        | some way => exact (hmixed hp hp' hq hq').2 ((h p hp hp' q hq way hq').1 hle)
    | some way =>
        cases hq' : q.relativeTo? root with
        | none =>
            by_contra hplace
            have hback : (place root q).le (place root p) = true := by
              simpa [hplace] using le_total (place root p) (place root q)
            have hle' := (h q hq hq' p hp way hp').2 ((hmixed hq hq' hp hp').1 hback)
            exact happart hq' hp' (le_antisymm (hfiles q hq).2 (hfiles p hp).2 hle' hle)
        | some way' => rwa [place_le_of_same (by rw [hp', hq']; rfl)]

variable {names names' : List String}

theorem map_ofString_within (hfiles : ∀ p ∈ files, p.isAbsolute = true ∧ p.IsPlain) :
    (files.map (·.within root)).map ofString = files.map (place root) := by
  rw [List.map_map]
  exact List.map_congr_left fun p hp => ofString_within (hfiles p hp).2

theorem eq_of_ofString_eq (hfiles : ∀ p ∈ files, p.isAbsolute = true ∧ p.IsPlain) {a b : String}
    (ha : a ∈ files.map (·.within root)) (hb : b ∈ files.map (·.within root))
    (heq : ofString a = ofString b) : a = b := by
  obtain ⟨p, hp, rfl⟩ := List.mem_map.1 ha
  obtain ⟨q, hq, rfl⟩ := List.mem_map.1 hb
  rw [ofString_within (hfiles p hp).2, ofString_within (hfiles q hq).2] at heq
  exact congrArg toString heq

/-- Names of files can be put into their order in one way only. -/
theorem eq_of_ordered (hfiles : ∀ p ∈ files, p.isAbsolute = true ∧ p.IsPlain)
    (hsub : names ⊆ files.map (·.within root)) (hperm : names.Perm names')
    (hordered : (names.map ofString).Pairwise fun p q => p.le q = true)
    (hordered' : (names'.map ofString).Pairwise fun p q => p.le q = true) : names = names' := by
  rw [List.pairwise_map] at hordered hordered'
  refine List.Perm.eq_of_pairwise ?_ hordered hordered' hperm
  intro a b ha hb hab hba
  exact eq_of_ofString_eq hfiles (hsub ha) (hsub (hperm.mem_iff.2 hb))
    (le_antisymm (isPlain_ofString a) (isPlain_ofString b) hab hba)

/-- The names of files, put into their order, are in the order of the files exactly where the files
are in step. -/
theorem names_eq_iff (hfiles : ∀ p ∈ files, p.isAbsolute = true ∧ p.IsPlain)
    (hsorted : files.Pairwise Precedes) (hnames : names.Perm (files.map (·.within root)))
    (hordered : (names.map ofString).Pairwise fun p q => p.le q = true) :
    names = files.map (·.within root) ↔ InStep root files := by
  rw [← pairwise_place_iff hfiles hsorted, ← map_ofString_within hfiles]
  constructor
  · rintro rfl
    exact hordered
  · exact eq_of_ordered hfiles hnames.subset hnames hordered

theorem nodup_names (hfiles : ∀ p ∈ files, p.isAbsolute = true ∧ p.IsPlain)
    (hsorted : files.Pairwise Precedes) : (files.map (·.within root)).Nodup := by
  rw [List.Nodup, List.pairwise_map]
  refine hsorted.imp_of_mem ?_
  intro p q hp hq hpq heq
  have hplace := congrArg ofString heq
  rw [ofString_within (hfiles p hp).2, ofString_within (hfiles q hq).2] at hplace
  exact hpq.2 ((place_inj (hfiles p hp).1 (hfiles q hq).1).1 hplace)

/-- The name of a file tells whether the file lies inside the project. -/
theorem isSome_relativeTo (hp : p.isAbsolute = true) (hplain : p.IsPlain) :
    (p.relativeTo? root).isSome = !(ofString (p.within root)).isAbsolute := by
  rw [ofString_within hplain]
  cases h : p.relativeTo? root with
  | none =>
      rw [place_of_outside h, hp]
      rfl
  | some way =>
      rw [place_of_inside h, isAbsolute, (relativeTo?_eq_some_iff.1 h).1]
      rfl

/-- The files of one kind have names in their order. -/
theorem sublist_names (hfiles : ∀ p ∈ files, p.isAbsolute = true ∧ p.IsPlain)
    (hsorted : files.Pairwise Precedes) (hnames : names.Perm (files.map (·.within root)))
    (hordered : (names.map ofString).Pairwise fun p q => p.le q = true) (inside : Bool) :
    ((files.filter fun p => (p.relativeTo? root).isSome == inside).map (·.within root)).Sublist
      names := by
  let ofKind (name : String) : Bool := (!(ofString name).isAbsolute) == inside
  have hfilter : (files.map (·.within root)).filter ofKind =
      (files.filter fun p => (p.relativeTo? root).isSome == inside).map (·.within root) := by
    rw [List.filter_map]
    refine congrArg _ (List.filter_congr fun p hp => ?_)
    rw [Function.comp_apply, isSome_relativeTo (hfiles p hp).1 (hfiles p hp).2]
  have hkind : (((files.map (·.within root)).filter ofKind).map ofString).Pairwise
      fun p q => p.le q = true := by
    rw [hfilter, map_ofString_within fun p hp => hfiles p (List.mem_filter.1 hp).1,
      List.pairwise_map]
    refine (hsorted.filter _).imp_of_mem ?_
    intro p q hp hq hpq
    have hp := beq_iff_eq.1 (List.mem_filter.1 hp).2
    have hq := beq_iff_eq.1 (List.mem_filter.1 hq).2
    rw [place_le_of_same (hp.trans hq.symm)]
    exact hpq.1
  -- The names of one kind are in the order of their files, so there is but one way to list them.
  have hsub : names.filter ofKind ⊆ files.map (·.within root) :=
    fun name hname => hnames.subset (List.mem_filter.1 hname).1
  have heq : names.filter ofKind = (files.map (·.within root)).filter ofKind :=
    eq_of_ordered hfiles hsub (hnames.filter ofKind) (hordered.sublist (List.filter_sublist.map _))
      hkind
  rw [← hfilter, ← heq]
  exact List.filter_sublist

end Listing

end Continuity.Path
