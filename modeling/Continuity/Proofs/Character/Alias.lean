import Mathlib.Data.List.Nodup
import Mathlib.Data.List.Perm.Subperm
import Mathlib.Data.List.TakeWhile
import Mathlib.Data.String.Basic
import Mathlib.Logic.Relation
import Mathlib.Order.Bounds.Basic
import Continuity.Character.Alias

/-! # What other names resolve to

Declarations that count lead from folded name to folded name, and never to two from one. So whoever
follows them comes to a name that is no other name, or into a circle. The resolution of a name is
told by where it leads, and is its own resolution.
-/

namespace Continuity.Character

open Relation (ReflTransGen TransGen)

/-! ## Ways that do not fork -/

section Ways

variable {α : Type} {r : α → α → Prop} {a b k : α}

/-- On a circle, everything that is reached leads back. -/
theorem reaches_back (hunique : Relator.RightUnique r) (hcircle : TransGen r k k)
    (h : ReflTransGen r k a) : ReflTransGen r a k := by
  induction h with
  | refl => exact .refl
  | tail _ hstep ih =>
      have hround := TransGen.trans_right ih hcircle
      obtain ⟨next, hnext, hback⟩ := TransGen.head'_iff.1 hround
      exact hunique hnext hstep ▸ hback

/-- From a place that leads to a circle, everything leads there. -/
theorem reaches_circle (hunique : Relator.RightUnique r) (hcircle : TransGen r k k)
    (hk : ReflTransGen r a k) (hb : ReflTransGen r a b) : ReflTransGen r b k := by
  rcases ReflTransGen.total_of_right_unique hunique hk hb with h | h
  · exact reaches_back hunique hcircle h
  · exact h

/-- A way to a circle ends nowhere. -/
theorem exists_next (hunique : Relator.RightUnique r) (hcircle : TransGen r k k)
    (hk : ReflTransGen r a k) (hb : ReflTransGen r a b) : ∃ c, r b c := by
  rcases (reaches_circle hunique hcircle hk hb).cases_head with rfl | ⟨c, hc, -⟩
  · obtain ⟨c, hc, -⟩ := TransGen.head'_iff.1 hcircle
    exact ⟨c, hc⟩
  · exact ⟨c, hc⟩

end Ways

/-! ## Declarations that count -/

section Declarations

variable (pairs : List (String × String)) (protectedKeys : List String)

/-- A declaration says of a folded name whose other name it is. It says nothing of a name that is
protected or the same apart from case. -/
def Declares (key : String) (pair : String × String) : Prop :=
  Text.fold pair.2 = key ∧ Text.fold pair.1 ≠ key ∧ key ∉ protectedKeys

instance (key : String) (pair : String × String) : Decidable (Declares protectedKeys key pair) :=
  inferInstanceAs (Decidable (_ ∧ _ ∧ _))

/-- A declaration counts: it is the first one to say whose other name this is. -/
def Counts (canonical other : String) : Prop :=
  Declares protectedKeys (Text.fold other) (canonical, other) ∧
    ∃ earlier later, pairs = earlier ++ (canonical, other) :: later ∧
      ∀ pair ∈ earlier, ¬Declares protectedKeys (Text.fold other) pair

/-- A declaration that counts is about the first folded name, and leads to the second. -/
def Leads (key key' : String) : Prop :=
  ∃ canonical other, Counts pairs protectedKeys canonical other ∧ Text.fold other = key ∧
    Text.fold canonical = key'

/-- The other names on a circle into which a folded name leads. -/
def circleOf (key : String) : Set String :=
  {other | ReflTransGen (Leads pairs protectedKeys) key (Text.fold other) ∧
    TransGen (Leads pairs protectedKeys) (Text.fold other) (Text.fold other) ∧
    ∃ canonical, Counts pairs protectedKeys canonical other}

/-- The name that a spelling resolves to. -/
def resolved (name : String) : String :=
  ((resolveAliases pairs protectedKeys).lookup (Text.fold name)).getD name

end Declarations

namespace AliasLink

/-- The declaration that counts for a folded name, as a pair says it. -/
def ofPair (pair : String × String) : AliasLink := ⟨Text.fold pair.2, pair.2, pair.1⟩

section OfPairs

variable {pairs : List (String × String)} {protectedKeys : List String} {links : List AliasLink}
  {link : AliasLink} {key : String}

theorem key_of_find? (h : find? links key = some link) : link.key = key := by
  unfold find? at h
  simpa using List.find?_some h

theorem find?_snoc (key : String) (link : AliasLink) :
    find? (links ++ [link]) key =
      (find? links key).or (if link.key = key then some link else none) := by
  unfold find?
  by_cases h : link.key = key
  · simp [h]
  · simp [h]

/-- One more declaration is found for its other name only, if it counts. -/
theorem find?_add (pair : String × String) :
    find? (add protectedKeys links pair) key =
      (find? links key).or
        (if Declares protectedKeys key pair then some (ofPair pair) else none) := by
  obtain ⟨canonical, other⟩ := pair
  by_cases hkey : Text.fold other = key
  · subst hkey
    cases hfound : find? links (Text.fold other) with
    | some link => simp [add, hfound]
    | none =>
        by_cases hself : Text.fold canonical = Text.fold other
        · simp [add, hself, hfound, Declares]
        · by_cases hprotected : Text.fold other ∈ protectedKeys
          · simp [add, hprotected, hfound, Declares]
          · have hdeclares : Declares protectedKeys (Text.fold other) (canonical, other) :=
              ⟨rfl, hself, hprotected⟩
            rw [if_pos hdeclares, add]
            simp [Ne.symm hself, hprotected, hfound, find?_snoc, ofPair]
  · have hnot : ¬Declares protectedKeys key (canonical, other) := fun h => hkey h.1
    rw [if_neg hnot, Option.or_none, add]
    split
    · rfl
    · rw [find?_snoc, if_neg hkey, Option.or_none]

theorem find?_foldl_add (pairs : List (String × String)) :
    find? (pairs.foldl (add protectedKeys) links) key =
      (find? links key).or
        ((pairs.find? fun pair => Declares protectedKeys key pair).map ofPair) := by
  induction pairs generalizing links with
  | nil => simp
  | cons pair rest ih =>
      rw [List.foldl_cons, ih, find?_add, Option.or_assoc]
      by_cases h : Declares protectedKeys key pair
      · simp [h]
      · simp [h]

theorem find?_ofPairs :
    find? (ofPairs pairs protectedKeys) key =
      (pairs.find? fun pair => Declares protectedKeys key pair).map ofPair :=
  find?_foldl_add pairs

/-- The declarations that are found are those that count. -/
theorem find?_ofPairs_eq_some_iff :
    find? (ofPairs pairs protectedKeys) key = some link ↔
      link.key = key ∧ Text.fold link.spelling = key ∧
        Counts pairs protectedKeys link.canonical link.spelling := by
  rw [find?_ofPairs, Option.map_eq_some_iff]
  simp only [List.find?_eq_some_iff_append, decide_eq_true_eq, Bool.not_eq_true',
    decide_eq_false_iff_not]
  constructor
  · rintro ⟨⟨canonical, other⟩, ⟨hdeclares, earlier, later, hpairs, hearlier⟩, rfl⟩
    obtain rfl := hdeclares.1
    exact ⟨rfl, rfl, hdeclares, earlier, later, hpairs, hearlier⟩
  · obtain ⟨linkKey, other, canonical⟩ := link
    rintro ⟨rfl, hkey, hdeclares, earlier, later, hpairs, hearlier⟩
    dsimp only at hkey hdeclares hpairs hearlier
    subst hkey
    exact ⟨(canonical, other), ⟨hdeclares, earlier, later, hpairs, hearlier⟩, rfl⟩

theorem leads_iff {key' : String} :
    Leads pairs protectedKeys key key' ↔
      ∃ link, find? (ofPairs pairs protectedKeys) key = some link ∧
        Text.fold link.canonical = key' := by
  simp only [find?_ofPairs_eq_some_iff]
  constructor
  · rintro ⟨canonical, other, hcounts, hkey, hkey'⟩
    exact ⟨⟨key, other, canonical⟩, ⟨rfl, hkey, hcounts⟩, hkey'⟩
  · rintro ⟨link, ⟨-, hkey, hcounts⟩, hkey'⟩
    exact ⟨link.canonical, link.spelling, hcounts, hkey, hkey'⟩

theorem find?_ofPairs_eq_none_iff :
    find? (ofPairs pairs protectedKeys) key = none ↔
      ∀ key', ¬Leads pairs protectedKeys key key' := by
  simp only [leads_iff, Option.eq_none_iff_forall_ne_some]
  constructor
  · rintro hnone key' ⟨link, hlink, -⟩
    exact hnone link hlink
  · intro hnone link hlink
    exact hnone _ ⟨link, hlink, rfl⟩

theorem leads_rightUnique : Relator.RightUnique (Leads pairs protectedKeys) := by
  intro key first second hfirst hsecond
  obtain ⟨link, hlink, rfl⟩ := leads_iff.1 hfirst
  obtain ⟨link', hlink', rfl⟩ := leads_iff.1 hsecond
  rw [Option.some.inj (hlink.symm.trans hlink')]

end OfPairs

/-! ## Following declarations -/

section Walks

variable {links walked rest : List AliasLink} {link : AliasLink} {start key stop : String}

/-- Declarations lead one after another from a folded name to another. -/
def Walk (links : List AliasLink) : (start : String) → List AliasLink → (stop : String) → Prop
  | start, [], stop => start = stop
  | start, link :: rest, stop =>
    find? links start = some link ∧ Walk links (Text.fold link.canonical) rest stop

theorem walk_append :
    Walk links start (walked ++ rest) stop ↔
      ∃ key, Walk links start walked key ∧ Walk links key rest stop := by
  induction walked generalizing start with
  | nil => simp [Walk]
  | cons first others ih =>
      simp only [List.cons_append, Walk, ih]
      constructor
      · rintro ⟨hfirst, key, hwalked, hrest⟩
        exact ⟨key, ⟨hfirst, hwalked⟩, hrest⟩
      · rintro ⟨key, ⟨hfirst, hwalked⟩, hrest⟩
        exact ⟨hfirst, key, hwalked, hrest⟩

theorem Walk.find?_of_mem (h : Walk links start walked stop) (hlink : link ∈ walked) :
    find? links link.key = some link := by
  obtain ⟨before, after, rfl⟩ := List.append_of_mem hlink
  obtain ⟨key, -, hfound, -⟩ := walk_append.1 h
  rwa [key_of_find? hfound]

/-- A walk that meets no name twice is no longer than there are declarations. -/
theorem Walk.length_le (h : Walk links start walked stop)
    (hnodup : (walked.map (·.key)).Nodup) : walked.length ≤ links.length := by
  have hsub : walked.map (·.key) ⊆ links.map (·.key) := by
    intro key hkey
    obtain ⟨link, hlink, rfl⟩ := List.mem_map.1 hkey
    exact List.mem_map_of_mem (List.mem_of_find?_eq_some (h.find?_of_mem hlink))
  simpa using (hnodup.subperm hsub).length_le

/-- Nothing is left to follow: the name was met before, or no declaration is for it. -/
def Halted (links : List AliasLink) (walked : List AliasLink) (key : String) : Prop :=
  key ∈ walked.map (·.key) ∨ find? links key = none

/-- Declarations that were followed form a walk that meets no name twice; it goes on until nothing
is left to follow, or as far as was asked. -/
theorem walk_chain (fuel : Nat) (h : Walk links start walked key)
    (hnodup : (walked.map (·.key)).Nodup) {walk : List AliasLink}
    (hchain : chain links fuel walked key = (walk, stop)) :
    Walk links start walk stop ∧ (walk.map (·.key)).Nodup ∧
      (Halted links walk stop ∨ walk.length = walked.length + fuel) := by
  induction fuel generalizing walked key with
  | zero =>
      obtain ⟨rfl, rfl⟩ := Prod.mk.inj hchain
      exact ⟨h, hnodup, .inr rfl⟩
  | succ fuel ih =>
      rw [chain] at hchain
      split at hchain
      next hmet =>
        obtain ⟨rfl, rfl⟩ := Prod.mk.inj hchain
        exact ⟨h, hnodup, .inl (.inl (by simpa using hmet))⟩
      next hnew =>
        cases hfound : find? links key with
        | none =>
            rw [hfound] at hchain
            obtain ⟨rfl, rfl⟩ := Prod.mk.inj hchain
            exact ⟨h, hnodup, .inl (.inr hfound)⟩
        | some link =>
            rw [hfound] at hchain
            have hwalk : Walk links start (walked ++ [link]) (Text.fold link.canonical) :=
              walk_append.2 ⟨key, h, hfound, rfl⟩
            have hnodup' : ((walked ++ [link]).map (·.key)).Nodup := by
              have hkey : key ∉ walked.map (·.key) := by simpa using hnew
              rw [List.map_append, List.map_singleton, key_of_find? hfound]
              exact List.nodup_append.2 ⟨hnodup, List.nodup_singleton key, by simpa using hkey⟩
            obtain ⟨hstop, hmet, hlength⟩ := ih hwalk hnodup' hchain
            refine ⟨hstop, hmet, hlength.imp_right fun hlength => ?_⟩
            rw [hlength, List.length_append, List.length_singleton]
            omega

/-- Once nothing is left to follow, it makes no difference how far one might go. -/
theorem chain_succ (fuel : Nat) {walk : List AliasLink}
    (hchain : chain links fuel walked key = (walk, stop)) (hhalted : Halted links walk stop) :
    chain links (fuel + 1) walked key = (walk, stop) := by
  induction fuel generalizing walked key with
  | zero =>
      obtain ⟨rfl, rfl⟩ := Prod.mk.inj hchain
      rw [chain]
      rcases hhalted with hmet | hnone
      · rw [if_pos (by simpa using hmet)]
      · rw [hnone]
        split <;> rfl
  | succ fuel ih =>
      rw [chain] at hchain ⊢
      split at hchain
      next hmet =>
        rw [if_pos hmet]
        exact hchain
      next hnew =>
        rw [if_neg hnew]
        cases hfound : find? links key with
        | none =>
            rw [hfound] at hchain
            exact hchain
        | some link =>
            rw [hfound] at hchain
            exact ih hchain

/-- All that might be followed is followed in as many steps as there are declarations. -/
theorem halted_chain {fuel : Nat} (hfuel : links.length < fuel) {walk : List AliasLink}
    (hchain : chain links fuel [] start = (walk, stop)) : Halted links walk stop := by
  have hstart : Walk links start [] start := rfl
  obtain ⟨hwalk, hnodup, hhalted | hlength⟩ := walk_chain fuel hstart List.nodup_nil hchain
  · exact hhalted
  · have hshort := hwalk.length_le hnodup
    rw [List.length_nil] at hlength
    omega

/-- What can be followed is the same for every number of steps that is enough. -/
theorem chain_eq_of_lt {fuel : Nat} (hfuel : links.length < fuel) (start : String) :
    chain links fuel [] start = chain links (links.length + 1) [] start := by
  induction fuel, hfuel using Nat.le_induction with
  | base => rfl
  | succ fuel hfuel ih => rw [← ih, chain_succ fuel rfl (halted_chain hfuel rfl)]

end Walks

/-! ## Where walks end -/

/-- The smallest of some names is one of them, and no other is smaller. -/
theorem isLeast_least (first : String) (names : List String) :
    IsLeast {name | name ∈ first :: names} (least first names) := by
  induction names generalizing first with
  | nil => simp [least, IsLeast, lowerBounds]
  | cons second rest ih =>
      rw [least, List.foldl_cons, ← least]
      by_cases hlt : second < first
      · rw [if_pos hlt]
        obtain ⟨hmem, hle⟩ := ih second
        refine ⟨List.mem_cons_of_mem _ hmem, ?_⟩
        intro name hname
        rcases List.mem_cons.1 hname with rfl | hname
        · exact (hle List.mem_cons_self).trans hlt.le
        · exact hle hname
      · rw [if_neg hlt]
        obtain ⟨hmem, hle⟩ := ih first
        refine ⟨?_, ?_⟩
        · rcases List.mem_cons.1 hmem with heq | hmem
          · exact List.mem_cons.2 (.inl heq)
          · exact List.mem_cons_of_mem _ (List.mem_cons_of_mem _ hmem)
        · intro name hname
          rcases List.mem_cons.1 hname with rfl | hname
          · exact hle List.mem_cons_self
          · rcases List.mem_cons.1 hname with rfl | hname
            · exact (hle List.mem_cons_self).trans (not_lt.1 hlt)
            · exact hle (List.mem_cons_of_mem _ hname)

section Resolve

variable {pairs : List (String × String)} {protectedKeys : List String}
  {walked : List AliasLink} {link : AliasLink} {start key stop : String}

theorem Walk.reaches (h : Walk (ofPairs pairs protectedKeys) start walked stop) :
    ReflTransGen (Leads pairs protectedKeys) start stop := by
  induction walked generalizing start with
  | nil =>
      cases h
      exact .refl
  | cons link rest ih => exact .head (leads_iff.2 ⟨link, h.1, rfl⟩) (ih h.2)

theorem Walk.circles (h : Walk (ofPairs pairs protectedKeys) start (link :: walked) stop) :
    TransGen (Leads pairs protectedKeys) start stop :=
  .head' (leads_iff.2 ⟨link, h.1, rfl⟩) (Walk.reaches h.2)

/-- A walk that comes back to its start meets everything that is reached from there. -/
theorem Walk.mem_of_reaches (h : Walk (ofPairs pairs protectedKeys) stop walked stop)
    (hne : walked ≠ []) (hreaches : ReflTransGen (Leads pairs protectedKeys) stop key) :
    key ∈ walked.map (·.key) := by
  have hstart {start : String} {walked : List AliasLink} (hne : walked ≠ [])
      (h : Walk (ofPairs pairs protectedKeys) start walked stop) :
      start ∈ walked.map (·.key) := by
    cases walked with
    | nil => exact absurd rfl hne
    | cons first rest => simp [key_of_find? h.1]
  induction hreaches with
  | refl => exact hstart hne h
  | tail _ hstep ih =>
      obtain ⟨link, hlink, rfl⟩ := List.mem_map.1 ih
      obtain ⟨before, after, rfl⟩ := List.append_of_mem hlink
      obtain ⟨key, -, hfound, hafter⟩ := walk_append.1 h
      have hnext := leads_rightUnique hstep (leads_iff.2 ⟨link, key_of_find? hfound ▸ hfound, rfl⟩)
      subst hnext
      cases after with
      | nil =>
          cases hafter
          exact hstart hne h
      | cons next rest =>
          rw [List.map_append, List.map_cons]
          exact List.mem_append_right _ (List.mem_cons_of_mem _ (hstart (by simp) hafter))

/-- The names of a walk that comes back to its start are those of the circle into which everything
leads that leads to it. -/
theorem Walk.mem_circleOf_iff (h : Walk (ofPairs pairs protectedKeys) stop walked stop)
    (hne : walked ≠ []) (hreaches : ReflTransGen (Leads pairs protectedKeys) start stop)
    {other : String} :
    other ∈ circleOf pairs protectedKeys start ↔ other ∈ walked.map (·.spelling) := by
  constructor
  · rintro ⟨hother, hcircle, canonical, hcounts⟩
    have hmet := h.mem_of_reaches hne (reaches_circle leads_rightUnique hcircle hother hreaches)
    obtain ⟨link, hlink, hkey⟩ := List.mem_map.1 hmet
    have hfound := h.find?_of_mem hlink
    have hcounted : find? (ofPairs pairs protectedKeys) link.key =
        some ⟨link.key, other, canonical⟩ :=
      find?_ofPairs_eq_some_iff.2 ⟨rfl, hkey.symm, hcounts⟩
    have heq := Option.some.inj (hcounted.symm.trans hfound)
    exact List.mem_map.2 ⟨link, hlink, heq ▸ rfl⟩
  · intro hmem
    obtain ⟨link, hlink, rfl⟩ := List.mem_map.1 hmem
    obtain ⟨-, hkey, hcounts⟩ := find?_ofPairs_eq_some_iff.1 (h.find?_of_mem hlink)
    obtain ⟨before, after, rfl⟩ := List.append_of_mem hlink
    obtain ⟨key, hbefore, hrest⟩ := walk_append.1 h
    obtain rfl : key = Text.fold link.spelling := (key_of_find? hrest.1).symm.trans hkey.symm
    exact ⟨hreaches.trans hbefore.reaches, hrest.circles.trans_left hbefore.reaches,
      link.canonical, hcounts⟩

/-- A declaration that counts resolves to the name at the end of its way, as the last declaration
spells it, or to the smallest other name on the circle into which it leads. -/
theorem resolve_cases (hlink : find? (ofPairs pairs protectedKeys) link.key = some link) :
    (∃ last, find? (ofPairs pairs protectedKeys) last.key = some last ∧
      ReflTransGen (Leads pairs protectedKeys) link.key last.key ∧
      find? (ofPairs pairs protectedKeys) (Text.fold last.canonical) = none ∧
      resolve (ofPairs pairs protectedKeys) link = last.canonical) ∨
    ∃ key, ReflTransGen (Leads pairs protectedKeys) link.key key ∧
      TransGen (Leads pairs protectedKeys) key key ∧
      IsLeast (circleOf pairs protectedKeys link.key)
        (resolve (ofPairs pairs protectedKeys) link) := by
  unfold resolve
  cases hchain : chain (ofPairs pairs protectedKeys) ((ofPairs pairs protectedKeys).length + 1) []
    link.key with
  | mk walked stop =>
      have hstart : Walk (ofPairs pairs protectedKeys) link.key [] link.key := rfl
      have hwalk := (walk_chain _ hstart List.nodup_nil hchain).1
      have hhalted := halted_chain (Nat.lt_succ_self _) hchain
      dsimp only
      cases hcircle : walked.dropWhile (·.key != stop) with
      | nil =>
          left
          have hnew : ∀ link ∈ walked, link.key ≠ stop := by
            simpa using List.dropWhile_eq_nil_iff.1 hcircle
          have hstop : find? (ofPairs pairs protectedKeys) stop = none := by
            refine hhalted.resolve_left fun hmet => ?_
            obtain ⟨met, hmem, hkey⟩ := List.mem_map.1 hmet
            exact hnew met hmem hkey
          rcases List.eq_nil_or_concat walked with rfl | ⟨before, last, rfl⟩
          · cases hwalk
            rw [hlink] at hstop
            cases hstop
          · rw [List.concat_eq_append] at hwalk ⊢
            obtain ⟨key, hbefore, hlast, hend⟩ := walk_append.1 hwalk
            obtain rfl := key_of_find? hlast
            cases hend
            exact ⟨last, hlast, hbefore.reaches, hstop, by simp⟩
      | cons first rest =>
          right
          have hfirst : first.key = stop := by
            have := List.head?_dropWhile_not (fun link : AliasLink => link.key != stop) walked
            simpa [hcircle] using this
          have hsplit : walked = walked.takeWhile (·.key != stop) ++ first :: rest := by
            rw [← hcircle, List.takeWhile_append_dropWhile]
          obtain ⟨key, hbefore, hround⟩ := walk_append.1 (hsplit ▸ hwalk)
          obtain rfl : key = stop := (key_of_find? hround.1).symm.trans hfirst
          refine ⟨key, hbefore.reaches, hround.circles, ?_⟩
          have hnames : circleOf pairs protectedKeys link.key =
              {name | name ∈ first.spelling :: rest.map (·.spelling)} :=
            Set.ext fun other => hround.mem_circleOf_iff (by simp) hbefore.reaches
          rw [hnames]
          exact isLeast_least _ _

theorem lookup_resolveAliases :
    (resolveAliases pairs protectedKeys).lookup key =
      (find? (ofPairs pairs protectedKeys) key).map (resolve (ofPairs pairs protectedKeys)) := by
  unfold resolveAliases find?
  dsimp only
  generalize resolve (ofPairs pairs protectedKeys) = f
  induction ofPairs pairs protectedKeys with
  | nil => rfl
  | cons link rest ih =>
      rw [List.map_cons, List.lookup_cons, List.find?_cons]
      by_cases h : key = link.key
      · simp [h]
      · rw [beq_eq_false_iff_ne.2 h, beq_eq_false_iff_ne.2 (Ne.symm h)]
        exact ih

end Resolve

end AliasLink

end Continuity.Character
