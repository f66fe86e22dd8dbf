import Mathlib.Data.List.Forall2
import Mathlib.Data.List.Nodup
import Mathlib.Data.List.Pairwise
import Mathlib.Data.List.Perm.Basic
import Mathlib.Order.Lattice

/-! # Lists

What is made of two lists is the same where their members correspond to each other. What several
lists make together can be listed by the members of any of them.

Where an order tells all members of a list apart, sorting forgets in which order they came. Often
members are ordered by a key that each has for itself.

What is made of a list in steps that can fail comes of it where no step fails.
-/

namespace Continuity.Lists

variable {α β γ : Type}

theorem contains_congr [BEq α] [LawfulBEq α] {as bs : List α} (hmem : ∀ a, a ∈ as ↔ a ∈ bs)
    (a : α) : as.contains a = bs.contains a := by
  rw [Bool.eq_iff_iff, List.contains_iff_mem, List.contains_iff_mem]
  exact hmem a

/-- Where at most one member is looked for, it does not matter in which order. -/
theorem find?_congr_of_unique {as bs : List α} {keep : α → Bool}
    (hmem : ∀ a, a ∈ as ↔ a ∈ bs)
    (hunique : ∀ a ∈ as, ∀ b ∈ as, keep a = true → keep b = true → a = b) :
    as.find? keep = bs.find? keep := by
  cases hfound : as.find? keep with
  | none =>
      rw [List.find?_eq_none] at hfound
      refine (List.find?_eq_none.2 fun a ha => ?_).symm
      exact hfound a ((hmem a).2 ha)
  | some a =>
      have ha := List.mem_of_find?_eq_some hfound
      have hkeep := List.find?_some hfound
      cases hfound' : bs.find? keep with
      | none => exact absurd hkeep (List.find?_eq_none.1 hfound' a ((hmem a).1 ha))
      | some b =>
          have hb := (hmem b).2 (List.mem_of_find?_eq_some hfound')
          rw [hunique a ha b hb hkeep (List.find?_some hfound')]

theorem nodup_eraseDups [BEq α] [LawfulBEq α] (as : List α) : as.eraseDups.Nodup := by
  cases as with
  | nil => exact List.nodup_nil
  | cons a rest =>
      rw [List.eraseDups_cons, List.nodup_cons]
      exact ⟨by simp, nodup_eraseDups _⟩
termination_by as.length
decreasing_by
  rw [List.length_cons]
  exact Nat.lt_succ_of_le (List.length_filter_le _ _)

/-- Where keys are all different, each is found with its own value. -/
theorem lookup_eq_some_iff [BEq α] [LawfulBEq α] {entries : List (α × β)}
    (h : (entries.map (·.1)).Nodup) {a : α} {b : β} :
    entries.lookup a = some b ↔ (a, b) ∈ entries := by
  induction entries with
  | nil => simp
  | cons entry rest ih =>
      obtain ⟨key, value⟩ := entry
      obtain ⟨hnew, hrest⟩ := List.nodup_cons.1 h
      rw [List.lookup_cons, List.mem_cons]
      by_cases hkey : a = key
      · subst hkey
        have hnone : (a, b) ∉ rest := fun hmem => hnew (List.mem_map_of_mem (f := (·.1)) hmem)
        simp [hnone, eq_comm]
      · rw [beq_false_of_ne hkey, ih hrest]
        simp [hkey]

/-- Values without repetition come in the order in which the first members with them come. -/
theorem pairwise_eraseDups_filterMap [BEq β] [LawfulBEq β] {r : α → α → Prop} {as : List α}
    (h : as.Pairwise r) (f : α → Option β) :
    (as.filterMap f).eraseDups.Pairwise fun b b' =>
      ∃ a ∈ as, f a = some b ∧ ∀ a' ∈ as, f a' = some b' → r a a' := by
  induction h generalizing f with
  | nil => exact .nil
  | @cons a as ha _ ih =>
      cases hfa : f a with
      | none =>
          rw [List.filterMap_cons_none hfa]
          refine (ih f).imp ?_
          rintro b b' ⟨first, hfirst, hb, hlater⟩
          exact ⟨first, List.mem_cons_of_mem _ hfirst, hb,
            List.forall_mem_cons.2 ⟨by simp [hfa], hlater⟩⟩
      | some value =>
          rw [List.filterMap_cons_some hfa, List.eraseDups_cons, List.filter_filterMap]
          -- Behind the first member only those with other values count.
          have hother (a : α) (b : β) : (f a).filter (!· == value) = some b ↔
              f a = some b ∧ b ≠ value := by
            simp [Option.filter_eq_some_iff]
          have hne {b : β} (hb : b ∈ (as.filterMap fun a => (f a).filter (!· == value)).eraseDups) :
              value ≠ b := by
            rw [List.mem_eraseDups, List.mem_filterMap] at hb
            obtain ⟨a', _, hb⟩ := hb
            exact ((hother a' b).1 hb).2.symm
          refine .cons (fun b hb => ?_) ((ih _).imp_of_mem ?_)
          · exact ⟨a, List.mem_cons_self, hfa,
              List.forall_mem_cons.2 ⟨by simp [hfa, hne hb], fun a' ha' _ => ha a' ha'⟩⟩
          · rintro b b' - hb' ⟨first, hfirst, hb, hlater⟩
            refine ⟨first, List.mem_cons_of_mem _ hfirst, ((hother _ _).1 hb).1,
              List.forall_mem_cons.2 ⟨by simp [hfa, hne hb'], fun a' ha' heq => ?_⟩⟩
            exact hlater a' ha' ((hother _ _).2 ⟨heq, (hne hb').symm⟩)

/-- What stands in front of a separator is read back up to it. -/
theorem takeWhile_append_cons [BEq α] [LawfulBEq α] {separator : α} {front back : List α}
    (h : separator ∉ front) :
    (front ++ separator :: back).takeWhile (· != separator) = front := by
  have hfront : ∀ a ∈ front, (a != separator) = true := by
    intro a ha
    rw [bne_iff_ne]
    rintro rfl
    exact h ha
  rw [List.takeWhile_append_of_pos hfront, List.takeWhile_cons_of_neg (by simp), List.append_nil]

/-- Where a member first stands in a list, the list can be cut in one way only. -/
theorem append_cons_inj {a : α} {as bs cs ds : List α} (has : a ∉ as) (hbs : a ∉ bs)
    (h : as ++ a :: cs = bs ++ a :: ds) : as = bs ∧ cs = ds := by
  rcases List.append_eq_append_iff.1 h with ⟨between, rfl, hrest⟩ | ⟨between, rfl, hrest⟩
  all_goals
    cases between with
    | nil => simp_all
    | cons b between => simp_all

/-- Pieces with a separator in front of each of them. -/
theorem cons_intercalate (separator : α) {pieces : List (List α)} (h : pieces ≠ []) :
    separator :: [separator].intercalate pieces = pieces.flatMap (separator :: ·) := by
  induction pieces with
  | nil => exact absurd rfl h
  | cons piece rest ih =>
      by_cases hrest : rest = []
      · simp [hrest]
      · rw [List.intercalate_cons_of_ne_nil hrest, List.flatMap_cons, ← ih hrest]
        simp

/-- Of two members of a list in order, one precedes the other. -/
theorem rel_or_rel_of_pairwise {r : α → α → Prop} {as : List α} (h : as.Pairwise r) {a b : α}
    (ha : a ∈ as) (hb : b ∈ as) (hne : a ≠ b) : r a b ∨ r b a := by
  have hsymm : Std.Symm fun a b => r a b ∨ r b a := ⟨fun _ _ => Or.symm⟩
  have hpairwise : as.Pairwise fun a b => r a b ∨ r b a := h.imp Or.inl
  exact hpairwise.forall ha hb hne

/-- In a list in order, a member that does not precede itself stands at one place only. -/
theorem eq_of_getElem?_of_pairwise {r : α → α → Prop} {as : List α} (h : as.Pairwise r) {a : α}
    (ha : ¬r a a) {i j : Nat} (hi : as[i]? = some a) (hj : as[j]? = some a) : i = j := by
  obtain ⟨hilt, rfl⟩ := List.getElem?_eq_some_iff.1 hi
  obtain ⟨hjlt, heq⟩ := List.getElem?_eq_some_iff.1 hj
  rw [List.pairwise_iff_getElem] at h
  rcases Nat.lt_trichotomy i j with hlt | hij | hlt
  · have hr := h i j hilt hjlt hlt
    rw [heq] at hr
    exact absurd hr ha
  · exact hij
  · have hr := h j i hjlt hilt hlt
    rw [heq] at hr
    exact absurd hr ha

/-- In a list in order, the first member of a kind is the one that none of its kind precedes. -/
theorem find?_eq_some_iff_of_pairwise {r : α → α → Prop} (hasymm : ∀ a b, r a b → ¬r b a)
    {as : List α} (has : as.Pairwise r) {keep : α → Bool} {a : α} :
    as.find? keep = some a ↔
      a ∈ as ∧ keep a = true ∧ ∀ b ∈ as, keep b = true → ¬r b a := by
  have hfirst {a : α} (hfound : as.find? keep = some a) :
      ∃ front back, as = front ++ a :: back ∧ (∀ b ∈ front, ¬keep b = true) ∧
        ∀ b ∈ back, r a b := by
    obtain ⟨-, front, back, rfl, hfront⟩ := List.find?_eq_some_iff_append.1 hfound
    exact ⟨front, back, rfl, by simpa using hfront,
      (List.pairwise_cons.1 (List.pairwise_append.1 has).2.1).1⟩
  constructor
  · intro hfound
    refine ⟨List.mem_of_find?_eq_some hfound, List.find?_some hfound, fun b hb hkeep hba => ?_⟩
    obtain ⟨front, back, rfl, hfront, hback⟩ := hfirst hfound
    rcases List.mem_append.1 hb with hb | hb
    · exact hfront b hb hkeep
    · rcases List.mem_cons.1 hb with rfl | hb
      · exact hasymm _ _ hba hba
      · exact hasymm _ _ (hback b hb) hba
  · rintro ⟨ha, hkeep, hnone⟩
    cases hfound : as.find? keep with
    | none => exact absurd hkeep (List.find?_eq_none.1 hfound a ha)
    | some b =>
        obtain ⟨front, back, rfl, hfront, hback⟩ := hfirst hfound
        rcases List.mem_append.1 ha with ha | ha
        · exact absurd hkeep (hfront a ha)
        · rcases List.mem_cons.1 ha with rfl | ha
          · rfl
          · exact absurd (hback a ha)
              (hnone b (List.mem_of_find?_eq_some hfound) (List.find?_some hfound))

/-- The last member of a kind. -/
theorem find?_reverse_eq_some_iff {as : List α} {keep : α → Bool} {a : α} :
    as.reverse.find? keep = some a ↔
      keep a = true ∧ ∃ front back, as = front ++ a :: back ∧ ∀ b ∈ back, ¬keep b = true := by
  rw [List.find?_eq_some_iff_append]
  refine and_congr_right fun _ => ?_
  constructor
  · rintro ⟨back, front, hsplit, hback⟩
    refine ⟨front.reverse, back.reverse, ?_, by simpa using hback⟩
    rw [← as.reverse_reverse, hsplit]
    simp
  · rintro ⟨front, back, rfl, hback⟩
    exact ⟨back.reverse, front.reverse, by simp, by simpa using hback⟩

/-- What every step keeps is kept by all of them. -/
theorem foldl_keeps {f : β → γ} {step : β → α → β} (h : ∀ b a, f (step b a) = f b) (b : β)
    (as : List α) : f (as.foldl step b) = f b := by
  induction as generalizing b with
  | nil => rfl
  | cons a rest ih => rw [List.foldl_cons, ih, h]

/-! ## Members that correspond -/

section Corresponding

variable {r : α → β → Prop} {as : List α} {bs : List β}

theorem exists_of_mem_forall₂ {b : β} (h : List.Forall₂ r as bs) (hb : b ∈ bs) :
    ∃ a ∈ as, r a b := by
  induction h with
  | nil => cases hb
  | cons hfirst _ ih =>
      rcases List.mem_cons.1 hb with rfl | hb
      · exact ⟨_, List.mem_cons_self, hfirst⟩
      · obtain ⟨a, ha, hr⟩ := ih hb
        exact ⟨a, List.mem_cons_of_mem _ ha, hr⟩

theorem map_eq_of_forall₂ {f : α → γ} {g : β → γ} (h : List.Forall₂ r as bs)
    (heq : ∀ a b, r a b → f a = g b) : as.map f = bs.map g := by
  induction h with
  | nil => rfl
  | cons hfirst _ ih => rw [List.map_cons, List.map_cons, heq _ _ hfirst, ih]

theorem foldl_eq_of_forall₂ {f : γ → α → γ} {g : γ → β → γ} (h : List.Forall₂ r as bs)
    (heq : ∀ a b, r a b → ∀ c, f c a = g c b) (c : γ) : as.foldl f c = bs.foldl g c := by
  induction h generalizing c with
  | nil => rfl
  | cons hfirst _ ih => rw [List.foldl_cons, List.foldl_cons, heq _ _ hfirst, ih]

theorem mem_flatMap_iff_of_forall₂ {f : α → List γ} {g : β → List γ} (h : List.Forall₂ r as bs)
    (heq : ∀ a b, r a b → ∀ c, c ∈ f a ↔ c ∈ g b) (c : γ) :
    c ∈ as.flatMap f ↔ c ∈ bs.flatMap g := by
  induction h with
  | nil => rfl
  | cons hfirst _ ih =>
      rw [List.flatMap_cons, List.flatMap_cons, List.mem_append, List.mem_append, ih,
        heq _ _ hfirst]

/-- Where each member makes one thing that fits it, all of them make a list that fits. -/
theorem exists_forall₂_of_singletons {f : α → List β} (h : ∀ a ∈ as, ∃ b, r a b ∧ f a = [b]) :
    ∃ bs, List.Forall₂ r as bs ∧ as.flatMap f = bs := by
  induction as with
  | nil => exact ⟨[], .nil, rfl⟩
  | cons a rest ih =>
      obtain ⟨b, hb, hfirst⟩ := h a List.mem_cons_self
      obtain ⟨bs, hbs, hrest⟩ := ih fun a ha => h a (List.mem_cons_of_mem _ ha)
      exact ⟨b :: bs, .cons hb hbs, by rw [List.flatMap_cons, hfirst, hrest]; rfl⟩

end Corresponding

/-! ## Members of several lists -/

section Nested

/-- Of members with keys of their own, one is chosen by its key. -/
theorem flatMap_ite_of_mem [DecidableEq β] (key : α → β) {a : α} {as : List α}
    (hkeys : (as.map key).Nodup) (ha : a ∈ as) (g : α → List γ) :
    (as.flatMap fun b => if key b = key a then g b else []) = g a := by
  induction as with
  | nil => cases ha
  | cons first rest ih =>
      rw [List.map_cons, List.nodup_cons] at hkeys
      rw [List.flatMap_cons]
      rcases List.mem_cons.1 ha with rfl | ha
      · have hrest : (rest.flatMap fun b => if key b = key a then g b else []) = [] := by
          refine List.flatMap_eq_nil_iff.2 fun b hb => if_neg fun hkey => ?_
          exact hkeys.1 (hkey ▸ List.mem_map_of_mem (f := key) hb)
        rw [if_pos rfl, hrest, List.append_nil]
      · have hfirst : key first ≠ key a := by
          intro hkey
          exact hkeys.1 (hkey ▸ List.mem_map_of_mem (f := key) ha)
        rw [if_neg hfirst, List.nil_append, ih hkeys.2 ha]

theorem find?_key_of_mem [DecidableEq β] (key : α → β) {a : α} {as : List α}
    (hkeys : (as.map key).Nodup) (ha : a ∈ as) : as.find? (key · == key a) = some a := by
  cases hfound : as.find? (key · == key a) with
  | none => exact absurd (beq_self_eq_true (key a)) (List.find?_eq_none.1 hfound a ha)
  | some b =>
      have hkey : key b = key a := by simpa using List.find?_some hfound
      rw [List.inj_on_of_nodup_map hkeys (List.mem_of_find?_eq_some hfound) ha hkey]

/-- What two lists make together can be listed by the members of either first. -/
theorem flatMap_perm_flatMap (as : List α) (bs : List β) (f : α → β → List γ) :
    (as.flatMap fun a => bs.flatMap (f a)).Perm
      (bs.flatMap fun b => as.flatMap fun a => f a b) := by
  induction as with
  | nil => simp
  | cons a rest ih =>
      simp only [List.flatMap_cons]
      exact (ih.append_left _).trans (List.flatMap_append_perm bs (f a) _)

theorem flatMap_ite_singleton (as : List α) (keep : α → Bool) (f : α → β) :
    (as.flatMap fun a => if keep a then [f a] else []) = (as.filter keep).map f := by
  induction as with
  | nil => rfl
  | cons a rest ih =>
      rw [List.flatMap_cons, ih, List.filter_cons]
      split <;> rfl

end Nested

end Continuity.Lists

namespace Continuity.Sorting

variable {α β : Type} {as bs : List α}

theorem mergeSort_congr {le : α → α → Bool} (htrans : ∀ a b c, le a b = true → le b c = true →
    le a c = true) (htotal : ∀ a b, (le a b || le b a) = true) (h : as.Perm bs)
    (hapart : ∀ a ∈ as, ∀ b ∈ as, le a b = true → le b a = true → a = b) :
    as.mergeSort le = bs.mergeSort le := by
  have hsorted (l : List α) : (l.mergeSort le).Pairwise fun a b => le a b = true :=
    List.pairwise_mergeSort htrans htotal l
  have hperm : (as.mergeSort le).Perm (bs.mergeSort le) :=
    ((List.mergeSort_perm as le).trans h).trans (List.mergeSort_perm bs le).symm
  refine List.Perm.eq_of_pairwise ?_ (hsorted as) (hsorted bs) hperm
  intro a b ha hb
  exact hapart a (List.mem_mergeSort.1 ha) b (h.mem_iff.2 (List.mem_mergeSort.1 hb))

section Keys

variable [LinearOrder β] (key : α → β)

theorem key_le_trans (a b c : α) (hab : decide (key a ≤ key b) = true)
    (hbc : decide (key b ≤ key c) = true) : decide (key a ≤ key c) = true :=
  decide_eq_true ((of_decide_eq_true hab).trans (of_decide_eq_true hbc))

theorem key_le_total (a b : α) : (decide (key a ≤ key b) || decide (key b ≤ key a)) = true := by
  simpa using le_total (key a) (key b)

theorem pairwise_of_key (as : List α) :
    (as.mergeSort fun a b => decide (key a ≤ key b)).Pairwise fun a b => key a ≤ key b :=
  (List.pairwise_mergeSort (key_le_trans key) (key_le_total key) as).imp of_decide_eq_true

variable {key}

/-- Members with one key stay as they came. -/
theorem filter_key_mergeSort (as : List α) (k : β) :
    ((as.mergeSort fun a b => decide (key a ≤ key b)).filter fun a => decide (key a = k)) =
      as.filter fun a => decide (key a = k) := by
  have hsame : (as.filter fun a => decide (key a = k)).Pairwise
      fun a b => decide (key a ≤ key b) = true := by
    refine List.pairwise_of_forall_mem_list fun a ha b hb => decide_eq_true ?_
    rw [of_decide_eq_true (List.mem_filter.1 ha).2, of_decide_eq_true (List.mem_filter.1 hb).2]
  have hsub := (List.sublist_mergeSort (key_le_trans key) (key_le_total key) hsame
    List.filter_sublist).filter fun a => decide (key a = k)
  rw [List.filter_filter, List.filter_congr (q := fun a => decide (key a = k)) (by simp)] at hsub
  exact (hsub.eq_of_length ((List.mergeSort_perm as _).filter _).length_eq.symm).symm

theorem mergeSort_congr_of_key (h : as.Perm bs) (hkeys : (as.map key).Nodup) :
    (as.mergeSort fun a b => decide (key a ≤ key b)) =
      bs.mergeSort fun a b => decide (key a ≤ key b) := by
  refine mergeSort_congr (key_le_trans key) (key_le_total key) h ?_
  intro a ha b hb hab hba
  have hkey := le_antisymm (of_decide_eq_true hab) (of_decide_eq_true hba)
  exact List.inj_on_of_nodup_map hkeys ha hb hkey

end Keys

end Continuity.Sorting

namespace Continuity

/-! # Steps that can fail -/

section Fallible

variable {α β ε : Type} {f : α → Except ε β} {as : List α} {bs : List β}

/-- A map succeeds where it succeeds for each member. -/
theorem mapM_eq_ok_iff : as.mapM f = .ok bs ↔ List.Forall₂ (fun a b => f a = .ok b) as bs := by
  induction as generalizing bs with
  | nil => cases bs <;> simp [pure, Except.pure]
  | cons a rest ih =>
      rw [List.mapM_cons]
      cases ha : f a with
      | error e => cases bs <;> simp [bind, Except.bind, ha]
      | ok b =>
          cases hrest : rest.mapM f with
          | error e => cases bs <;> simp [bind, Except.bind, ← ih, hrest, ha]
          | ok found => cases bs <;> simp [bind, Except.bind, pure, Except.pure, ← ih, hrest, ha]

theorem mapM_eq_map {g : α → β} (h : ∀ a ∈ as, f a = .ok (g a)) : as.mapM f = .ok (as.map g) := by
  rw [mapM_eq_ok_iff, List.forall₂_map_right_iff, List.forall₂_same]
  exact h

theorem exists_mapM_eq_ok (h : ∀ a ∈ as, ∃ b, f a = .ok b) : ∃ bs, as.mapM f = .ok bs := by
  simp only [mapM_eq_ok_iff]
  induction as with
  | nil => exact ⟨[], .nil⟩
  | cons a rest ih =>
      obtain ⟨b, hb⟩ := h a List.mem_cons_self
      obtain ⟨bs, hbs⟩ := ih fun a ha => h a (List.mem_cons_of_mem _ ha)
      exact ⟨b :: bs, .cons hb hbs⟩

theorem exists_of_mem_mapM {b : β} (h : as.mapM f = .ok bs) (hb : b ∈ bs) :
    ∃ a ∈ as, f a = .ok b := by
  obtain ⟨a, ha, hfound⟩ := Lists.exists_of_mem_forall₂ (mapM_eq_ok_iff.1 h) hb
  exact ⟨a, ha, hfound⟩

theorem exists_filterAuxM {keep : α → Except ε Bool} (h : ∀ a ∈ as, ∃ answer, keep a = .ok answer)
    (found : List α) : ∃ kept, List.filterAuxM keep as found = .ok kept ∧
      ∀ a, a ∈ kept ↔ a ∈ found ∨ a ∈ as ∧ keep a = .ok true := by
  induction as generalizing found with
  | nil => exact ⟨found, rfl, by simp⟩
  | cons a rest ih =>
      obtain ⟨answer, hanswer⟩ := h a List.mem_cons_self
      have hrest := ih fun a ha => h a (List.mem_cons_of_mem _ ha)
      obtain ⟨kept, hkept, hmem⟩ := hrest (if answer then a :: found else found)
      refine ⟨kept, ?_, fun b => ?_⟩
      · rw [List.filterAuxM, hanswer]
        cases answer <;> exact hkept
      · rw [hmem]
        cases answer <;> grind

/-- Where it can be told of each member whether to keep it, those to keep are kept. -/
theorem exists_filterM {keep : α → Except ε Bool} (h : ∀ a ∈ as, ∃ answer, keep a = .ok answer) :
    ∃ kept, as.filterM keep = .ok kept ∧ ∀ a, a ∈ kept ↔ a ∈ as ∧ keep a = .ok true := by
  obtain ⟨kept, hkept, hmem⟩ := exists_filterAuxM h []
  refine ⟨kept.reverse, ?_, by simpa using hmem⟩
  rw [List.filterM, hkept]
  rfl

/-- What comes of two steps comes of the second, after the first has succeeded. -/
theorem bind_eq_ok_iff {step : Except ε α} {next : α → Except ε β} {b : β} :
    step >>= next = .ok b ↔ ∃ a, step = .ok a ∧ next a = .ok b := by
  cases step <;> simp [bind, Except.bind]

/-- Two steps fail where the first fails, or the second after it. -/
theorem bind_eq_error_iff {step : Except ε α} {next : α → Except ε β} {e : ε} :
    step >>= next = .error e ↔ step = .error e ∨ ∃ a, step = .ok a ∧ next a = .error e := by
  cases step <;> simp [bind, Except.bind]

/-- Where each step fails or not whatever has come of the steps before, the first one that fails
makes all of them fail. -/
theorem foldlM_eq_error_iff {step : β → α → Except ε β} {fault? : α → Option ε}
    (h : ∀ b a e, step b a = .error e ↔ fault? a = some e) {b : β} {e : ε} :
    as.foldlM step b = .error e ↔ as.findSome? fault? = some e := by
  induction as generalizing b with
  | nil => simp [pure, Except.pure]
  | cons a rest ih =>
      rw [List.foldlM_cons, bind_eq_error_iff, h, List.findSome?_cons]
      cases ha : fault? a with
      | some fault =>
          have hfails : step b a = .error fault := (h b a fault).2 ha
          simp [hfails]
      | none =>
          cases hstep : step b a with
          | error fault => simp [(h b a fault).1 hstep] at ha
          | ok b' => simp [ih]

theorem mapError_eq_ok_iff {ε' : Type} {step : Except ε α} {f : ε → ε'} {a : α} :
    step.mapError f = .ok a ↔ step = .ok a := by
  cases step <;> simp [Except.mapError]

theorem mapError_eq_error_iff {ε' : Type} {step : Except ε α} {f : ε → ε'} {e' : ε'} :
    step.mapError f = .error e' ↔ ∃ e, step = .error e ∧ f e = e' := by
  cases step <;> simp [Except.mapError]

end Fallible

end Continuity
