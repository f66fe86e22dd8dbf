import Mathlib.Algebra.GroupWithZero.Nat
import Continuity.Data.Merge
import Continuity.SharedState

/-! # What a merged mapping holds

Keys that are the same can stand for each other. A key that is a text is the same as no other key.
So what stands under a name can be told entry by entry: where something is laid over it, that
counts, and all other names are left as they were.
-/

namespace Continuity.Value

variable {name name' : String} {key key' v : Value} {es : List (Value × Value)}

/-! ## Keys that are the same -/

section Keys

variable {a b c : Value} {as bs cs : List Value}

theorem atom?_tuple : (tuple as).atom? = none := rfl

theorem isSome_and_beq_iff {m? n? : Option Atom} :
    (m?.isSome && m? == n?) = true ↔ ∃ m, m? = some m ∧ n? = some m := by
  rw [Bool.and_eq_true, Option.isSome_iff_exists, beq_iff_eq]
  constructor
  · rintro ⟨⟨m, hm⟩, rfl⟩
    exact ⟨m, hm, hm⟩
  · rintro ⟨m, rfl, rfl⟩
    exact ⟨⟨m, rfl⟩, rfl⟩

/-- Keys are the same as atoms, or as sequences of the same keys. -/
theorem sameKey_iff : sameKey a b = true ↔
    (∃ m, a.atom? = some m ∧ b.atom? = some m) ∨
      ∃ as bs, a = .tuple as ∧ b = .tuple bs ∧ sameKeys as bs = true := by
  by_cases htuples : ∃ as bs, a = .tuple as ∧ b = .tuple bs
  · obtain ⟨as, bs, rfl, rfl⟩ := htuples
    simp [sameKey, atom?_tuple]
  · rw [sameKey, isSome_and_beq_iff]
    · refine (or_iff_left ?_).symm
      rintro ⟨as, bs, rfl, rfl, -⟩
      exact htuples ⟨as, bs, rfl, rfl⟩
    · rintro as bs rfl rfl
      exact htuples ⟨as, bs, rfl, rfl⟩

mutual

theorem sameKey_symm : ∀ {a b : Value}, sameKey a b = true → sameKey b a = true := by
  intro a b h
  rcases sameKey_iff.1 h with ⟨m, ha, hb⟩ | ⟨as, bs, rfl, rfl, h⟩
  · exact sameKey_iff.2 (.inl ⟨m, hb, ha⟩)
  · exact sameKey_iff.2 (.inr ⟨bs, as, rfl, rfl, sameKeys_symm h⟩)

theorem sameKeys_symm : ∀ {as bs : List Value}, sameKeys as bs = true → sameKeys bs as = true
  | [], [], _ => rfl
  | a :: as, b :: bs, h => by
      rw [sameKeys, Bool.and_eq_true] at h ⊢
      exact ⟨sameKey_symm h.1, sameKeys_symm h.2⟩

end

mutual

theorem sameKey_trans :
    ∀ {a b c : Value}, sameKey a b = true → sameKey b c = true → sameKey a c = true := by
  intro a b c hab hbc
  rcases sameKey_iff.1 hab with ⟨m, ha, hb⟩ | ⟨as, bs, rfl, rfl, hab⟩
  · rcases sameKey_iff.1 hbc with ⟨n, hb', hc⟩ | ⟨bs, cs, rfl, -, -⟩
    · obtain rfl := Option.some.inj (hb.symm.trans hb')
      exact sameKey_iff.2 (.inl ⟨m, ha, hc⟩)
    · cases hb
  · rcases sameKey_iff.1 hbc with ⟨n, hb, -⟩ | ⟨_, cs, hbs, rfl, hbc⟩
    · cases hb
    · cases hbs
      exact sameKey_iff.2 (.inr ⟨as, cs, rfl, rfl, sameKeys_trans hab hbc⟩)

theorem sameKeys_trans : ∀ {as bs cs : List Value},
    sameKeys as bs = true → sameKeys bs cs = true → sameKeys as cs = true
  | [], [], [], _, _ => rfl
  | a :: as, b :: bs, c :: cs, hab, hbc => by
      rw [sameKeys, Bool.and_eq_true] at hab hbc ⊢
      exact ⟨sameKey_trans hab.1 hbc.1, sameKeys_trans hab.2 hbc.2⟩

end

theorem sameKey_comm (a b : Value) : sameKey a b = sameKey b a :=
  Bool.eq_iff_iff.2 ⟨sameKey_symm, sameKey_symm⟩

theorem sameKey_left_congr (h : sameKey a b = true) : sameKey c a = sameKey c b := by
  rw [Bool.eq_iff_iff]
  exact ⟨fun hca => sameKey_trans hca h, fun hcb => sameKey_trans hcb (sameKey_symm h)⟩

end Keys

/-! ## Looking keys up -/

theorem lookup_congr (h : sameKey key key' = true) (es : List (Value × Value)) :
    lookup key es = lookup key' es := by
  induction es with
  | nil => rfl
  | cons first rest ih => rw [lookup, lookup, sameKey_left_congr h, ih]

theorem lookup_eq_none_iff : lookup key es = none ↔ ∀ e ∈ es, sameKey e.1 key = false := by
  induction es with
  | nil => simp [lookup]
  | cons first rest ih =>
      rw [lookup, List.forall_mem_cons, ← ih]
      cases sameKey first.1 key <;> simp

/-- Inserting under a key changes what stands there, and nothing else. -/
theorem lookup_insertEntry_key (key key' v : Value) (es : List (Value × Value)) :
    lookup key' (insertEntry key v es) = if sameKey key key' then some v else lookup key' es := by
  induction es with
  | nil => rfl
  | cons first rest ih =>
      obtain ⟨k, old⟩ := first
      rw [insertEntry]
      split
      next hsame =>
        -- The key that was there already stands for the new one.
        have hkey : sameKey k key' = sameKey key key' := by
          rw [Bool.eq_iff_iff]
          exact ⟨sameKey_trans (sameKey_symm hsame), sameKey_trans hsame⟩
        rw [lookup, lookup, hkey]
        split <;> rfl
      next hother =>
        rw [lookup, lookup, ih]
        cases hk : sameKey k key' with
        | false => rfl
        | true =>
            have hkey : sameKey key key' ≠ true :=
              fun h => hother (sameKey_trans hk (sameKey_symm h))
            simp [hkey]

/-! ## Keys that are texts -/

theorem atom?_eq_text_iff {key : Value} :
    key.atom? = some (.text name) ↔ key = .text name := by
  cases key <;> simp [atom?]

theorem sameKey_text_iff {key : Value} : sameKey key (.text name) = true ↔ key = .text name := by
  rw [sameKey_iff, ← atom?_eq_text_iff]
  simp [atom?]

theorem lookup_cons_self (name : String) (v : Value) (es : List (Value × Value)) :
    lookup (.text name) ((.text name, v) :: es) = some v := by
  rw [lookup, if_pos (sameKey_text_iff.2 rfl)]

theorem lookup_cons_of_ne {key : Value} (h : key ≠ .text name) (v : Value)
    (es : List (Value × Value)) :
    lookup (.text name) ((key, v) :: es) = lookup (.text name) es := by
  rw [lookup, if_neg fun hsame => h (sameKey_text_iff.1 hsame)]

/-- Inserting under a name changes what stands there, and nothing else. -/
theorem lookup_insertEntry (name name' : String) (v : Value) (es : List (Value × Value)) :
    lookup (.text name') (insertEntry (.text name) v es) =
      if name = name' then some v else lookup (.text name') es := by
  simp only [lookup_insertEntry_key, sameKey_text_iff, text.injEq]

/-- An entry of a mapping can be found. -/
theorem isSome_lookup_of_mem (h : (.text name, v) ∈ es) : (lookup (.text name) es).isSome := by
  induction es with
  | nil => cases h
  | cons first rest ih =>
      obtain ⟨key, old⟩ := first
      by_cases hkey : key = .text name
      · rw [hkey, lookup_cons_self]
        rfl
      · rw [lookup_cons_of_ne hkey]
        rcases List.mem_cons.1 h with heq | h
        · exact absurd (congrArg Prod.fst heq).symm hkey
        · exact ih h

theorem mem_of_lookup (h : lookup (.text name) es = some v) : (.text name, v) ∈ es := by
  induction es with
  | nil => cases h
  | cons first rest ih =>
      obtain ⟨key, old⟩ := first
      by_cases hkey : key = .text name
      · rw [hkey, lookup_cons_self] at h
        obtain rfl := Option.some.inj h
        exact hkey ▸ List.mem_cons_self
      · rw [lookup_cons_of_ne hkey] at h
        exact List.mem_cons_of_mem _ (ih h)

/-- What is not looked for under a name does not change when something is inserted there. -/
theorem filterMap_insertEntry {α : Type} {f : Value × Value → Option α}
    (h : ∀ v, f (.text name, v) = none) (v : Value) (es : List (Value × Value)) :
    (insertEntry (.text name) v es).filterMap f = es.filterMap f := by
  induction es with
  | nil => rw [insertEntry, List.filterMap_cons_none (h v)]
  | cons first rest ih =>
      obtain ⟨key, old⟩ := first
      rw [insertEntry]
      split
      next hsame =>
        obtain rfl := sameKey_text_iff.1 hsame
        rw [List.filterMap_cons_none (h v), List.filterMap_cons_none (h old)]
      next => rw [List.filterMap_cons, List.filterMap_cons, ih]

theorem mem_insertEntry {entry : Value × Value} (h : entry ∈ insertEntry (.text name) v es) :
    entry.1 = .text name ∨ entry ∈ es := by
  induction es with
  | nil => exact .inl (congrArg Prod.fst (List.mem_singleton.1 h))
  | cons first rest ih =>
      obtain ⟨key, old⟩ := first
      rw [insertEntry] at h
      split at h
      next hsame =>
        rcases List.mem_cons.1 h with rfl | h
        · exact .inl (sameKey_text_iff.1 hsame)
        · exact .inr (List.mem_cons_of_mem _ h)
      next =>
        rcases List.mem_cons.1 h with rfl | h
        · exact .inr List.mem_cons_self
        · exact (ih h).imp_right (List.mem_cons_of_mem _)

theorem mem_insertEntry_of_ne {entry : Value × Value} (hne : entry.1 ≠ .text name)
    (h : entry ∈ es) : entry ∈ insertEntry (.text name) v es := by
  induction es with
  | nil => cases h
  | cons first rest ih =>
      obtain ⟨key, old⟩ := first
      rw [insertEntry]
      split
      next hsame =>
        rcases List.mem_cons.1 h with rfl | h
        · exact absurd (sameKey_text_iff.1 hsame) hne
        · exact List.mem_cons_of_mem _ h
      next =>
        rcases List.mem_cons.1 h with rfl | h
        · exact List.mem_cons_self
        · exact List.mem_cons_of_mem _ (ih h)

theorem mergeEntries_append (base above above' : List (Value × Value)) :
    mergeEntries base (above ++ above') = mergeEntries (mergeEntries base above) above' := by
  induction above generalizing base with
  | nil => rw [List.nil_append, mergeEntries]
  | cons first rest ih =>
      obtain ⟨key, value⟩ := first
      rw [List.cons_append, mergeEntries, mergeEntries, ih]

theorem mergeEntries_singleton (base : List (Value × Value)) (key value : Value) :
    mergeEntries base [(key, value)] = insertEntry key (mergeOver (lookup key base) value) base := by
  rw [mergeEntries, mergeEntries]

end Continuity.Value

/-! ## Entries in order

Entries are found again under their names, those of the shared state too.
-/

namespace Continuity.SharedState

variable {α : Type}

theorem lookup_entry (key k : String) (entry : α) (entries : List (String × α)) :
    List.lookup key ((k, entry) :: entries) =
      if key = k then some entry else entries.lookup key := by
  rw [List.lookup_cons]
  by_cases h : key = k
  · rw [if_pos h, beq_iff_eq.2 h]
  · rw [if_neg h, beq_eq_false_iff_ne.2 h]

/-- What is written can be found, and nothing else changes. -/
theorem lookup_write (key key' : String) (entry : α) (entries : List (String × α)) :
    (write key entry entries).lookup key' =
      if key' = key then some entry else entries.lookup key' := by
  induction entries with
  | nil =>
      rw [write, lookup_entry, List.lookup_nil]
  | cons first rest ih =>
      obtain ⟨k, e⟩ := first
      rw [write]
      split
      next hk =>
        obtain rfl := beq_iff_eq.1 hk
        rw [lookup_entry, lookup_entry]
        by_cases hkey : key' = k
        · rw [if_pos hkey, if_pos hkey]
        · rw [if_neg hkey, if_neg hkey, if_neg hkey]
      next hk =>
        rw [lookup_entry, lookup_entry, ih]
        by_cases hkey : key' = k
        · rw [if_pos hkey, if_pos hkey, if_neg (hkey ▸ fun h => hk (beq_iff_eq.2 h))]
        · rw [if_neg hkey, if_neg hkey]

end Continuity.SharedState

namespace Continuity.Entries

variable {α : Type}

/-- The changed entry can be found, and nothing else changes. -/
theorem lookup_modify (name name' : String) (absent : α) (f : α → α)
    (entries : List (String × α)) :
    (modify name absent f entries).lookup name' =
      if name' = name then some (f ((entries.lookup name).getD absent))
      else entries.lookup name' := by
  induction entries with
  | nil => simp [modify, SharedState.lookup_entry]
  | cons first rest ih =>
      obtain ⟨n, b⟩ := first
      rw [modify]
      by_cases hn : n = name
      · subst hn
        by_cases hname : name' = n <;> simp [SharedState.lookup_entry, hname]
      · rw [if_neg (by simpa using hn), SharedState.lookup_entry, ih, SharedState.lookup_entry,
          SharedState.lookup_entry, if_neg (Ne.symm hn)]
        by_cases hname : name' = n
        · simp [hname, hn]
        · simp [hname]

/-- Leaving a name out does not hide other names. -/
theorem lookup_filter_of_ne {name name' : String} (h : name' ≠ name)
    (entries : List (String × α)) :
    (entries.filter (·.1 != name)).lookup name' = entries.lookup name' := by
  induction entries with
  | nil => rfl
  | cons first rest ih =>
      obtain ⟨n, b⟩ := first
      by_cases hn : n = name
      · subst hn
        rw [List.filter_cons_of_neg (by simp), ih, SharedState.lookup_entry, if_neg h]
      · rw [List.filter_cons_of_pos (by simpa using hn), SharedState.lookup_entry, ih,
          SharedState.lookup_entry]

/-- One more for a name is one more altogether. -/
theorem sum_modify_succ (name : String) (entries : List (String × Nat)) :
    ((modify name 0 (· + 1) entries).map (·.2)).sum = (entries.map (·.2)).sum + 1 := by
  induction entries with
  | nil => rfl
  | cons first rest ih =>
      obtain ⟨n, count⟩ := first
      rw [modify]
      split
      · simp only [List.map_cons, List.sum_cons]
        omega
      · simp only [List.map_cons, List.sum_cons, ih]
        omega

end Continuity.Entries
