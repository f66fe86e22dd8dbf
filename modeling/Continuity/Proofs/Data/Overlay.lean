import Mathlib.Data.List.Basic
import Continuity.Proofs.Data.Merge

/-! # Mappings laid over one another

What is laid over a mapping counts wherever it has something other than a mapping. Where it has
nothing, the mapping below shows through, at any depth. Keys keep their places, and new ones come
last. Laying the same mapping over once more changes nothing.
-/

namespace Continuity.Value

variable {key v : Value} {base upper es : List (Value × Value)}

/-! ## One level -/

/-- No two entries have the same key. -/
def DistinctKeys (es : List (Value × Value)) : Prop :=
  es.Pairwise fun e e' => sameKey e.1 e'.1 = false

instance (es : List (Value × Value)) : Decidable (DistinctKeys es) :=
  inferInstanceAs (Decidable (es.Pairwise fun e e' => sameKey e.1 e'.1 = false))

/-- In all mappings that are reached through mappings, a key is the same as itself and as no other
key. -/
inductive IsWellKeyed : Value → Prop where
  | map {es : List (Value × Value)} (distinct : DistinctKeys es)
    (selfsame : ∀ e ∈ es, sameKey e.1 e.1 = true) (below : ∀ e ∈ es, IsWellKeyed e.2) :
    IsWellKeyed (.map es)
  | other {v : Value} (h : v.isMap = false) : IsWellKeyed v

theorem isWellKeyed_map_iff : IsWellKeyed (.map es) ↔
    DistinctKeys es ∧ ∀ e ∈ es, sameKey e.1 e.1 = true ∧ IsWellKeyed e.2 := by
  constructor
  · rintro (⟨distinct, selfsame, below⟩ | ⟨⟨⟩⟩)
    exact ⟨distinct, fun e he => ⟨selfsame e he, below e he⟩⟩
  · rintro ⟨distinct, h⟩
    exact .map distinct (fun e he => (h e he).1) fun e he => (h e he).2

theorem IsWellKeyed.distinct (h : IsWellKeyed (.map es)) : DistinctKeys es :=
  (isWellKeyed_map_iff.1 h).1

theorem lookup_of_mem (hdistinct : DistinctKeys es) (hself : ∀ e ∈ es, sameKey e.1 e.1 = true)
    {e : Value × Value} (he : e ∈ es) : lookup e.1 es = some e.2 := by
  induction es with
  | nil => cases he
  | cons first rest ih =>
      obtain ⟨hfirst, hrest⟩ := List.pairwise_cons.1 hdistinct
      rcases List.mem_cons.1 he with rfl | he
      · rw [lookup, if_pos (hself _ List.mem_cons_self)]
      · rw [lookup, if_neg (by simp [hfirst e he])]
        exact ih hrest (fun e he => hself e (List.mem_cons_of_mem _ he)) he

theorem exists_of_lookup (h : lookup key es = some v) : ∃ e ∈ es, e.2 = v := by
  induction es with
  | nil => cases h
  | cons first rest ih =>
      rw [lookup] at h
      split at h
      next => exact ⟨first, List.mem_cons_self, Option.some.inj h⟩
      next =>
        obtain ⟨e, he, hv⟩ := ih h
        exact ⟨e, List.mem_cons_of_mem _ he, hv⟩

theorem insertEntry_of_lookup (h : lookup key es = some v) : insertEntry key v es = es := by
  induction es with
  | nil => cases h
  | cons first rest ih =>
      obtain ⟨k, old⟩ := first
      rw [lookup] at h
      rw [insertEntry]
      split at h
      next hsame =>
        obtain rfl := Option.some.inj h
        rw [if_pos hsame]
      next hother => rw [if_neg hother, ih h]

theorem insertEntry_of_lookup_eq_none (h : lookup key es = none) (v : Value) :
    insertEntry key v es = es ++ [(key, v)] := by
  induction es with
  | nil => rfl
  | cons first rest ih =>
      obtain ⟨k, old⟩ := first
      rw [lookup] at h
      rw [insertEntry]
      split at h
      next => cases h
      next hother => rw [if_neg hother, ih h, List.cons_append]

theorem keys_insertEntry (key v : Value) (es : List (Value × Value)) :
    (insertEntry key v es).map (·.1) =
      es.map (·.1) ++ if (lookup key es).isNone then [key] else [] := by
  induction es with
  | nil => rfl
  | cons first rest ih =>
      obtain ⟨k, old⟩ := first
      rw [insertEntry, lookup]
      split
      next => simp
      next => rw [List.map_cons, ih, List.map_cons, List.cons_append]

theorem mergeOver_none (v : Value) : mergeOver none v = v := by
  cases v <;> simp [mergeOver]

theorem mergeOver_of_not_isMap (h : v.isMap = false) (x : Option Value) : mergeOver x v = v := by
  cases v <;> simp_all [mergeOver, isMap]

/-- Under a key, the merged mapping has what is laid over what was there. -/
theorem lookup_mergeEntries (hdistinct : DistinctKeys upper) (key : Value)
    (base : List (Value × Value)) :
    lookup key (mergeEntries base upper) =
      match lookup key upper with
      | some v => some (mergeOver (lookup key base) v)
      | none => lookup key base := by
  induction upper generalizing base with
  | nil => rw [mergeEntries, lookup]
  | cons first rest ih =>
      obtain ⟨k, v⟩ := first
      obtain ⟨hfirst, hrest⟩ := List.pairwise_cons.1 hdistinct
      rw [mergeEntries, ih hrest, lookup_insertEntry_key, lookup]
      cases hk : sameKey k key with
      | false => rfl
      | true =>
          -- The key stands for the first one, so none of the others is the same.
          have hnone : lookup key rest = none := by
            rw [← lookup_congr hk]
            exact lookup_eq_none_iff.2 fun e he => (sameKey_comm e.1 k).trans (hfirst e he)
          rw [hnone, lookup_congr hk]
          rfl

/-- The keys of the mapping below come first, then the new keys of the one above. -/
theorem keys_mergeEntries (hdistinct : DistinctKeys upper) (base : List (Value × Value)) :
    (mergeEntries base upper).map (·.1) =
      base.map (·.1) ++ (upper.map (·.1)).filter fun key => (lookup key base).isNone := by
  induction upper generalizing base with
  | nil => simp [mergeEntries]
  | cons first rest ih =>
      obtain ⟨k, v⟩ := first
      obtain ⟨hfirst, hrest⟩ := List.pairwise_cons.1 hdistinct
      -- What is inserted under the first key is new to none of the other keys.
      have hnew : (rest.map (·.1)).filter (fun key =>
            (lookup key (insertEntry k (mergeOver (lookup k base) v) base)).isNone) =
          (rest.map (·.1)).filter fun key => (lookup key base).isNone := by
        refine List.filter_congr fun key hkey => ?_
        obtain ⟨e, he, rfl⟩ := List.mem_map.1 hkey
        rw [lookup_insertEntry_key, hfirst e he]
        rfl
      rw [mergeEntries, ih hrest, keys_insertEntry, hnew, List.append_assoc, List.map_cons,
        List.filter_cons]
      split <;> rfl

theorem mergeEntries_eq_append (hdistinct : DistinctKeys upper)
    (hnew : ∀ e ∈ upper, lookup e.1 base = none) : mergeEntries base upper = base ++ upper := by
  induction upper generalizing base with
  | nil => rw [mergeEntries, List.append_nil]
  | cons first rest ih =>
      obtain ⟨k, v⟩ := first
      obtain ⟨hfirst, hrest⟩ := List.pairwise_cons.1 hdistinct
      have hk : lookup k base = none := hnew _ List.mem_cons_self
      rw [mergeEntries, hk, mergeOver_none, ih hrest, insertEntry_of_lookup_eq_none hk,
        List.append_assoc, List.singleton_append]
      intro e he
      rw [lookup_insertEntry_key, hfirst e he]
      exact hnew e (List.mem_cons_of_mem _ he)

theorem mergeEntries_nil_left (hdistinct : DistinctKeys upper) : mergeEntries [] upper = upper :=
  mergeEntries_eq_append hdistinct fun _ _ => rfl

/-- What is there already changes nothing when it is laid over. -/
theorem mergeEntries_eq_self
    (h : ∀ e ∈ upper, ∃ v, lookup e.1 base = some v ∧ mergeOver (some v) e.2 = v) :
    mergeEntries base upper = base := by
  induction upper with
  | nil => rw [mergeEntries]
  | cons first rest ih =>
      obtain ⟨v, hv, hmerge⟩ := h _ List.mem_cons_self
      rw [mergeEntries, hv, hmerge, insertEntry_of_lookup hv]
      exact ih fun e he => h e (List.mem_cons_of_mem _ he)

/-! ## All levels -/

/-- Laying a value over something once more changes nothing. -/
theorem mergeOver_mergeOver (h : IsWellKeyed v) (x : Option Value) :
    mergeOver (some (mergeOver x v)) v = mergeOver x v := by
  induction h generalizing x with
  | other h => rw [mergeOver_of_not_isMap h, mergeOver_of_not_isMap h]
  | @map es distinct selfsame below ih =>
      have hself : mergeEntries es es = es := by
        refine mergeEntries_eq_self fun e he => ?_
        refine ⟨e.2, lookup_of_mem distinct selfsame he, ?_⟩
        simpa only [mergeOver_none] using ih e he none
      have hagain (base : List (Value × Value)) :
          mergeEntries (mergeEntries base es) es = mergeEntries base es := by
        refine mergeEntries_eq_self fun e he => ?_
        refine ⟨mergeOver (lookup e.1 base) e.2, ?_, ih e he _⟩
        rw [lookup_mergeEntries distinct, lookup_of_mem distinct selfsame he]
      cases x with
      | none => simp only [mergeOver, hself]
      | some base => cases base <;> simp only [mergeOver, hself, hagain]

/-- What stands under a key of a mapping. -/
def under? : Value → Value → Option Value
  | .map es, key => lookup key es
  | _, _ => none

/-- What keys lead to through mappings. -/
def at? (v : Value) : List Value → Option Value
  | [] => some v
  | key :: rest => (v.under? key).bind fun below => below.at? rest

variable {below above w : Value} {path : List Value}

theorem isMap_of_under? (h : v.under? key = some w) : v.isMap = true := by
  cases v with
  | map es => rfl
  | _ => cases h

theorem IsWellKeyed.under? (h : IsWellKeyed v) (hw : v.under? key = some w) : IsWellKeyed w := by
  cases h with
  | other h => cases h.symm.trans (isMap_of_under? hw)
  | @map es distinct selfsame below =>
      obtain ⟨e, he, rfl⟩ := exists_of_lookup hw
      exact below e he

theorem IsWellKeyed.at? (h : IsWellKeyed v) (hw : v.at? path = some w) : IsWellKeyed w := by
  induction path generalizing v with
  | nil => exact Option.some.inj hw ▸ h
  | cons key rest ih =>
      obtain ⟨u, hu, hw⟩ := Option.bind_eq_some_iff.1 hw
      exact ih (h.under? hu) hw

/-- Under a key, a value laid over another one has what it had itself over what the other had, or
just the latter. -/
theorem under?_mergeOver (h : IsWellKeyed above) (hmap : above.isMap = true) (x : Option Value)
    (key : Value) : (mergeOver x above).under? key =
      match above.under? key with
      | some v => some (mergeOver (x.bind (·.under? key)) v)
      | none => x.bind (·.under? key) := by
  cases h with
  | other h => cases hmap.symm.trans h
  | @map es distinct selfsame below =>
      -- Over anything but a mapping, the mapping above stands alone.
      have halone : lookup key es = match lookup key es with
          | some v => some (mergeOver none v)
          | none => none := by
        cases lookup key es with
        | none => rfl
        | some v => exact congrArg some (mergeOver_none v).symm
      cases x with
      | none => exact halone
      | some base =>
          cases base with
          | map bs => exact lookup_mergeEntries distinct key bs
          | _ => exact halone

/-- Anything but a mapping counts where it is laid over something. -/
theorem at?_mergeOver_of_not_isMap (h : IsWellKeyed above) (hv : above.at? path = some v)
    (hmap : v.isMap = false) (x : Option Value) : (mergeOver x above).at? path = some v := by
  induction path generalizing above x with
  | nil =>
      obtain rfl := Option.some.inj hv
      rw [mergeOver_of_not_isMap hmap, at?]
  | cons key rest ih =>
      obtain ⟨u, hu, hv⟩ := Option.bind_eq_some_iff.1 hv
      rw [at?, under?_mergeOver h (isMap_of_under? hu), hu]
      exact ih (h.under? hu) hv _

/-- Where nothing is laid over it, and nothing but mappings on the way, what was there shows
through. -/
theorem at?_mergeOver_of_none (h : IsWellKeyed above) (hnone : above.at? path = none)
    (hway : ∀ front back, path = front ++ back → back ≠ [] →
      ∀ v, above.at? front = some v → v.isMap = true) (x : Option Value) :
    (mergeOver x above).at? path = x.bind (·.at? path) := by
  induction path generalizing above x with
  | nil => cases hnone
  | cons key rest ih =>
      have habove : above.isMap = true :=
        hway [] (key :: rest) rfl (List.cons_ne_nil _ _) above rfl
      simp only [at?] at hnone ⊢
      rw [under?_mergeOver h habove, ← Option.bind_assoc]
      cases hu : above.under? key with
      | none => rfl
      | some u =>
          rw [hu, Option.bind_some] at hnone
          refine ih (h.under? hu) hnone ?_ _
          intro front back hpath hback v hv
          refine hway (key :: front) back (by rw [hpath, List.cons_append]) hback v ?_
          rw [at?, hu, Option.bind_some, hv]

/-- Mappings that the same keys lead to are merged. -/
theorem at?_mergeOver_of_maps (h : IsWellKeyed above) {bs os : List (Value × Value)}
    (hbelow : below.at? path = some (.map bs)) (habove : above.at? path = some (.map os)) :
    (mergeOver (some below) above).at? path = some (.map (mergeEntries bs os)) := by
  induction path generalizing below above with
  | nil =>
      obtain rfl := Option.some.inj hbelow
      obtain rfl := Option.some.inj habove
      rw [mergeOver, at?]
  | cons key rest ih =>
      obtain ⟨u, hu, habove⟩ := Option.bind_eq_some_iff.1 habove
      obtain ⟨b, hb, hbelow⟩ := Option.bind_eq_some_iff.1 hbelow
      rw [at?, under?_mergeOver h (isMap_of_under? hu), hu, Option.bind_some, Option.bind_some, hb]
      exact ih (h.under? hu) hbelow habove

/-- A merged mapping follows the paths of the mapping laid over the other one. Where that has
anything but a mapping, so has the merged one; where it has nothing, and nothing but mappings on
the way, the mapping below shows through; where both have a mapping, the keys of the one below come
first and then the new ones. An empty mapping changes nothing on either side, and neither does
laying the same one over once more. -/
theorem merge_follows_paths (base : List (Value × Value)) (h : IsWellKeyed (.map upper)) :
    (∀ path v, (map upper).at? path = some v → v.isMap = false →
      (map (mergeEntries base upper)).at? path = some v) ∧
    (∀ path, (map upper).at? path = none →
      (∀ front back, path = front ++ back → back ≠ [] →
        ∀ v, (map upper).at? front = some v → v.isMap = true) →
      (map (mergeEntries base upper)).at? path = (map base).at? path) ∧
    (∀ path below above, (map base).at? path = some (.map below) →
      (map upper).at? path = some (.map above) →
      ∃ both, (map (mergeEntries base upper)).at? path = some (.map both) ∧
        both.map (·.1) =
          below.map (·.1) ++ (above.map (·.1)).filter fun key => (lookup key below).isNone) ∧
    mergeEntries base [] = base ∧ mergeEntries [] upper = upper ∧
    mergeEntries (mergeEntries base upper) upper = mergeEntries base upper := by
  have hmerge : map (mergeEntries base upper) = mergeOver (some (.map base)) (.map upper) := by
    rw [mergeOver]
  refine ⟨?_, ?_, ?_, ?_, ?_, ?_⟩
  · intro path v hv hmap
    rw [hmerge]
    exact at?_mergeOver_of_not_isMap h hv hmap _
  · intro path hnone hway
    rw [hmerge]
    exact at?_mergeOver_of_none h hnone hway _
  · intro path below above hbelow habove
    rw [hmerge]
    refine ⟨_, at?_mergeOver_of_maps h hbelow habove, ?_⟩
    exact keys_mergeEntries (h.at? habove).distinct below
  · rw [mergeEntries]
  · exact mergeEntries_nil_left h.distinct
  · have hagain := mergeOver_mergeOver h (some (.map base))
    simpa only [mergeOver, Value.map.injEq] using hagain

/-- Settings with a number for a key. -/
def lowerSettings : List (Value × Value) :=
  [(.text "links", .map [(.text "strict", .bool false), (.int 1, .text "one")]),
    (.text "level", .int 3)]

/-- Settings that are laid over them: the truth value is the same key as the number. -/
def upperSettings : List (Value × Value) :=
  [(.text "links",
      .map [(.bool true, .map [(.text "name", .text "uno")]), (.text "roots", .list [])]),
    (.text "level", .map [])]

theorem upperSettings_followed :
    IsWellKeyed (.map upperSettings) ∧
    (map (mergeEntries lowerSettings upperSettings)).at? [.text "links", .int 1, .text "name"] =
      some (.text "uno") ∧
    (map (mergeEntries lowerSettings upperSettings)).at? [.text "links", .text "strict"] =
      some (.bool false) ∧
    (∃ both, (map (mergeEntries lowerSettings upperSettings)).at? [.text "links"] =
        some (.map both) ∧
      both.map (·.1) = [.text "strict", .int 1, .text "roots"]) ∧
    mergeEntries (mergeEntries lowerSettings upperSettings) upperSettings =
      mergeEntries lowerSettings upperSettings := by
  have hname : IsWellKeyed (.map [(.text "name", .text "uno")]) :=
    isWellKeyed_map_iff.2 ⟨by decide, List.forall_mem_singleton.2 ⟨by decide, .other rfl⟩⟩
  have hlinks : IsWellKeyed (.map [(.bool true, .map [(.text "name", .text "uno")]),
      (.text "roots", .list [])]) :=
    isWellKeyed_map_iff.2 ⟨by decide, List.forall_mem_cons.2 ⟨⟨by decide, hname⟩,
      List.forall_mem_singleton.2 ⟨by decide, .other rfl⟩⟩⟩
  have hkeyed : IsWellKeyed (.map upperSettings) :=
    isWellKeyed_map_iff.2 ⟨by decide, List.forall_mem_cons.2 ⟨⟨by decide, hlinks⟩,
      List.forall_mem_singleton.2 ⟨by decide, .map .nil nofun nofun⟩⟩⟩
  obtain ⟨hover, hthrough, hkeys, -, -, hagain⟩ := merge_follows_paths lowerSettings hkeyed
  refine ⟨hkeyed, ?_, ?_, ?_, hagain⟩
  · exact hover _ _ (by rfl) rfl
  · refine hthrough [.text "links", .text "strict"] rfl ?_
    intro front back hpath hback v hv
    rcases front with _ | ⟨first, _ | ⟨second, front⟩⟩
    · obtain rfl := Option.some.inj hv
      rfl
    · obtain ⟨rfl, -⟩ := List.cons.inj hpath
      obtain rfl := Option.some.inj hv
      rfl
    · simp_all
  · exact hkeys [.text "links"] _ _ rfl rfl

end Continuity.Value
