import Continuity.Data.JsonValue
import Continuity.Data.Schema
import Mathlib.Data.List.Basic
import Continuity.Proofs.Data.Merge

/-! # When a record can be read

A record can be read if each of its fields can, and if all else in the mapping is known or may be
kept. Where the fields go by one name each, an entry under such a name concerns that field alone.
What a document tells of a record under the preferred names of its fields is read back as it was.
-/

namespace Continuity.Schema

variable {α β : Type}

namespace Reading

theorem map_eq_ok_iff {f : α → β} {r : Reading α} {b : β} :
    f <$> r = .ok b ↔ ∃ a, r = .ok a ∧ f a = b := by
  cases r with
  | ok a => exact ⟨fun h => ⟨a, rfl, ok.inj h⟩, fun ⟨_, ha, hb⟩ => by rw [← hb, ← ok.inj ha]; rfl⟩
  | bad ps => exact ⟨nofun, nofun⟩

theorem seq_eq_ok_iff {f : Reading (α → β)} {r : Reading α} {b : β} :
    f <*> r = .ok b ↔ ∃ g a, f = .ok g ∧ r = .ok a ∧ g a = b := by
  cases f with
  | ok g => exact map_eq_ok_iff.trans ⟨fun ⟨a, ha, hb⟩ => ⟨g, a, rfl, ha, hb⟩,
      fun ⟨_, a, hg, ha, hb⟩ => ⟨a, ha, ok.inj hg ▸ hb⟩⟩
  | bad ps => exact ⟨nofun, nofun⟩

theorem inside_eq_ok_iff {r : Reading α} {step : Step} {a : α} :
    r.inside step = .ok a ↔ r = .ok a := by
  cases r with
  | ok => exact Iff.rfl
  | bad => exact ⟨nofun, nofun⟩

theorem inside_bad (ps : List Problem) (step : Step) : (bad ps : Reading α).inside step =
    .bad (ps.map fun p => { p with place := step :: p.place }) := rfl

theorem exists_of_all_eq_ok {rs : List (Reading α)} {as : List α} (h : all rs = .ok as) :
    ∀ r ∈ rs, ∃ a, r = .ok a := by
  induction rs generalizing as with
  | nil => exact List.forall_mem_nil _
  | cons r rest ih =>
      obtain ⟨g, later, hfirst, hrest, -⟩ := seq_eq_ok_iff.1 h
      obtain ⟨a, ha, -⟩ := map_eq_ok_iff.1 hfirst
      exact List.forall_mem_cons.2 ⟨⟨a, ha⟩, ih hrest⟩

theorem problems_all {rs : List (Reading α)} {p : Problem} (h : ∀ r ∈ rs, r = .bad [p]) :
    (all rs).problems = List.replicate rs.length p := by
  induction rs with
  | nil => rfl
  | cons r rest ih =>
      obtain ⟨rfl, hrest⟩ := List.forall_mem_cons.1 h
      rw [List.length_cons, List.replicate_succ, ← ih hrest]
      rfl

/-- Readings that all have the same problem have it together, once for each. -/
theorem all_eq_bad {rs : List (Reading α)} {p : Problem} (h : ∀ r ∈ rs, r = .bad [p])
    (hne : rs ≠ []) : all rs = .bad (List.replicate rs.length p) := by
  rw [← problems_all h]
  cases hall : all rs with
  | ok as =>
      obtain ⟨r, hr⟩ := List.exists_mem_of_ne_nil rs hne
      obtain ⟨a, ha⟩ := exists_of_all_eq_ok hall r hr
      cases (h r hr).symm.trans ha
  | bad ps => rfl

end Reading

open Value (lookup insertEntry)

variable {names : Names} {unknown : Unknown} {es : List (Value × Value)} {field other : String}

/-- What is not owned is refused. -/
theorem readExtra_refused (owned : String → Bool) (entry : Value × Value) :
    readExtra owned .refused entry = none ∧ (∃ name, entry.1 = .text name ∧ owned name = true) ∨
      ∃ p, readExtra owned .refused entry = some (.bad [p]) := by
  obtain ⟨key, v⟩ := entry
  cases key with
  | text name =>
      cases hname : owned name with
      | true => exact .inl ⟨if_pos hname, name, rfl, hname⟩
      | false => exact .inr ⟨_, by rw [readExtra, hname]; rfl⟩
  | _ => exact .inr ⟨_, rfl⟩

theorem owned_of_extras {more : List (String × Value)}
    (h : names.extras .refused es = .ok more) :
    ∀ entry ∈ es, ∃ name, entry.1 = .text name ∧ names.owns es name = true := by
  intro entry hentry
  rcases readExtra_refused (names.owns es) entry with ⟨-, howned⟩ | ⟨p, hp⟩
  · exact howned
  · have hmem : Reading.bad [p] ∈ es.filterMap (readExtra (names.owns es) .refused) :=
      List.mem_filterMap.2 ⟨entry, hentry, hp⟩
    obtain ⟨a, ha⟩ := Reading.exists_of_all_eq_ok h _ hmem
    cases ha

theorem extras_of_owned
    (h : ∀ entry ∈ es, ∃ name, entry.1 = .text name ∧ names.owns es name = true) :
    names.extras .refused es = .ok [] := by
  have hnone : es.filterMap (readExtra (names.owns es) .refused) = [] := by
    refine List.filterMap_eq_nil_iff.2 fun (key, v) hentry => ?_
    obtain ⟨name, rfl, howned⟩ := h _ hentry
    exact if_pos howned
  rw [Names.extras, hnone]
  rfl

/-- Where all that is not owned goes by one name, each such entry is refused under that name. -/
theorem extras_eq_bad {extra : String} (hextra : names.owns es extra = false)
    (hkeys : ∀ entry ∈ es, entry.1 = .text extra ∨
      ∃ name, entry.1 = .text name ∧ names.owns es name = true)
    {v : Value} (hmem : (.text extra, v) ∈ es) : ∃ n,
      names.extras .refused es = .bad (List.replicate (n + 1) ⟨[.name extra], .unknownField⟩) := by
  have hread : ∀ v, readExtra (names.owns es) .refused (.text extra, v) =
      some (.bad [⟨[.name extra], .unknownField⟩]) := by
    intro v
    rw [readExtra, hextra]
    rfl
  have hbad : ∀ r ∈ es.filterMap (readExtra (names.owns es) .refused),
      r = .bad [⟨[.name extra], .unknownField⟩] := by
    intro r hr
    obtain ⟨⟨key, v⟩, hentry, hr⟩ := List.mem_filterMap.1 hr
    rcases hkeys _ hentry with hkey | ⟨name, hkey, howned⟩
    · obtain rfl : key = _ := hkey
      exact (Option.some.inj ((hread v).symm.trans hr)).symm
    · obtain rfl : key = _ := hkey
      rw [readExtra, if_pos howned] at hr
      cases hr
  have hne := List.ne_nil_of_mem (List.mem_filterMap.2 ⟨_, hmem, hread v⟩)
  obtain ⟨n, hn⟩ := Nat.exists_eq_succ_of_ne_zero (mt List.length_eq_zero_iff.1 hne)
  exact ⟨n, (Reading.all_eq_bad hbad hne).trans (by rw [hn])⟩

theorem record_eq_ok_iff {build : List (Value × Value) → Reading α} {v : Value} {a : α}
    {more : List (String × Value)} : record names unknown build v = .ok (a, more) ↔
      ∃ es, v = .map es ∧ build es = .ok a ∧ names.extras unknown es = .ok more := by
  constructor
  · intro hrecord
    cases v with
    | map es =>
        obtain ⟨_, _, hpair, hmore, heq⟩ := Reading.seq_eq_ok_iff.1 hrecord
        obtain ⟨built, hbuilt, rfl⟩ := Reading.map_eq_ok_iff.1 hpair
        obtain ⟨rfl, rfl⟩ := Prod.mk.inj heq
        exact ⟨es, rfl, hbuilt, hmore⟩
    | _ => cases hrecord
  · rintro ⟨es, rfl, hbuilt, hmore⟩
    exact Reading.seq_eq_ok_iff.2 ⟨_, _, Reading.map_eq_ok_iff.2 ⟨a, hbuilt, rfl⟩, hmore, rfl⟩

theorem fields_eq_ok_iff {build : List (Value × Value) → Reading α} {v : Value} {a : α} :
    fields names unknown build v = .ok a ↔
      ∃ es, v = .map es ∧ build es = .ok a ∧ ∃ more, names.extras unknown es = .ok more := by
  rw [fields, Reading.map_eq_ok_iff]
  constructor
  · rintro ⟨⟨a', more⟩, hrecord, rfl⟩
    obtain ⟨es, hes, hbuilt, hmore⟩ := record_eq_ok_iff.1 hrecord
    exact ⟨es, hes, hbuilt, more, hmore⟩
  · rintro ⟨es, hes, hbuilt, more, hmore⟩
    exact ⟨(a, more), record_eq_ok_iff.2 ⟨es, hes, hbuilt, hmore⟩, rfl⟩

namespace Names

/-- Each field goes by one name. -/
def Plain (names : Names) : Prop := ∀ field ∈ names.fields, names.preferred field = field

instance (names : Names) : Decidable names.Plain :=
  inferInstanceAs (Decidable (∀ field ∈ names.fields, _))

theorem find?_of_preferred (h : names.preferred field = field) (es : List (Value × Value)) :
    names.find? es field = (lookup (.text field) es).map (field, ·) := by
  rw [find?, h]
  cases lookup (.text field) es <;> rfl

theorem Plain.owns_iff (h : names.Plain) {key : String} :
    names.owns es key = true ↔ key ∈ names.fields ∧ (lookup (.text key) es).isSome = true := by
  rw [owns, List.any_eq_true]
  constructor
  · rintro ⟨field, hfield, hfound⟩
    rw [find?_of_preferred (h field hfield), Option.any_map, Option.any_eq_true_iff_get] at hfound
    obtain ⟨hsome, heq⟩ := hfound
    obtain rfl := eq_of_beq heq
    exact ⟨hfield, hsome⟩
  · rintro ⟨hkey, hsome⟩
    refine ⟨key, hkey, ?_⟩
    obtain ⟨v, hv⟩ := Option.isSome_iff_exists.1 hsome
    rw [find?_of_preferred (h key hkey), hv]
    exact beq_self_eq_true key

/-- What is no field is read from the entries under other names. -/
theorem Plain.extras_insertEntry (h : names.Plain) (hfield : field ∈ names.fields)
    (unknown : Unknown) (v : Value) (es : List (Value × Value)) :
    names.extras unknown (insertEntry (.text field) v es) = names.extras unknown es := by
  have hread : ∀ es : List (Value × Value), es.filterMap (readExtra (names.owns es) unknown) =
      es.filterMap (readExtra (names.fields.contains ·) unknown) := by
    intro es
    refine List.filterMap_congr fun (key, v) hmem => ?_
    cases key with
    | text name =>
        have howns : names.owns es name = names.fields.contains name := by
          rw [Bool.eq_iff_iff, h.owns_iff, List.contains_iff_mem]
          exact and_iff_left (Value.isSome_lookup_of_mem hmem)
        rw [readExtra, readExtra, howns]
    | _ => rfl
  rw [extras, extras, hread, hread, Value.filterMap_insertEntry]
  intro v
  exact if_pos (List.contains_iff_mem.2 hfield)

theorem fieldOr_insertEntry_self (h : names.preferred field = field) (v : Value)
    (es : List (Value × Value)) (read : Reader α) (absent : α) :
    names.fieldOr (insertEntry (.text field) v es) field read absent =
      (read v).inside (.name field) := by
  rw [fieldOr, find?_of_preferred h, Value.lookup_insertEntry, if_pos rfl]
  rfl

theorem fieldOr_insertEntry_of_ne (h : names.preferred other = other) (hne : field ≠ other)
    (v : Value) (es : List (Value × Value)) (read : Reader α) (absent : α) :
    names.fieldOr (insertEntry (.text field) v es) other read absent =
      names.fieldOr es other read absent := by
  rw [fieldOr, fieldOr, find?_of_preferred h, find?_of_preferred h, Value.lookup_insertEntry,
    if_neg hne]

end Names

/-! ## Records as documents -/

variable {read : Reader α} {write : α → Json}

/-- What is written of something is read back as that. -/
def Restores (read : Reader α) (write : α → Json) : Prop :=
  ∀ a, read (.ofJson (write a)) = .ok a

theorem restores_text : Restores text .text := fun _ => rfl

theorem restores_truth : Restores truth .bool := fun _ => rfl

theorem restores_whole : Restores whole .int := fun _ => rfl

theorem Restores.optional (h : Restores read write) (hnull : ∀ a, write a ≠ .null) :
    Restores (optional read) fun a => (a.map write).getD .null
  | none => rfl
  | some a => by
      have hread : some <$> read (.ofJson (write a)) = .ok (some a) := by
        rw [h a]
        rfl
      show Schema.optional read (.ofJson (write a)) = _
      cases hwrite : write a with
      | null => exact absurd hwrite (hnull a)
      | _ => rwa [hwrite] at hread

/-- The items of a sequence are read back in their order. -/
theorem Restores.items (h : Restores read write) (index : Nat) (as : List α) :
    items read index (Value.ofJsonItems (as.map write)) = .ok as := by
  induction as generalizing index with
  | nil => rfl
  | cons a as ih =>
      rw [List.map_cons, Value.ofJsonItems, Schema.items, h a, ih]
      rfl

theorem Restores.list (h : Restores read write) :
    Restores (list read) fun as => .list (as.map write) := h.items 0

theorem Restores.tuple (h : Restores read write) :
    Restores (tuple read) fun as => .list (as.map write) := h.items 0

theorem Restores.mapping (h : Restores read write) :
    Restores (mapping read) fun es => .object (es.map fun e => (e.1, write e.2)) := by
  intro es
  induction es with
  | nil => rfl
  | cons e es ih =>
      have hes : entries read (Value.ofJsonMembers (es.map fun e => (e.1, write e.2))) = .ok es :=
        ih
      have hname : text (.text e.1) = .ok e.1 := rfl
      show entries read ((.text e.1, .ofJson (write e.2)) :: _) = _
      rw [entries, hname, h e.2, hes]
      rfl

/-- A member of a document is found under its name. -/
theorem lookup_ofJsonMembers {members : List (String × Json)}
    (hnames : (members.map (·.1)).Nodup) {name : String} {j : Json} (hmem : (name, j) ∈ members) :
    lookup (.text name) (Value.ofJsonMembers members) = some (.ofJson j) := by
  induction members with
  | nil => cases hmem
  | cons m members ih =>
      obtain ⟨hnew, hnames⟩ := List.nodup_cons.1 hnames
      rw [Value.ofJsonMembers]
      rcases List.mem_cons.1 hmem with rfl | hmem
      · exact Value.lookup_cons_self _ _ _
      · have hne : Value.text m.1 ≠ .text name := by
          intro heq
          obtain rfl := Value.text.inj heq
          exact hnew (List.mem_map.2 ⟨_, hmem, rfl⟩)
        rw [Value.lookup_cons_of_ne hne, ih hnames hmem]

namespace Names

/-- A document has the fields of a record, each under its preferred name. -/
structure Written (names : Names) (members : List (String × Json)) : Prop where
  preferred : members.map (·.1) = names.fields.map names.preferred
  nodup : (names.fields.map names.preferred).Nodup

variable {members : List (String × Json)} {a : α}

theorem Written.find? (h : names.Written members) {j : Json}
    (hmem : (field, j) ∈ names.fields.zip (members.map (·.2))) :
    names.find? (Value.ofJsonMembers members) field =
      some (names.preferred field, .ofJson j) := by
  have hmember : (names.preferred field, j) ∈ members := by
    rw [List.zip_of_prod h.preferred rfl, List.zip_map_left]
    exact List.mem_map_of_mem (f := Prod.map names.preferred id) hmem
  rw [Names.find?, lookup_ofJsonMembers (h.preferred ▸ h.nodup) hmember]

theorem Written.required (h : names.Written members) (hread : Restores read write)
    (hmem : (field, write a) ∈ names.fields.zip (members.map (·.2))) :
    names.required (Value.ofJsonMembers members) field read = .ok a := by
  rw [Names.required, h.find? hmem]
  exact Reading.inside_eq_ok_iff.2 (hread a)

theorem Written.fieldOr (h : names.Written members) (hread : Restores read write)
    (hmem : (field, write a) ∈ names.fields.zip (members.map (·.2))) (absent : α) :
    names.fieldOr (Value.ofJsonMembers members) field read absent = .ok a := by
  rw [Names.fieldOr, h.find? hmem]
  exact Reading.inside_eq_ok_iff.2 (hread a)

end Names

end Continuity.Schema
