import Continuity.Config.Basic
import Continuity.Proofs.Data.Schema

/-! # Sections with a setting laid over them

A section whose settings go by one name each can still be read after one of them was laid over it,
and gives that one. The severity from which a run fails goes by two names: laid over a section that
gives it under the other one, it stands beside that one, and the section is refused.
-/

namespace Continuity

open Schema (Reading Reader Problem Names)
open Value (lookup insertEntry)

variable {es : List (Value × Value)}

/-! ## Sections -/

namespace OutputSettings

theorem plain_names : names.Plain := by decide +kernel

theorem read_eq_ok_iff {v : Value} {o : OutputSettings} : read v = .ok o ↔
    ∃ es, v = .map es ∧
      names.fieldOr es "format" (Schema.choice ReportFormat.choices) .text = .ok o.format ∧
      names.fieldOr es "color" Schema.truth true = .ok o.color ∧
      ∃ more, names.extras .refused es = .ok more := by
  rw [read, Schema.fields_eq_ok_iff]
  refine exists_congr fun es => and_congr_right fun _ => ?_
  rw [← and_assoc]
  refine and_congr_left fun _ => ?_
  rw [Reading.seq_eq_ok_iff]
  constructor
  · rintro ⟨g, color, hfront, hcolor, rfl⟩
    obtain ⟨format, hformat, rfl⟩ := Reading.map_eq_ok_iff.1 hfront
    exact ⟨hformat, hcolor⟩
  · rintro ⟨hformat, hcolor⟩
    exact ⟨_, _, Reading.map_eq_ok_iff.2 ⟨_, hformat, rfl⟩, hcolor, rfl⟩

theorem read_insert_format {o : OutputSettings} (h : read (.map es) = .ok o) (f : ReportFormat) :
    read (.map (insertEntry (.text "format") (.text f.name) es)) = .ok { o with format := f } := by
  obtain ⟨_, heq, -, hcolor, hmore⟩ := read_eq_ok_iff.1 h
  obtain rfl := Value.map.inj heq
  refine read_eq_ok_iff.2 ⟨_, rfl, ?_, ?_, ?_⟩
  · rw [Names.fieldOr_insertEntry_self (plain_names _ (by decide)), Reading.inside_eq_ok_iff]
    cases f <;> rfl
  · rwa [Names.fieldOr_insertEntry_of_ne (plain_names _ (by decide)) (by decide)]
  · rwa [plain_names.extras_insertEntry (by decide)]

theorem read_insert_color {o : OutputSettings} (h : read (.map es) = .ok o) (color : Bool) :
    read (.map (insertEntry (.text "color") (.bool color) es)) = .ok { o with color } := by
  obtain ⟨_, heq, hformat, -, hmore⟩ := read_eq_ok_iff.1 h
  obtain rfl := Value.map.inj heq
  refine read_eq_ok_iff.2 ⟨_, rfl, ?_, ?_, ?_⟩
  · rwa [Names.fieldOr_insertEntry_of_ne (plain_names _ (by decide)) (by decide)]
  · rw [Names.fieldOr_insertEntry_self (plain_names _ (by decide))]
    rfl
  · rwa [plain_names.extras_insertEntry (by decide)]

end OutputSettings

namespace ProjectSettings

theorem plain_names : names.Plain := by decide +kernel

theorem read_eq_ok_iff {v : Value} {p : ProjectSettings} : read v = .ok p ↔
    ∃ es, v = .map es ∧
      names.fieldOr es "root" Schema.path ({} : ProjectSettings).root = .ok p.root ∧
      names.fieldOr es "include" (Schema.list Schema.text) ({} : ProjectSettings).files.included =
        .ok p.files.included ∧
      names.fieldOr es "exclude" (Schema.list Schema.text) ({} : ProjectSettings).files.excluded =
        .ok p.files.excluded ∧
      ∃ more, names.extras .refused es = .ok more := by
  rw [read, Schema.fields_eq_ok_iff]
  refine exists_congr fun es => and_congr_right fun _ => ?_
  rw [← and_assoc, ← and_assoc]
  refine and_congr_left fun _ => ?_
  rw [Reading.seq_eq_ok_iff]
  constructor
  · rintro ⟨g, excluded, hpaths, hexcluded, rfl⟩
    obtain ⟨g, included, hfront, hincluded, rfl⟩ := Reading.seq_eq_ok_iff.1 hpaths
    obtain ⟨root, hroot, rfl⟩ := Reading.map_eq_ok_iff.1 hfront
    exact ⟨⟨hroot, hincluded⟩, hexcluded⟩
  · rintro ⟨⟨hroot, hincluded⟩, hexcluded⟩
    exact ⟨_, _, Reading.seq_eq_ok_iff.2
      ⟨_, _, Reading.map_eq_ok_iff.2 ⟨_, hroot, rfl⟩, hincluded, rfl⟩, hexcluded, rfl⟩

theorem read_insert_root {p : ProjectSettings} (h : read (.map es) = .ok p) (root : String) :
    read (.map (insertEntry (.text "root") (.text root) es)) =
      .ok { p with root := .ofString root } := by
  obtain ⟨_, heq, -, hincluded, hexcluded, hmore⟩ := read_eq_ok_iff.1 h
  obtain rfl := Value.map.inj heq
  refine read_eq_ok_iff.2 ⟨_, rfl, ?_, ?_, ?_, ?_⟩
  · rw [Names.fieldOr_insertEntry_self (plain_names _ (by decide))]
    rfl
  · rwa [Names.fieldOr_insertEntry_of_ne (plain_names _ (by decide)) (by decide)]
  · rwa [Names.fieldOr_insertEntry_of_ne (plain_names _ (by decide)) (by decide)]
  · rwa [plain_names.extras_insertEntry (by decide)]

end ProjectSettings

namespace Config

/-- The severity from which a run fails is given under the name that does not take precedence. -/
def spellsOut (below : List (Value × Value)) : Bool := (lookup (.text "fail_on") below).isSome

/-- What is wrong with a name that another one takes precedence over. -/
def secondName : Problem := ⟨[.name "fail_on"], .unknownField⟩

theorem find?_failOn (es : List (Value × Value)) : failOnNames.find? es "fail_on" =
    match lookup (.text "failOn") es with
    | some v => some ("failOn", v)
    | none => (lookup (.text "fail_on") es).map ("fail_on", ·) := by
  have hpreferred : failOnNames.preferred "fail_on" = "failOn" := by decide +kernel
  cases h : lookup (.text "failOn") es <;> simp [Names.find?, hpreferred, h]

theorem owns_failOn {key : String} : failOnNames.owns es key = true ↔
    ∃ v, failOnNames.find? es "fail_on" = some (key, v) := by
  have howns : failOnNames.owns es key = (failOnNames.find? es "fail_on").any (·.1 == key) :=
    Bool.or_false _
  rw [howns]
  cases failOnNames.find? es "fail_on" with
  | none => simp
  | some found =>
      obtain ⟨name, v⟩ := found
      simp

theorem readFailOn_eq_ok_iff {v : Value} {f : FailOn} : readFailOn v = .ok f ↔
    ∃ es, v = .map es ∧
      failOnNames.fieldOr es "fail_on" (Schema.choice FailOn.choices) .error = .ok f ∧
      ∃ more, failOnNames.extras .refused es = .ok more := by
  rw [readFailOn, Schema.fields_eq_ok_iff]

theorem find?_insert_failOn (v : Value) (es : List (Value × Value)) :
    failOnNames.find? (insertEntry (.text "failOn") v es) "fail_on" = some ("failOn", v) := by
  rw [find?_failOn, Value.lookup_insertEntry, if_pos rfl]

theorem fieldOr_insert_failOn (f : FailOn) (es : List (Value × Value)) :
    failOnNames.fieldOr (insertEntry (.text "failOn") (.text f.name) es) "fail_on"
      (Schema.choice FailOn.choices) .error = .ok f := by
  rw [Names.fieldOr, find?_insert_failOn]
  cases f <;> rfl

/-- All entries of the section go by the name under which it is read. -/
theorem key_of_readFailOn {f : FailOn} (h : readFailOn (.map es) = .ok f) :
    ∀ entry ∈ es, ∃ name v, entry.1 = .text name ∧
      failOnNames.find? es "fail_on" = some (name, v) := by
  intro entry hentry
  obtain ⟨_, heq, -, more, hmore⟩ := readFailOn_eq_ok_iff.1 h
  obtain rfl := Value.map.inj heq
  obtain ⟨name, hkey, howned⟩ := Schema.owned_of_extras hmore entry hentry
  obtain ⟨v, hv⟩ := owns_failOn.1 howned
  exact ⟨name, v, hkey, hv⟩

theorem readFailOn_insert {g : FailOn} (h : readFailOn (.map es) = .ok g)
    (hname : spellsOut es = false) (f : FailOn) :
    readFailOn (.map (insertEntry (.text "failOn") (.text f.name) es)) = .ok f := by
  refine readFailOn_eq_ok_iff.2
    ⟨_, rfl, fieldOr_insert_failOn f es, [], Schema.extras_of_owned fun entry hentry => ?_⟩
  refine ⟨"failOn", ?_, owns_failOn.2 ⟨_, find?_insert_failOn _ es⟩⟩
  rcases Value.mem_insertEntry hentry with hkey | hentry
  · exact hkey
  · -- The section has no entries under the other name, so all it has are under this one.
    obtain ⟨name, v, hkey, hv⟩ := key_of_readFailOn h entry hentry
    rw [find?_failOn, Option.not_isSome_iff_eq_none.1 (Bool.eq_false_iff.1 hname)] at hv
    cases hfound : lookup (.text "failOn") es with
    | none =>
        rw [hfound] at hv
        cases hv
    | some found =>
        rw [hfound] at hv
        rw [hkey, ← (Prod.mk.inj (Option.some.inj hv)).1]

/-- A section that spells the name out has entries under that name only. -/
theorem find?_of_spellsOut {f : FailOn} (h : readFailOn (.map es) = .ok f)
    (hname : spellsOut es = true) : ∃ v, (.text "fail_on", v) ∈ es ∧
      failOnNames.find? es "fail_on" = some ("fail_on", v) := by
  obtain ⟨old, hold⟩ := Option.isSome_iff_exists.1 hname
  have hmem := Value.mem_of_lookup hold
  obtain ⟨name, v, hkey, hv⟩ := key_of_readFailOn h _ hmem
  obtain rfl : "fail_on" = name := Value.text.inj hkey
  refine ⟨old, hmem, ?_⟩
  cases hfound : lookup (.text "failOn") es with
  | none => rw [find?_failOn, hfound, hold, Option.map_some]
  | some found =>
      rw [find?_failOn, hfound] at hv
      exact absurd (Prod.mk.inj (Option.some.inj hv)).1 (by decide)

theorem readFailOn_insert_of_spellsOut {g : FailOn} (h : readFailOn (.map es) = .ok g)
    (hname : spellsOut es = true) (f : FailOn) : ∃ n,
      readFailOn (.map (insertEntry (.text "failOn") (.text f.name) es)) =
        .bad (List.replicate (n + 1) secondName) := by
  obtain ⟨old, hmem, hfind⟩ := find?_of_spellsOut h hname
  have hfind' := find?_insert_failOn (.text f.name) es
  have howns : failOnNames.owns (insertEntry (.text "failOn") (.text f.name) es) "fail_on" =
      false := by
    rw [Bool.eq_false_iff]
    intro howned
    obtain ⟨v, hv⟩ := owns_failOn.1 howned
    exact absurd (Prod.mk.inj (Option.some.inj (hv.symm.trans hfind'))).1 (by decide)
  have hkeys : ∀ entry ∈ insertEntry (.text "failOn") (.text f.name) es,
      entry.1 = .text "fail_on" ∨ ∃ name, entry.1 = .text name ∧
        failOnNames.owns (insertEntry (.text "failOn") (.text f.name) es) name = true := by
    intro entry hentry
    rcases Value.mem_insertEntry hentry with hkey | hentry
    · exact .inr ⟨"failOn", hkey, owns_failOn.2 ⟨_, hfind'⟩⟩
    · obtain ⟨name, v, hkey, hv⟩ := key_of_readFailOn h entry hentry
      rw [hkey, (Prod.mk.inj (Option.some.inj (hv.symm.trans hfind))).1]
      exact .inl rfl
  have hne : Value.text "fail_on" ≠ .text "failOn" := by simp
  obtain ⟨n, hn⟩ := Schema.extras_eq_bad howns hkeys (Value.mem_insertEntry_of_ne hne hmem)
  refine ⟨n, ?_⟩
  rw [readFailOn, Schema.fields, Schema.record, fieldOr_insert_failOn, hn]
  rfl

end Config

end Continuity
