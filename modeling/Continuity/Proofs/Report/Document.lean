import Continuity.Proofs.Data.Json
import Continuity.Proofs.Data.Schema
import Continuity.Proofs.Report.Tally
import Continuity.Report.Json
import Continuity.Report.Schema

/-! # Reports are read back

The text of a report tells all of it: read as a document, and the document as a report, it gives
the same report again, with every issue as it was and at its place.
-/

namespace Continuity

open Json (Exact)
open Schema

attribute [simp] Exact.null Exact.bool Exact.int Exact.text

/-! ## Parts of a record -/

@[simp]
theorem Json.exact_ofText? (s : Option String) : Exact (.ofText? s) := by
  cases s with
  | none => exact .null
  | some s => exact .text s

@[simp]
theorem Json.exact_ofInt? (n : Option Int) : Exact (.ofInt? n) := by
  cases n with
  | none => exact .null
  | some n => exact .int n

theorem Json.exact_list {α : Type} {write : α → Json} (h : ∀ a, Exact (write a)) (as : List α) :
    Exact (.list (as.map write)) :=
  .list (List.forall_mem_map.2 fun a _ => h a)

/-- A table is an exact document if it has each name once. -/
theorem Json.exact_ofTable {table : List (String × Int)} (h : (table.map (·.1)).Nodup) :
    Exact (.ofTable table) := by
  refine .object ?_ (List.forall_mem_map.2 fun _ _ => .int _)
  rwa [List.map_map]

namespace Schema

theorem restores_text? : Restores (optional text) .ofText?
  | none => rfl
  | some _ => rfl

theorem restores_whole? : Restores (optional whole) .ofInt?
  | none => rfl
  | some _ => rfl

theorem restores_severity : Restores (choice Severity.choices) fun s => .text s.name := by
  intro s
  cases s <;> rfl

theorem restores_table : Restores (mapping whole) .ofTable := restores_whole.mapping

/-- What tells the fields of a record under their preferred names is exact where each is. -/
theorem Names.Written.exact {names : Names} {members : List (String × Json)}
    (h : names.Written members) (hmembers : ∀ m ∈ members, Exact m.2) : Exact (.object members) :=
  .object (h.preferred ▸ h.nodup) hmembers

end Schema

/-! ## Issues -/

namespace RelatedLocation

theorem written (r : RelatedLocation) : names.Written [("file", .text r.file),
    ("line", .ofInt? r.line), ("column", .ofInt? r.column), ("message", .ofText? r.message)] :=
  ⟨rfl, by decide +kernel⟩

theorem exact_toJson (r : RelatedLocation) : Exact r.toJson := r.written.exact (by simp)

theorem restores : Restores read toJson := by
  intro r
  have h := r.written
  refine fields_eq_ok_iff.2 ⟨_, rfl, ?_, [], rfl⟩
  rw [h.required restores_text (a := r.file) (by simp [names]),
    h.fieldOr restores_whole? (a := r.line) (by simp [names]),
    h.fieldOr restores_whole? (a := r.column) (by simp [names]),
    h.fieldOr restores_text? (a := r.message) (by simp [names])]
  rfl

end RelatedLocation

namespace Issue

theorem written (i : Issue) : names.Written [("code", .text i.code),
    ("severity", .text i.severity.name), ("message", .text i.message),
    ("validator", .text i.validator), ("file", .ofText? i.file), ("line", .ofInt? i.line),
    ("column", .ofInt? i.column), ("endLine", .ofInt? i.endLine),
    ("endColumn", .ofInt? i.endColumn), ("suggestion", .ofText? i.suggestion),
    ("relatedLocations", .list (i.related.map RelatedLocation.toJson))] :=
  ⟨rfl, by decide +kernel⟩

theorem exact_toJson (i : Issue) : Exact i.toJson :=
  i.written.exact (by simp [Json.exact_list RelatedLocation.exact_toJson])

theorem restores : Restores read toJson := by
  intro i
  have h := i.written
  refine fields_eq_ok_iff.2 ⟨_, rfl, ?_, [], rfl⟩
  rw [h.required restores_text (a := i.code) (by simp [names]),
    h.required restores_severity (a := i.severity) (by simp [names]),
    h.required restores_text (a := i.message) (by simp [names]),
    h.required restores_text (a := i.validator) (by simp [names]),
    h.fieldOr restores_text? (a := i.file) (by simp [names]),
    h.fieldOr restores_whole? (a := i.line) (by simp [names]),
    h.fieldOr restores_whole? (a := i.column) (by simp [names]),
    h.fieldOr restores_whole? (a := i.endLine) (by simp [names]),
    h.fieldOr restores_whole? (a := i.endColumn) (by simp [names]),
    h.fieldOr restores_text? (a := i.suggestion) (by simp [names]),
    h.fieldOr RelatedLocation.restores.tuple (a := i.related) (by simp [names])]
  rfl

end Issue

/-! ## Reports -/

namespace CountTables

/-- Each table has each name once. -/
structure Distinct (c : CountTables) : Prop where
  byValidator : (c.byValidator.map (·.1)).Nodup
  bySeverity : (c.bySeverity.map (·.1)).Nodup
  byFile : (c.byFile.map (·.1)).Nodup

theorem written (c : CountTables) : names.Written [("byValidator", .ofTable c.byValidator),
    ("bySeverity", .ofTable c.bySeverity), ("byFile", .ofTable c.byFile)] :=
  ⟨rfl, by decide +kernel⟩

theorem Distinct.exact_toJson {c : CountTables} (h : c.Distinct) : Exact c.toJson :=
  c.written.exact (by simp [Json.exact_ofTable, h.byValidator, h.bySeverity, h.byFile])

theorem restores : Restores read toJson := by
  intro c
  have h := c.written
  refine fields_eq_ok_iff.2 ⟨_, rfl, ?_, [], rfl⟩
  dsimp only
  rw [h.fieldOr restores_table (a := c.byValidator) (by simp [names]),
    h.fieldOr restores_table (a := c.bySeverity) (by simp [names]),
    h.fieldOr restores_table (a := c.byFile) (by simp [names])]
  rfl

end CountTables

namespace ReportMeta

theorem written (m : ReportMeta) :
    names.Written [("version", .text m.version), ("generatedAt", .ofText? m.generatedAt)] :=
  ⟨rfl, by decide +kernel⟩

theorem exact_toJson (m : ReportMeta) : Exact m.toJson := m.written.exact (by simp)

theorem restores : Restores read toJson := by
  intro m
  have h := m.written
  refine fields_eq_ok_iff.2 ⟨_, rfl, ?_, [], rfl⟩
  rw [h.required restores_text (a := m.version) (by simp [names]),
    h.fieldOr restores_text? (a := m.generatedAt) (by simp [names])]
  rfl

end ReportMeta

namespace ReportDocument

theorem written (d : ReportDocument) : names.Written [("valid", .bool d.valid),
    ("errors", .list (d.errors.map Issue.toJson)),
    ("warnings", .list (d.warnings.map Issue.toJson)), ("info", .list (d.info.map Issue.toJson)),
    ("counts", d.counts.toJson), ("cancelled", .bool d.cancelled),
    ("meta", (d.about.map ReportMeta.toJson).getD .null)] :=
  ⟨rfl, by decide +kernel⟩

theorem exact_about (about : Option ReportMeta) :
    Exact ((about.map ReportMeta.toJson).getD .null) := by
  cases about with
  | none => exact .null
  | some m => exact m.exact_toJson

theorem exact_toJson {d : ReportDocument} (h : d.counts.Distinct) : Exact d.toJson :=
  d.written.exact (by simp [Json.exact_list Issue.exact_toJson, h.exact_toJson, exact_about])

theorem restores : Restores read toJson := by
  intro d
  have h := d.written
  refine fields_eq_ok_iff.2 ⟨_, rfl, ?_, [], rfl⟩
  rw [h.fieldOr restores_truth (a := d.valid) (by simp [names]),
    h.fieldOr Issue.restores.list (a := d.errors) (by simp [names]),
    h.fieldOr Issue.restores.list (a := d.warnings) (by simp [names]),
    h.fieldOr Issue.restores.list (a := d.info) (by simp [names]),
    h.fieldOr CountTables.restores (a := d.counts) (by simp [names]),
    h.fieldOr restores_truth (a := d.cancelled) (by simp [names]),
    h.fieldOr (ReportMeta.restores.optional fun _ => nofun) (a := d.about) (by simp [names])]
  rfl

/-- The text of a report is read back as that report: as a document, the document as untyped data,
and the data as a report. -/
theorem text_read_back (d : ReportDocument) (h : d.counts.Distinct) :
    Json.read d.text.toList = .ok d.toJson ∧ read (.ofJson d.toJson) = .ok d :=
  ⟨Json.read_indented (exact_toJson h), restores d⟩

/-- Nothing is lost of quotes, control characters and characters beyond ASCII, of negative and
very large numbers, nor of what is absent. -/
theorem escaped_text_read_back :
    let related : RelatedLocation := { file := "c\\d.md", column := some (-3) }
    let issue : Issue :=
      { code := "UNKNOWN", severity := .warning, message := "\"Zoë\"\n\t\x01 😀", validator := "",
        line := some (10 ^ 30), related := [related, { related with message := some "" }] }
    let d : ReportDocument :=
      { valid := false, warnings := [issue, issue],
        counts := { byValidator := [("", 2), ("b", -1)], bySeverity := [], byFile := [("/", 0)] }
        about := some ⟨"0.1.0", none⟩ }
    d.counts.Distinct ∧ Json.read d.text.toList = .ok d.toJson ∧
      read (.ofJson d.toJson) = .ok d := by
  intro related issue d
  have h : d.counts.Distinct := ⟨by decide, by decide, by decide⟩
  exact ⟨h, text_read_back d h⟩

end ReportDocument

/-! ## Reports of runs -/

theorem IssueCounts.distinct_tables_ofIssues (issues : List Issue) :
    (ofIssues issues).tables.Distinct := by
  have hnodup : ∀ names : List String,
      (((tally names).map fun entry => (entry.1, (entry.2 : Int))).map (·.1)).Nodup := by
    intro names
    rw [List.map_map]
    exact (isTally_tally names).ascending.imp fun hlt => hlt.ne
  have hseverity : (ofIssues issues).tables.bySeverity.map (·.1) =
      Severity.all.map Severity.name := rfl
  exact ⟨hnodup _, by rw [hseverity]; decide, hnodup _⟩

/-- The text of a run's report, whatever its issues, is read back as all that the report tells. -/
theorem Report.toJsonText_read_back (failOn : FailOn) (cancelled : Bool) (issues : List Issue)
    (about : Option ReportMeta) :
    let r := { Report.ofIssues failOn cancelled issues with about }
    Json.read r.toJsonText.toList = .ok r.toJson ∧
      ReportDocument.read (.ofJson r.toJson) = .ok r.document := by
  intro r
  have hcounts : r.document.counts.Distinct := IssueCounts.distinct_tables_ofIssues _
  exact ⟨Json.read_indented (ReportDocument.exact_toJson hcounts), ReportDocument.restores _⟩

end Continuity
