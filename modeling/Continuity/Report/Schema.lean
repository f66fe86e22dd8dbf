import Continuity.Issue.Schema
import Continuity.Report.Basic

/-! # Reports from untyped data -/

namespace Continuity

open Schema

namespace ReportMeta

/-- The fields of a report's making. -/
def names : Names := ⟨["version", "generated_at"], true⟩

/-- Reads what made a report. -/
def read : Reader ReportMeta :=
  Schema.fields names .ignored fun es =>
    ReportMeta.mk <$> names.required es "version" text
      <*> names.fieldOr es "generated_at" (optional text) none

end ReportMeta

namespace CountTables

/-- The tables. -/
def names : Names := ⟨["by_validator", "by_severity", "by_file"], true⟩

/-- Reads tables of counts. -/
def read : Reader CountTables :=
  Schema.fields names .ignored fun es =>
    let absent : CountTables := {}
    CountTables.mk <$> names.fieldOr es "by_validator" (mapping whole) absent.byValidator
      <*> names.fieldOr es "by_severity" (mapping whole) absent.bySeverity
      <*> names.fieldOr es "by_file" (mapping whole) absent.byFile

end CountTables

namespace ReportDocument

/-- The fields of a report. -/
def names : Names :=
  ⟨["valid", "errors", "warnings", "info", "counts", "cancelled", "meta"], true⟩

/-- Reads a report. -/
def read : Reader ReportDocument :=
  Schema.fields names .ignored fun es =>
    ReportDocument.mk <$> names.fieldOr es "valid" truth true
      <*> names.fieldOr es "errors" (list Issue.read) []
      <*> names.fieldOr es "warnings" (list Issue.read) []
      <*> names.fieldOr es "info" (list Issue.read) []
      <*> names.fieldOr es "counts" CountTables.read {}
      <*> names.fieldOr es "cancelled" truth false
      <*> names.fieldOr es "meta" (optional ReportMeta.read) none

end ReportDocument

end Continuity
