import Continuity.Data.Json
import Continuity.Decimal.Text
import Continuity.Report.Basic

/-! # Reports as JSON documents -/

namespace Continuity

/-- A text, or null. -/
def Json.ofText? : Option String → Json
  | some s => .text s
  | none => .null

/-- A whole number, or null. -/
def Json.ofInt? : Option Int → Json
  | some n => .int n
  | none => .null

/-- A related location as a document. -/
def RelatedLocation.toJson (r : RelatedLocation) : Json :=
  .object [("file", .text r.file), ("line", .ofInt? r.line), ("column", .ofInt? r.column),
    ("message", .ofText? r.message)]

/-- An issue as a document. -/
def Issue.toJson (i : Issue) : Json :=
  .object [("code", .text i.code), ("severity", .text i.severity.name),
    ("message", .text i.message), ("validator", .text i.validator), ("file", .ofText? i.file),
    ("line", .ofInt? i.line), ("column", .ofInt? i.column), ("endLine", .ofInt? i.endLine),
    ("endColumn", .ofInt? i.endColumn), ("suggestion", .ofText? i.suggestion),
    ("relatedLocations", .list (i.related.map RelatedLocation.toJson))]

/-- Named numbers as a document. -/
def Json.ofCounts (counts : List (String × Nat)) : Json :=
  .object (counts.map fun (name, n) => (name, .int n))

/-- Named whole numbers as a document. -/
def Json.ofTable (table : List (String × Int)) : Json :=
  .object (table.map fun (name, n) => (name, .int n))

/-- Tables of counts as a document. -/
def CountTables.toJson (c : CountTables) : Json :=
  .object [("byValidator", .ofTable c.byValidator), ("bySeverity", .ofTable c.bySeverity),
    ("byFile", .ofTable c.byFile)]

/-- Counts of issues as a document. -/
def IssueCounts.toJson (c : IssueCounts) : Json := c.tables.toJson

/-- What made a report, as a document. -/
def ReportMeta.toJson (m : ReportMeta) : Json :=
  .object [("version", .text m.version), ("generatedAt", .ofText? m.generatedAt)]

namespace ReportDocument

/-- The document of a report. -/
def toJson (d : ReportDocument) : Json :=
  .object [("valid", .bool d.valid), ("errors", .list (d.errors.map Issue.toJson)),
    ("warnings", .list (d.warnings.map Issue.toJson)), ("info", .list (d.info.map Issue.toJson)),
    ("counts", d.counts.toJson), ("cancelled", .bool d.cancelled),
    ("meta", (d.about.map ReportMeta.toJson).getD .null)]

/-- The text of the document. -/
def text (d : ReportDocument) : String := d.toJson.indented Decimal.text

end ReportDocument

namespace Report

/-- The report as a document. -/
def toJson (r : Report) : Json := r.document.toJson

/-- The report as the text of a document. -/
def toJsonText (r : Report) : String := r.document.text

end Report

end Continuity
