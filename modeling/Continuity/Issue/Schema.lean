import Continuity.Data.Schema
import Continuity.Issue.Basic

/-! # Issues from untyped data -/

namespace Continuity

open Schema

namespace RelatedLocation

/-- The fields of a related location. -/
def names : Names := ⟨["file", "line", "column", "message"], true⟩

/-- Reads a related location. -/
def read : Reader RelatedLocation :=
  Schema.fields names .ignored fun es =>
    RelatedLocation.mk <$> names.required es "file" text
      <*> names.fieldOr es "line" (optional whole) none
      <*> names.fieldOr es "column" (optional whole) none
      <*> names.fieldOr es "message" (optional text) none

end RelatedLocation

namespace Issue

/-- The fields of an issue. -/
def names : Names where
  fields := ["code", "severity", "message", "validator", "file", "line", "column", "end_line",
    "end_column", "suggestion", "related_locations"]
  camel := true

/-- Reads an issue. -/
def read : Reader Issue :=
  Schema.fields names .ignored fun es =>
    Issue.mk <$> names.required es "code" text
      <*> names.required es "severity" (choice Severity.choices)
      <*> names.required es "message" text
      <*> names.required es "validator" text
      <*> names.fieldOr es "file" (optional text) none
      <*> names.fieldOr es "line" (optional whole) none
      <*> names.fieldOr es "column" (optional whole) none
      <*> names.fieldOr es "end_line" (optional whole) none
      <*> names.fieldOr es "end_column" (optional whole) none
      <*> names.fieldOr es "suggestion" (optional text) none
      <*> names.fieldOr es "related_locations" (tuple RelatedLocation.read) []

end Issue

end Continuity
