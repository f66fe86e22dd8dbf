import Continuity.Character.Basic
import Continuity.Data.Schema

/-! # Notes on characters from untyped data -/

namespace Continuity.Character

open Schema (Names Reader whole truth optional)

/-- The fields of a place. -/
def Location.names : Names := ⟨["file", "line", "column", "offset"], false⟩

/-- Reads a place. -/
def Location.read : Reader Location :=
  Schema.fields Location.names .ignored fun es =>
    Location.mk <$> Location.names.required es "file" Schema.text
      <*> Location.names.required es "line" whole
      <*> Location.names.required es "column" whole
      <*> Location.names.required es "offset" whole

/-- The fields of a mention. -/
def Mention.names : Names where
  fields := ["name", "location", "end_column", "introduction", "marker", "retrospective",
    "pronouns", "sentence_initial"]
  camel := false

/-- Reads a mention. -/
def Mention.read : Reader Mention :=
  Schema.fields Mention.names .ignored fun es =>
    Mention.mk <$> Mention.names.required es "name" Schema.text
      <*> Mention.names.required es "location" Location.read
      <*> Mention.names.fieldOr es "end_column" (optional whole) none
      <*> Mention.names.fieldOr es "introduction" truth false
      <*> Mention.names.fieldOr es "marker" truth false
      <*> Mention.names.fieldOr es "retrospective" truth false
      <*> Mention.names.fieldOr es "pronouns" (Schema.tuple Schema.text) []
      <*> Mention.names.fieldOr es "sentence_initial" truth false

/-- The fields of a declaration of another name. -/
def Alias.names : Names := ⟨["name", "alias", "location"], false⟩

/-- Reads a declaration of another name. -/
def Alias.read : Reader Alias :=
  Schema.fields Alias.names .ignored fun es =>
    Alias.mk <$> Alias.names.required es "name" Schema.text
      <*> Alias.names.required es "alias" Schema.text
      <*> Alias.names.fieldOr es "location" (optional Location.read) none

/-- The fields of a declaration of pronouns. -/
def PronounChange.names : Names := ⟨["name", "pronouns", "location"], false⟩

/-- Reads a declaration of pronouns. -/
def PronounChange.read : Reader PronounChange :=
  Schema.fields PronounChange.names .ignored fun es =>
    PronounChange.mk <$> PronounChange.names.required es "name" Schema.text
      <*> PronounChange.names.required es "pronouns" Schema.text
      <*> PronounChange.names.required es "location" Location.read

/-- The fields of the notes on a file. -/
def FileNotes.names : Names where
  fields := ["path", "mentions", "alias_pairs", "declared_pronouns", "pronoun_changes",
    "relationships", "lowercase_words"]
  camel := false

/-- Reads the notes on a file. -/
def FileNotes.read : Reader FileNotes :=
  Schema.fields FileNotes.names .ignored fun es =>
    FileNotes.mk <$> FileNotes.names.required es "path" Schema.text
      <*> FileNotes.names.fieldOr es "mentions" (Schema.list Mention.read) []
      <*> FileNotes.names.fieldOr es "alias_pairs" (Schema.list Alias.read) []
      <*> FileNotes.names.fieldOr es "declared_pronouns" (Schema.mapping Schema.text) []
      <*> FileNotes.names.fieldOr es "pronoun_changes" (Schema.list PronounChange.read) []
      <*> FileNotes.names.fieldOr es "relationships"
        (Schema.mapping (Schema.mapping Schema.text)) []
      <*> FileNotes.names.fieldOr es "lowercase_words" (Schema.set Schema.text) []

end Continuity.Character
