import Continuity.Data.Schema
import Continuity.Event.Basic

/-! # Events from untyped data -/

namespace Continuity.Event

open Schema

/-- The kinds of events that data can describe. -/
inductive Kind where
  | runStart
  | runPhase
  | fileParsed
  | fileExtracted
  | fileValidated
  | validatorPhase
  | error
  | custom
  deriving Repr, DecidableEq

/-- The fields of a kind of event. -/
def Kind.names : Kind → Names
  | .runStart => ⟨["file_count"], false⟩
  | .runPhase => ⟨["phase", "elapsed"], false⟩
  | .fileParsed => ⟨["file"], false⟩
  | .fileExtracted => ⟨["file", "validator_id"], false⟩
  | .fileValidated => ⟨["file", "validator_id", "issue_count"], false⟩
  | .validatorPhase => ⟨["validator_id", "phase", "elapsed"], false⟩
  | .error => ⟨["context", "kind", "error"], false⟩
  | .custom => ⟨["event", "payload"], false⟩

/-- Reads an event of a kind. -/
def read (kind : Kind) : Reader Event :=
  let names := kind.names
  Schema.fields names .ignored fun es =>
    match kind with
    | .runStart => runStart <$> names.required es "file_count" whole
    | .runPhase =>
      (fun phase elapsed => runPhase phase (some elapsed)) <$> names.required es "phase" text
        <*> names.required es "elapsed" number
    | .fileParsed => fileParsed <$> names.required es "file" text
    | .fileExtracted =>
      fileExtracted <$> names.required es "file" text <*> names.required es "validator_id" text
    | .fileValidated =>
      fileValidated <$> names.required es "file" text <*> names.required es "validator_id" text
        <*> names.required es "issue_count" whole
    | .validatorPhase =>
      validatorPhase <$> names.required es "validator_id" text
        <*> names.required es "phase" text
        <*> names.fieldOr es "elapsed" (optional number) none
    | .error =>
      error <$> names.required es "context" text <*> names.required es "kind" text
        <*> names.required es "error" text
    | .custom =>
      custom <$> names.required es "event" text
        <*> names.fieldOr es "payload" (mapping anything) []

end Continuity.Event
