import Continuity.Data.Value
import Continuity.Report.Basic

/-! # Events

What a run tells about its progress. Every event has a name by which it is subscribed to; events of
validators also go by a name of their own.
-/

namespace Continuity

/-- An event of a run. Times are given where a clock is at hand. -/
inductive Event where
  | runStart (fileCount : Int)
  | runComplete (report : Report)
  | runPhase (phase : String) (elapsed : Option Float)
  | fileParsed (file : String)
  | fileExtracted (file validator : String)
  | fileValidated (file validator : String) (issueCount : Int)
  | validatorPhase (validator phase : String) (elapsed : Option Float)
  | error (context kind error : String)
  | custom (event : String) (payload : List (String × Value))
  deriving Inhabited

namespace Event

/-- The name by which an event is subscribed to. -/
def name : Event → String
  | .runStart .. => "run:start"
  | .runComplete .. => "run:complete"
  | .runPhase .. => "run:phase"
  | .fileParsed .. => "file:parsed"
  | .fileExtracted .. => "file:extracted"
  | .fileValidated .. => "file:validated"
  | .validatorPhase .. => "validator:phase"
  | .error .. => "error"
  | .custom .. => "custom"

/-- The data of an event, by name. -/
def fields : Event → List (String × Value)
  | .runStart n => [("file_count", .int n)]
  | .runComplete r => [("total", .int r.total)]
  | .runPhase phase elapsed => [("phase", .text phase), ("elapsed", elapsed.elim .null .float)]
  | .fileParsed file => [("file", .text file)]
  | .fileExtracted file validator => [("file", .text file), ("validator_id", .text validator)]
  | .fileValidated file validator n =>
    [("file", .text file), ("validator_id", .text validator), ("issue_count", .int n)]
  | .validatorPhase validator phase elapsed =>
    [("validator_id", .text validator), ("phase", .text phase),
      ("elapsed", elapsed.elim .null .float)]
  | .error context kind message =>
    [("context", .text context), ("kind", .text kind), ("error", .text message)]
  | .custom event payload =>
    [("event", .text event), ("payload", .map (payload.map fun (k, v) => (.text k, v)))]

/-- The name that stands for all events. -/
def wildcard : String := "*"

/-- The names that reach an event. -/
def topics (e : Event) : List String :=
  match e with
  | .custom own _ => [e.name, wildcard, own]
  | _ => [e.name, wildcard]

end Event

end Continuity
