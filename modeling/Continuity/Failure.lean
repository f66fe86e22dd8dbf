import Continuity.Data.Schema

/-! # Failures

A failure as it is made known: its kind and wording, and what is wrong with the data that it is
about. The program foresees some failures and reports them as its own; of the others it only passes
on what has happened.
-/

namespace Continuity

/-- A failure as it is made known. -/
structure Failure where
  kind : String
  message : String
  foreseen : Bool
  problems : List Schema.Problem := []
  /-- The validator that has failed. -/
  validator : Option String := none
  deriving Repr, DecidableEq, Inhabited

namespace Failure

/-- A fault of the configuration. -/
def configuration (message : String) (problems : List Schema.Problem) : Failure :=
  { kind := "config-error", message, foreseen := true, problems }

/-- A failure that is not foreseen. -/
def unforeseen (sort message : String) : Failure := { kind := sort, message, foreseen := false }

end Failure

end Continuity
