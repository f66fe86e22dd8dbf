/-! # Issues

An issue is one finding about a project: what it is, how severe, and where. A run fails from a
chosen severity upwards.
-/

namespace Continuity

/-- How severe an issue is. -/
inductive Severity where
  | error
  | warning
  | info
  deriving Repr, DecidableEq, Inhabited

namespace Severity

/-- All severities, the gravest first. -/
def all : List Severity := [.error, .warning, .info]

/-- The place of a severity in the scale, the slightest being zero. -/
def rank : Severity → Nat
  | .info => 0
  | .warning => 1
  | .error => 2

/-- One severity is as grave as another. -/
def atLeast (a b : Severity) : Bool := b.rank ≤ a.rank

/-- The name of a severity. -/
def name : Severity → String
  | .error => "error"
  | .warning => "warning"
  | .info => "info"

/-- The severities by name. -/
def choices : List (String × Severity) := all.map fun s => (s.name, s)

end Severity

/-- The slightest severity that makes a run fail. -/
inductive FailOn where
  | error
  | warning
  | none
  deriving Repr, DecidableEq, Inhabited

namespace FailOn

/-- The severity from which a run fails. -/
def threshold : FailOn → Option Severity
  | .error => some .error
  | .warning => some .warning
  | .none => Option.none

/-- The name of a choice. -/
def name : FailOn → String
  | .error => "error"
  | .warning => "warning"
  | .none => "none"

/-- The choices by name. -/
def choices : List (String × FailOn) := [.error, .warning, .none].map fun f => (f.name, f)

end FailOn

/-- A second place that an issue refers to. -/
structure RelatedLocation where
  file : String
  line : Option Int := none
  column : Option Int := none
  message : Option String := none
  deriving Repr, DecidableEq, Inhabited

/-- A finding. -/
structure Issue where
  code : String
  severity : Severity
  message : String
  /-- Who found it. -/
  validator : String
  file : Option String := none
  line : Option Int := none
  column : Option Int := none
  endLine : Option Int := none
  endColumn : Option Int := none
  suggestion : Option String := none
  related : List RelatedLocation := []
  deriving Repr, DecidableEq, Inhabited

/-- What makes two findings of one validator the same. -/
structure IssueKey where
  code : String
  file : Option String
  line : Option Int
  column : Option Int
  message : String
  deriving Repr, DecidableEq, Inhabited

namespace Issue

/-- The validator that issues of the run itself are found by. -/
def engineId : String := "engine"

/-- A finding of the run itself; its kind is its code. -/
def ofEngine (kind message : String) (severity : Severity) (file : Option String)
    (line : Option Int) : Issue :=
  { code := kind, severity, message, validator := engineId, file, line }

/-- The file, line and column, as far as they are known. -/
def location (i : Issue) : String :=
  match i.file with
  | none => ""
  | some file =>
    match i.line with
    | none => file
    | some line =>
      let place := file ++ ":" ++ toString line
      match i.column with
      | none => place
      | some column => place ++ ":" ++ toString column

/-- What makes a finding the same as another. -/
def key (i : Issue) : IssueKey := ⟨i.code, i.file, i.line, i.column, i.message⟩

end Issue

end Continuity
