import Continuity.Calendar
import Continuity.Failure
import Continuity.Report.Basic
import Continuity.Text.Quoted

/-! # The date of a report

A report is dated by the clock, unless a number of seconds since the start of 1970 is given, which
makes reports of equal content equal.
-/

namespace Continuity

/-- Why a report cannot be dated. -/
inductive DateFault where
  /-- Digits that make no number. -/
  | unclear (seconds : String)
  | calendar (fault : CalendarFault)
  deriving Repr, DecidableEq

namespace DateFault

/-- The wording of a fault. -/
def message : DateFault → String
  | .unclear seconds => "invalid literal for int() with base 10: " ++ Text.quoted seconds
  | .calendar fault => fault.message

/-- A fault as it is made known. -/
def toFailure (f : DateFault) : Failure :=
  match f with
  | .unclear _ => .unforeseen "ValueError" f.message
  | .calendar fault => .unforeseen fault.sort f.message

end DateFault

namespace ReportMeta

/-- The value of a decimal digit of any script. -/
def digitValue? (c : Char) : Option Nat :=
  (Text.decimalTable.find? (·.contains c.toNat)).map fun r => (c.toNat - r.first) % 10

/-- The number that digits of any script stand for. -/
def secondsOf? (digits : List Char) : Option Nat :=
  (digits.mapM digitValue?).map fun values => values.foldl (fun n d => n * 10 + d) 0

/-- The moment that a setting fixes, if it fixes one. -/
def pinned (setting : String) : Except DateFault (Option Moment) :=
  let digits := Text.trim setting.toList
  if digits.isEmpty || !digits.all Text.isDigit then .ok none
  else match secondsOf? digits with
    | none => .error (.unclear (String.ofList digits))
    | some seconds =>
      match Moment.ofEpoch seconds with
      | .ok moment => .ok (some moment)
      | .error fault => .error (.calendar fault)

/-- The program's version, and the moment that a setting fixes or else that of the clock. -/
def make (setting : String) (now : Moment) : Except DateFault ReportMeta :=
  (pinned setting).map fun fixed => ⟨programVersion, some (fixed.getD now).isoZulu⟩

end ReportMeta

end Continuity
