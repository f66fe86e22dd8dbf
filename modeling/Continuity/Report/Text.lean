import Continuity.Report.Basic

/-! # Reports for a terminal -/

namespace Continuity.Report

/-- How a stretch of text is shown. -/
inductive Emphasis where
  | red
  | yellow
  | blue
  | green
  | bold
  | dim
  deriving Repr, DecidableEq

/-- The control sequence that turns an emphasis on. -/
def Emphasis.sequence : Emphasis → String
  | .red => "\x1b[31m"
  | .yellow => "\x1b[33m"
  | .blue => "\x1b[34m"
  | .green => "\x1b[32m"
  | .bold => "\x1b[1m"
  | .dim => "\x1b[2m"

/-- A stretch of text, emphasised where colours are wanted. -/
def styled (color : Bool) (emphases : List Emphasis) (text : String) : String :=
  if color then String.join (emphases.map Emphasis.sequence) ++ text ++ "\x1b[0m" else text

/-- The sign of a severity. -/
def symbol : Severity → String
  | .error => "✗"
  | .warning => "⚠"
  | .info => "ℹ"

/-- The colour of a severity. -/
def colorOf : Severity → Emphasis
  | .error => .red
  | .warning => .yellow
  | .info => .blue

/-- A number of things. -/
def plural (count : Nat) (word : String) : String :=
  toString count ++ " " ++ word ++ if count = 1 then "" else "s"

/-- A related location as a line. -/
def relatedLine (related : RelatedLocation) : String :=
  let place := related.file :: (related.line.map toString).toList ++
    (related.column.map toString).toList
  let note := match related.message with
    | some message => if message.isEmpty then "" else " (" ++ message ++ ")"
    | none => ""
  "  see " ++ ":".intercalate place ++ note

/-- The lines of an issue: its head and message, what to do instead, and related places. -/
def issueLines (color : Bool) (issue : Issue) : List String :=
  let head := styled color [colorOf issue.severity, .bold]
    (symbol issue.severity ++ " [" ++ issue.code ++ "]")
  let location := issue.location
  let place := if location.isEmpty then "(" ++ issue.validator ++ ")" else location
  let suggestion := match issue.suggestion with
    | some text => if text.isEmpty then [] else [styled color [.dim] ("  → " ++ text)]
    | none => []
  (head ++ " " ++ place) :: ("  " ++ issue.message) :: suggestion ++
    issue.related.map fun r => styled color [.dim] (relatedLine r)

/-- The last line of a report. -/
def summary (r : Report) : String :=
  "Summary: " ++ plural r.errors.length "error" ++ ", " ++ plural r.warnings.length "warning" ++
    ", " ++ toString r.info.length ++ " info" ++ if r.cancelled then " (cancelled)" else ""

/-- The report as text. -/
def toText (color : Bool) (r : Report) : String :=
  let issues := r.issues.flatMap fun i => issueLines color i ++ [""]
  let praise := if r.total = 0 && !r.cancelled then
      [styled color [.green, .bold] "✓ No issues found"]
    else []
  "\n".intercalate (issues ++ praise ++ [styled color [.bold] r.summary])

end Continuity.Report
