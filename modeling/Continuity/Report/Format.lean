import Continuity.Report.Html
import Continuity.Report.Json
import Continuity.Report.Text

/-! # The forms of a report -/

namespace Continuity

/-- The form in which a report is written. -/
inductive ReportFormat where
  | text
  | json
  | html
  deriving Repr, DecidableEq, Inhabited

namespace ReportFormat

/-- The name of a form. -/
def name : ReportFormat → String
  | .text => "text"
  | .json => "json"
  | .html => "html"

/-- The forms by name. -/
def choices : List (String × ReportFormat) := [.text, .json, .html].map fun f => (f.name, f)

/-- A report in a form; only text can have colours. -/
def render (color : Bool) (r : Report) : ReportFormat → String
  | .text => r.toText color
  | .json => r.toJsonText
  | .html => r.toHtml

end ReportFormat

end Continuity
