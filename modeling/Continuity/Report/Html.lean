import Continuity.Report.Basic

/-! # Reports as web pages -/

namespace Continuity.Report

/-- A character inside a page's text or attributes. -/
def escapedChar (c : Char) : List Char :=
  if c == '&' then "&amp;".toList
  else if c == '<' then "&lt;".toList
  else if c == '>' then "&gt;".toList
  else if c == '"' then "&quot;".toList
  else if c == '\'' then "&#x27;".toList
  else [c]

/-- A text inside a page. -/
def escaped (s : String) : String := String.ofList (s.toList.flatMap escapedChar)

/-- A cell of a table. -/
def cell (text : String) : String := "<td>" ++ escaped text ++ "</td>"

/-- The row of an issue. -/
def row (i : Issue) : String :=
  "<tr class=\"" ++ i.severity.name ++ "\">" ++ cell i.severity.name ++ cell i.code ++
    cell i.location ++ cell i.message ++ cell (i.suggestion.getD "") ++ "</tr>"

/-- The page up to the summary. -/
def pageTop : List String := [
    "<!DOCTYPE html>",
    "<html lang=\"en\">",
    "<head>",
    "<meta charset=\"utf-8\">",
    "<title>Story Linter Report</title>",
    "<style>",
    "body \x7b font-family: sans-serif; margin: 2em; \x7d",
    "table \x7b border-collapse: collapse; width: 100%; \x7d",
    "td, th \x7b border: 1px solid #ddd; padding: 4px 8px; text-align: left; \x7d",
    "tr.error td:first-child \x7b color: #c0392b; \x7d",
    "tr.warning td:first-child \x7b color: #b7950b; \x7d",
    "tr.info td:first-child \x7b color: #2471a3; \x7d",
    "</style>",
    "</head>",
    "<body>",
    "<h1>Story Linter Report</h1>"]

/-- The heads of the table's columns. -/
def columns : List String := ["Severity", "Code", "Location", "Message", "Suggestion"]

/-- The page from the table up to its rows. -/
def tableTop : List String :=
  ["<table>",
    "<thead><tr>" ++ String.join (columns.map fun c => "<th>" ++ c ++ "</th>") ++ "</tr></thead>",
    "<tbody>"]

/-- The summary of a report. -/
def summaryParagraph (r : Report) : String :=
  "<p class=\"" ++ (if r.valid then "valid" else "invalid") ++ "\">" ++
    toString r.errors.length ++ " errors, " ++ toString r.warnings.length ++ " warnings, " ++
    toString r.info.length ++ " info</p>"

/-- The rows of a report's table. -/
def rows (r : Report) : List String :=
  if r.issues.isEmpty then ["<tr><td colspan=\"5\">No issues found</td></tr>"]
  else r.issues.map row

/-- The page from the end of the table on. -/
def pageBottom (r : Report) : List String :=
  let version := match r.about with
    | some about => about.version
    | none => programVersion
  ["</tbody>", "</table>", "<footer>Story Linter v" ++ escaped version ++ "</footer>", "</body>",
    "</html>", ""]

/-- The report as a web page. -/
def toHtml (r : Report) : String :=
  "\n".intercalate (pageTop ++ [r.summaryParagraph] ++ tableTop ++ r.rows ++ r.pageBottom)

end Continuity.Report
