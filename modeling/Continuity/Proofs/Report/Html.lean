import Continuity.Proofs.Web.Page
import Continuity.Report.Html

/-! # What a report shows as a web page

Whatever its issues say, a page has the tags that their severities and the outcome of the run ask
for, and no others. The texts of an issue stand in the cells of its row, from which they are read
back exactly, also where they look like tags or references themselves.
-/

namespace Continuity.Report

open Web (Tag PageItem PageMode Shows HasTexts element withFeeds filterMap_tag?_element)

/-! ## Escaped texts -/

theorem lt_not_mem_escapedChar (c : Char) : '<' ∉ escapedChar c := by
  unfold escapedChar
  split
  · decide
  split
  · decide
  split
  · decide
  split
  · decide
  split
  · decide
  next _ hlt _ _ _ => simpa using Ne.symm (by simpa using hlt)

theorem lt_not_mem_escaped (s : String) : '<' ∉ (escaped s).toList := by
  rw [escaped, String.toList_ofList, List.mem_flatMap]
  rintro ⟨c, -, hc⟩
  exact lt_not_mem_escapedChar c hc

/-- The names of references in escaped texts, and what they stand for. -/
theorem entity?_escaped : Markdown.entity? ['a', 'm', 'p'] = some ['&'] ∧
    Markdown.entity? ['l', 't'] = some ['<'] ∧ Markdown.entity? ['g', 't'] = some ['>'] ∧
      Markdown.entity? ['q', 'u', 'o', 't'] = some ['"'] := by
  have hfind (name : List Char) : Markdown.entity? name =
      (Markdown.entityTable.toList.find? (·.1 == String.ofList name)).map (·.2.toList) := by
    rw [Markdown.entity?, Array.find?_toList]
  rw [hfind, hfind, hfind, hfind]
  decide +kernel

theorem standsFor_escapedChar (c : Char) : Web.StandsFor (escapedChar c) c := by
  obtain ⟨hamp, hlt, hgt, hquot⟩ := entity?_escaped
  unfold escapedChar
  split
  next h => exact eq_of_beq h ▸ .entity rfl rfl (by rfl) (by decide) (by decide) hamp
  split
  next h => exact eq_of_beq h ▸ .entity rfl rfl (by rfl) (by decide) (by decide) hlt
  split
  next h => exact eq_of_beq h ▸ .entity rfl rfl (by rfl) (by decide) (by decide) hgt
  split
  next h => exact eq_of_beq h ▸ .entity rfl rfl (by rfl) (by decide) (by decide) hquot
  split
  next h =>
    -- The apostrophe is written by its number.
    have hform : "&#x27;".toList = '&' :: ("#x27".toList ++ [';']) := rfl
    refine eq_of_beq h ▸ .reference hform fun rest => ?_
    rw [Markdown.reference?, Web.referenceBody?_append (by rfl)]
    rfl
  next hamp _ _ _ _ => exact .self (by simpa using hamp)

/-- A text is read back from a page as it was. -/
theorem unescape_escaped (s : String) : Web.unescape (escaped s).toList = s := by
  rw [escaped, String.toList_ofList]
  exact Web.unescape_flatMap standsFor_escapedChar s

/-! ## Rows -/

/-- A cell of a column. -/
def cellTag : Tag := { name := "td".toList }

/-- A cell over all columns. -/
def wideCellTag : Tag := { name := "td".toList, attributes := [("colspan".toList, "5".toList)] }

def cellEndTag : Tag := { closes := true, name := "td".toList }

def rowTag (s : Severity) : Tag :=
  { name := "tr".toList, attributes := [("class".toList, s.name.toList)] }

/-- The beginning of a row that is no issue's. -/
def rowStartTag : Tag := { name := "tr".toList }

def rowEndTag : Tag := { closes := true, name := "tr".toList }

/-- What a cell shows. -/
def cellItems (text : String) : List PageItem := element cellTag cellEndTag (escaped text).toList

/-- The texts in the row of an issue. -/
def rowTexts (i : Issue) : List String :=
  [i.severity.name, i.code, i.location, i.message, i.suggestion.getD ""]

/-- What the row of an issue shows. -/
def rowItems (i : Issue) : List PageItem :=
  .tag (rowTag i.severity) :: ((rowTexts i).flatMap cellItems ++ [.tag rowEndTag])

theorem shows_cell (text : String) : Shows (cell text).toList (cellItems text) := by
  rw [cell, String.toList_append, String.toList_append]
  exact .element ⟨rfl, rfl⟩ (lt_not_mem_escaped text) ⟨rfl, rfl⟩

theorem shows_row (i : Issue) : Shows (row i).toList (rowItems i) := by
  have hopen : Shows ("<tr class=\"" ++ i.severity.name ++ "\">").toList
      [.tag (rowTag i.severity)] := by
    cases i.severity <;> exact ⟨rfl, rfl⟩
  have hclose : Shows "</tr>".toList [.tag rowEndTag] := ⟨rfl, rfl⟩
  have hcells : Shows ((rowTexts i).flatMap fun text => (cell text).toList)
      ((rowTexts i).flatMap cellItems) := .flatMap fun text _ => shows_cell text
  have hrow : (row i).toList = ("<tr class=\"" ++ i.severity.name ++ "\">").toList ++
      ((rowTexts i).flatMap (fun text => (cell text).toList) ++ "</tr>".toList) := by
    unfold row rowTexts
    simp only [List.flatMap_cons, List.flatMap_nil, List.append_nil]
    generalize "<tr class=\"" ++ i.severity.name ++ "\">" = front
    simp only [String.toList_append, List.append_assoc]
  rw [hrow]
  exact hopen.append (hcells.append hclose)

/-- The tags in the row of an issue. -/
def rowTags (s : Severity) : List Tag :=
  rowTag s :: ((List.replicate 5 [cellTag, cellEndTag]).flatten ++ [rowEndTag])

/-- The tags of a row tell the severity of its issue and nothing else. -/
theorem filterMap_tag?_rowItems (i : Issue) :
    (rowItems i).filterMap PageItem.tag? = rowTags i.severity := by
  simp [rowItems, rowTexts, cellItems, rowTags]

/-- The cells of a row hold the texts of its issue. -/
theorem hasTexts_rowItems (i : Issue) :
    HasTexts cellTag (rowItems i) ((rowTexts i).map fun text => (escaped text).toList) := by
  have hcells : HasTexts cellTag ((rowTexts i).flatMap cellItems)
      ((rowTexts i).flatMap fun text => [(escaped text).toList]) :=
    .flatMap fun text _ => .element _ (by decide)
  have hopen : HasTexts cellTag [.tag (rowTag i.severity)] [] := by
    refine .of_not_mem ?_
    cases i.severity <;> decide
  have hclose : HasTexts cellTag [.tag rowEndTag] [] := .of_not_mem (by decide)
  have hrow := hopen.append (hcells.append hclose)
  rwa [List.append_nil, List.nil_append, ← List.map_eq_flatMap] at hrow

theorem wide_not_mem_rowItems (i : Issue) : .tag wideCellTag ∉ rowItems i := by
  have hrow : wideCellTag ≠ rowTag i.severity := by cases i.severity <;> decide
  have hcell : wideCellTag ≠ cellTag ∧ wideCellTag ≠ cellEndTag ∧ wideCellTag ≠ rowEndTag := by
    decide
  simp [rowItems, rowTexts, cellItems, hrow, hcell]

/-! ## Lines with texts of their own -/

def summaryTag (valid : Bool) : Tag :=
  { name := "p".toList
    attributes := [("class".toList, (if valid then "valid" else "invalid").toList)] }

def summaryEndTag : Tag := { closes := true, name := "p".toList }

def footerTag : Tag := { name := "footer".toList }

def footerEndTag : Tag := { closes := true, name := "footer".toList }

theorem lt_not_mem_toString (n : Nat) : '<' ∉ (toString n).toList := by
  intro h
  rw [Nat.toString_eq_repr, Nat.toList_repr] at h
  exact absurd (Nat.isDigit_of_mem_toDigits (by decide) (by decide) h) (by decide)

theorem exists_shows_summary (r : Report) : ∃ text,
    Shows r.summaryParagraph.toList (element (summaryTag r.valid) summaryEndTag text) := by
  have hopen : Shows ("<p class=\"" ++ (if r.valid then "valid" else "invalid") ++ "\">").toList
      [.tag (summaryTag r.valid)] := by
    cases r.valid <;> exact ⟨rfl, rfl⟩
  have hclose : Shows "</p>".toList [.tag summaryEndTag] := ⟨rfl, rfl⟩
  let text := (toString r.errors.length).toList ++ " errors, ".toList ++
    (toString r.warnings.length).toList ++ " warnings, ".toList ++
      (toString r.info.length).toList ++ " info".toList
  have htext : '<' ∉ text := by
    have herrors : '<' ∉ " errors, ".toList := by decide
    have hwarnings : '<' ∉ " warnings, ".toList := by decide
    have hinfo : '<' ∉ " info".toList := by decide
    simp only [text, List.mem_append, lt_not_mem_toString, herrors, hwarnings, hinfo, or_self,
      not_false_eq_true]
  have hsummary : r.summaryParagraph.toList =
      ("<p class=\"" ++ (if r.valid then "valid" else "invalid") ++ "\">").toList ++ text ++
        "</p>".toList := by
    have hend : " info</p>" = " info" ++ "</p>" := rfl
    unfold summaryParagraph
    rw [hend]
    generalize "<p class=\"" ++ (if r.valid then "valid" else "invalid") ++ "\">" = front
    simp only [text, String.toList_append, List.append_assoc]
  rw [hsummary]
  exact ⟨text, .element hopen htext hclose⟩

theorem exists_shows_footer (version : String) : ∃ text,
    Shows ("<footer>Story Linter v" ++ escaped version ++ "</footer>").toList
      (element footerTag footerEndTag text) := by
  have hopen : Shows "<footer>".toList [.tag footerTag] := ⟨rfl, rfl⟩
  have hclose : Shows "</footer>".toList [.tag footerEndTag] := ⟨rfl, rfl⟩
  have htext : '<' ∉ "Story Linter v".toList ++ (escaped version).toList := by
    have hname : '<' ∉ "Story Linter v".toList := by decide
    simp only [List.mem_append, hname, lt_not_mem_escaped, or_self, not_false_eq_true]
  have hfooter : ("<footer>Story Linter v" ++ escaped version ++ "</footer>").toList =
      "<footer>".toList ++ ("Story Linter v".toList ++ (escaped version).toList) ++
        "</footer>".toList := by
    have hbegin : "<footer>Story Linter v" = "<footer>" ++ "Story Linter v" := rfl
    rw [hbegin]
    simp only [String.toList_append, List.append_assoc]
  rw [hfooter]
  exact ⟨_, .element hopen htext hclose⟩

/-! ## Pages -/

/-- Lines of a page show these tags, with these texts in cells and those in cells over all columns. -/
def LinesShow (lines : List String) (tags : List Tag) (cells notes : List (List Char)) : Prop :=
  ∃ xs, Shows (withFeeds lines) xs ∧ xs.filterMap PageItem.tag? = tags ∧
    HasTexts cellTag xs cells ∧ HasTexts wideCellTag xs notes

/-- The tags of lines that are the same in every page. -/
def fixedTags (lines : List String) : List Tag :=
  (PageMode.text.items (withFeeds lines)).filterMap PageItem.tag?

namespace LinesShow

variable {lines more : List String} {tags moreTags : List Tag}
  {cells moreCells notes moreNotes : List (List Char)}

theorem append (h : LinesShow lines tags cells notes)
    (hmore : LinesShow more moreTags moreCells moreNotes) :
    LinesShow (lines ++ more) (tags ++ moreTags) (cells ++ moreCells) (notes ++ moreNotes) := by
  obtain ⟨xs, hshows, rfl, hcells, hnotes⟩ := h
  obtain ⟨ys, hshows', rfl, hcells', hnotes'⟩ := hmore
  refine ⟨xs ++ ys, ?_, List.filterMap_append, hcells.append hcells', hnotes.append hnotes'⟩
  rw [withFeeds, List.flatMap_append]
  exact hshows.append hshows'

theorem fixed (hafter : PageMode.text.after (withFeeds lines) = .text)
    (hcells : ∀ t ∈ fixedTags lines, t ≠ cellTag ∧ t ≠ wideCellTag) :
    LinesShow lines (fixedTags lines) [] [] := by
  have hmem {t : Tag} (ht : .tag t ∈ PageMode.text.items (withFeeds lines)) : t ∈ fixedTags lines :=
    List.mem_filterMap.2 ⟨_, ht, rfl⟩
  exact ⟨_, ⟨hafter, rfl⟩, rfl, .of_not_mem fun ht => (hcells _ (hmem ht)).1 rfl,
    .of_not_mem fun ht => (hcells _ (hmem ht)).2 rfl⟩

/-- A line that is no more than an element other than a cell. -/
theorem element {line : String} {t u : Tag} {text : List Char}
    (h : Shows line.toList (Web.element t u text)) (hcell : cellTag ≠ t ∧ cellTag ≠ u)
    (hwide : wideCellTag ≠ t ∧ wideCellTag ≠ u) : LinesShow [line] [t, u] [] [] := by
  refine ⟨_, h.withFeeds_singleton, ?_, .of_not_mem ?_, .of_not_mem ?_⟩
  · rw [List.filterMap_cons, PageItem.tag?_char]
    exact filterMap_tag?_element t u text
  · simpa using hcell
  · simpa using hwide

/-- The lines with the rows of issues. -/
theorem rows (issues : List Issue) :
    LinesShow (issues.map row) ((issues.map (·.severity)).flatMap rowTags)
      (issues.flatMap fun i => (rowTexts i).map fun text => (escaped text).toList) [] := by
  induction issues with
  | nil => exact ⟨[], .nil, rfl, .of_not_mem List.not_mem_nil, .of_not_mem List.not_mem_nil⟩
  | cons i rest ih =>
      have hrow : LinesShow [row i] (rowTags i.severity)
          ((rowTexts i).map fun text => (escaped text).toList) [] := by
        refine ⟨_, (shows_row i).withFeeds_singleton, ?_, ?_, .of_not_mem ?_⟩
        · rw [List.filterMap_cons, PageItem.tag?_char]
          exact filterMap_tag?_rowItems i
        · exact fun rest => hasTexts_rowItems i rest
        · simpa using wide_not_mem_rowItems i
      exact hrow.append ih

end LinesShow

/-- The tags that a page has by the severities of its issues and the outcome of the run. -/
def pageTags (valid : Bool) (severities : List Severity) : List Tag :=
  fixedTags pageTop ++ [summaryTag valid, summaryEndTag] ++ fixedTags tableTop ++
    (if severities.isEmpty then [rowStartTag, wideCellTag, cellEndTag, rowEndTag]
      else severities.flatMap rowTags) ++
    (fixedTags ["</tbody>", "</table>"] ++ [footerTag, footerEndTag] ++
      fixedTags ["</body>", "</html>", ""])

/-- The texts in the cells over all columns. -/
def pageNotes (issues : List Issue) : List (List Char) :=
  if issues.isEmpty then ["No issues found".toList] else []

/-- The row in an empty table. -/
theorem linesShow_note : LinesShow ["<tr><td colspan=\"5\">No issues found</td></tr>"]
    [rowStartTag, wideCellTag, cellEndTag, rowEndTag] [] ["No issues found".toList] := by
  have hshows : Shows "<tr><td colspan=\"5\">No issues found</td></tr>".toList
      ([.tag rowStartTag] ++ element wideCellTag cellEndTag "No issues found".toList ++
        [.tag rowEndTag]) := ⟨rfl, rfl⟩
  refine ⟨_, hshows.withFeeds_singleton, by decide, .of_not_mem (by decide), ?_⟩
  have hopen : HasTexts wideCellTag [.char '\n', .tag rowStartTag] [] := .of_not_mem (by decide)
  have hclose : HasTexts wideCellTag [.tag rowEndTag] [] := .of_not_mem (by decide)
  exact (hopen.append (.element "No issues found".toList (by decide))).append hclose

theorem linesShow_rows (r : Report) : LinesShow r.rows
    (if (r.issues.map (·.severity)).isEmpty then [rowStartTag, wideCellTag, cellEndTag, rowEndTag]
      else (r.issues.map (·.severity)).flatMap rowTags)
    (r.issues.flatMap fun i => (rowTexts i).map fun text => (escaped text).toList)
    (pageNotes r.issues) := by
  unfold rows pageNotes
  cases r.issues with
  | nil => exact linesShow_note
  | cons i rest => exact LinesShow.rows (i :: rest)

theorem linesShow_bottom (r : Report) : LinesShow r.pageBottom
    (fixedTags ["</tbody>", "</table>"] ++ [footerTag, footerEndTag] ++
      fixedTags ["</body>", "</html>", ""]) [] [] := by
  obtain ⟨version, hbottom⟩ : ∃ version, r.pageBottom = ["</tbody>", "</table>"] ++
      ["<footer>Story Linter v" ++ escaped version ++ "</footer>"] ++ ["</body>", "</html>", ""] :=
    ⟨_, rfl⟩
  obtain ⟨text, hfooter⟩ := exists_shows_footer version
  have habove : LinesShow ["</tbody>", "</table>"] (fixedTags ["</tbody>", "</table>"]) [] [] :=
    .fixed (by decide) (by decide)
  have hbelow : LinesShow ["</body>", "</html>", ""] (fixedTags ["</body>", "</html>", ""]) [] [] :=
    .fixed (by decide) (by decide)
  rw [hbottom]
  exact (habove.append (.element hfooter (by decide) (by decide))).append hbelow

/-- What the lines of a page show. -/
theorem linesShow_page (r : Report) :
    LinesShow (pageTop ++ [r.summaryParagraph] ++ tableTop ++ r.rows ++ r.pageBottom)
      (pageTags r.valid (r.issues.map (·.severity)))
      (r.issues.flatMap fun i => (rowTexts i).map fun text => (escaped text).toList)
      (pageNotes r.issues) := by
  obtain ⟨text, hsummary⟩ := exists_shows_summary r
  have htop : LinesShow pageTop (fixedTags pageTop) [] [] :=
    .fixed (by decide +kernel) (by decide +kernel)
  have htable : LinesShow tableTop (fixedTags tableTop) [] [] :=
    .fixed (by decide +kernel) (by decide +kernel)
  have hparagraph : LinesShow [r.summaryParagraph] [summaryTag r.valid, summaryEndTag] [] [] := by
    refine .element hsummary ?_ ?_ <;> cases r.valid <;> decide
  have hpage := (((htop.append hparagraph).append htable).append (linesShow_rows r)).append
    (linesShow_bottom r)
  simpa only [pageTags, List.nil_append, List.append_nil] using hpage

/-! ## What a page shows of a report -/

/-- A page shows issues: it leaves no tag open, its cells hold the texts of the issues in their
order, row by row, and a cell over all columns says where there are none. -/
structure PageShows (page : String) (issues : List Issue) : Prop where
  complete : PageMode.text.after page.toList = .text
  cells : (Web.textsIn cellTag page).map Web.unescape = issues.flatMap fun i =>
    [i.severity.name, i.code, i.location, i.message, i.suggestion.getD ""]
  notes : (Web.textsIn wideCellTag page).map Web.unescape =
    if issues.isEmpty then ["No issues found"] else []

/-- What is read in the page of a report. -/
theorem read_toHtml (r : Report) :
    Web.tags r.toHtml = pageTags r.valid (r.issues.map (·.severity)) ∧
      PageShows r.toHtml r.issues := by
  obtain ⟨xs, hshows, htags, hcells, hnotes⟩ := linesShow_page r
  obtain ⟨hafter, hpage, htexts⟩ := hshows.of_lines (by simp [pageTop])
  have hcell : Web.textsIn cellTag r.toHtml = _ := (htexts cellTag).trans hcells.textsBehind_eq
  have hnote : Web.textsIn wideCellTag r.toHtml = _ :=
    (htexts wideCellTag).trans hnotes.textsBehind_eq
  refine ⟨hpage.trans htags, hafter, ?_, ?_⟩
  · have hrow (i : Issue) :
        ((rowTexts i).map fun text => (escaped text).toList).map Web.unescape = rowTexts i := by
      rw [List.map_map]
      exact List.map_id'' unescape_escaped _
    rw [hcell, List.map_flatMap]
    exact List.flatMap_congr fun i _ => hrow i
  · rw [hnote, pageNotes]
    cases r.issues <;> rfl

/-- Reports with the same severities and outcome have pages with the same tags, whatever their
issues and the program's version say, and each page shows the texts of its own issues. -/
theorem toHtml_tags_of_severities {r r' : Report}
    (hseverities : r.issues.map (·.severity) = r'.issues.map (·.severity))
    (hvalid : r.valid = r'.valid) :
    Web.tags r.toHtml = Web.tags r'.toHtml ∧ PageShows r.toHtml r.issues ∧
      PageShows r'.toHtml r'.issues := by
  obtain ⟨htags, hshows⟩ := read_toHtml r
  obtain ⟨htags', hshows'⟩ := read_toHtml r'
  refine ⟨?_, hshows, hshows'⟩
  rw [htags, htags', hseverities, hvalid]

/-- An issue whose texts look like parts of a page. -/
def scriptIssue : Issue where
  code := "</td>"
  severity := .error
  message := "<script>alert(\"&lt;\")</script>"
  validator := "links"
  file := some "'a'.md\" onclick=\"b"
  line := some 3
  suggestion := some "&amp;#x27;</table>"

/-- The report on an issue, by a version. -/
def reportOn (issue : Issue) (version : String) : Report where
  valid := false
  errors := [issue]
  warnings := []
  info := []
  counts := .ofIssues [issue]
  cancelled := false
  about := some ⟨version, none⟩

/-- Texts that look like parts of a page leave the tags of the page as they are. -/
theorem script_not_shown_as_tag :
    let scripted := reportOn scriptIssue "</footer><script>"
    let plain := reportOn { scriptIssue with code := "LINK001", message := "Broken link" } "0.1.0"
    scripted.issues.map (·.severity) = plain.issues.map (·.severity) ∧
      scripted.valid = plain.valid ∧ Web.tags scripted.toHtml = Web.tags plain.toHtml ∧
        PageShows scripted.toHtml scripted.issues ∧ PageShows plain.toHtml plain.issues :=
  ⟨rfl, rfl, toHtml_tags_of_severities rfl rfl⟩

end Continuity.Report
