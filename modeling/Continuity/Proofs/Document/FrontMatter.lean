import Continuity.Proofs.Document.Content
import Continuity.Proofs.Markdown.BlocksAfter
import Continuity.Proofs.Path

/-! # Documents with front matter

Front matter is blanked out, and what stands after blank lines is read as it is alone. So the tree
of a document with front matter is the tree of its body alone, as many lines further down, and as
many characters further on, as the front matter takes. Whatever the front matter is, it leaves
nothing in the tree.
-/

namespace Continuity.Document

open Markdown (Node)
open Text (unlines)

/-- The lines are a block of front matter: the first of them opens it, and the last one is the
first that closes it. -/
structure IsFrontMatter (lines : List (List Char)) : Prop where
  lone : ∀ line ∈ lines, '\n' ∉ line
  delimited : ∃ opening inside closing, lines = opening :: (inside ++ [closing]) ∧
    opensFrontMatter opening = true ∧ (∀ line ∈ inside, closesFrontMatter line = false) ∧
      closesFrontMatter closing = true

variable {lines : List (List Char)} {body : List Char}

/-! ## Taking the front matter off -/

theorem splitOn_line {line : List Char} (h : '\n' ∉ line) (rest : List Char) :
    Text.splitOn '\n' (line ++ '\n' :: rest) = line :: Text.splitOn '\n' rest := by
  rw [Text.splitOn_eq, Text.splitOn_eq]
  apply List.splitOnP_append_cons_of_forall_mem
  · intro c hc
    rw [beq_eq_false_iff_ne]
    exact fun heq => h (heq ▸ hc)
  · rfl

theorem splitOn_unlines (h : ∀ line ∈ lines, '\n' ∉ line) (body : List Char) :
    Text.splitOn '\n' (unlines lines ++ body) = lines ++ Text.splitOn '\n' body := by
  induction lines with
  | nil => rfl
  | cons line lines ih =>
      obtain ⟨hline, hlines⟩ := List.forall_mem_cons.1 h
      rw [Text.unlines_cons, List.append_assoc, List.cons_append, splitOn_line hline, ih hlines]
      rfl

theorem joinWith_unlines {body : List (List Char)} (hbody : body ≠ []) :
    Text.joinWith '\n' (lines ++ body) = unlines lines ++ Text.joinWith '\n' body := by
  induction lines with
  | nil => rfl
  | cons line lines ih =>
      rw [List.cons_append, Text.joinWith_cons line (List.append_ne_nil_of_right_ne_nil lines hbody), ih,
        Text.unlines_cons, List.append_assoc, List.cons_append]

theorem closeFrontMatter?_append {inside : List (List Char)} {closing : List Char}
    (hinside : ∀ line ∈ inside, closesFrontMatter line = false)
    (hclosing : closesFrontMatter closing = true) (rest : List (List Char)) :
    closeFrontMatter? (inside ++ closing :: rest) = some (inside, closing, rest) := by
  induction inside with
  | nil => rw [List.nil_append, closeFrontMatter?, if_pos hclosing]
  | cons line inside ih =>
      obtain ⟨hline, hrest⟩ := List.forall_mem_cons.1 hinside
      rw [List.cons_append, closeFrontMatter?, hline, if_neg Bool.false_ne_true, ih hrest]
      rfl

theorem length_unlines (lines : List (List Char)) :
    (unlines lines).length = linesLength lines := by
  induction lines with
  | nil => rfl
  | cons line lines ih =>
      rw [Text.unlines_cons, List.length_append, List.length_cons, ih]
      simp only [linesLength, List.flatten_cons, List.length_append, List.length_cons]
      omega

/-- A block of front matter is taken off as a whole. -/
theorem splitFrontMatter_unlines (h : IsFrontMatter lines) (body : List Char) :
    (splitFrontMatter (unlines lines ++ body)).2 = (unlines lines).length := by
  obtain ⟨opening, inside, closing, rfl, hopening, hinside, hclosing⟩ := h.delimited
  have hbody : (Text.splitOn '\n' body).isEmpty = false := by
    rw [Text.splitOn_eq, List.isEmpty_eq_false_iff]
    exact List.splitOn_ne_nil '\n' body
  rw [splitFrontMatter, splitOn_unlines h.lone, List.cons_append, List.append_assoc,
    List.singleton_append]
  dsimp only
  rw [if_pos hopening, closeFrontMatter?_append hinside hclosing]
  dsimp only
  rw [hbody, if_neg Bool.false_ne_true, length_unlines]
  simp only [linesLength, List.flatten_cons, List.flatten_append, List.length_append,
    List.length_cons, List.flatten_nil, List.length_nil]
  omega

/-! ## Blanking it out -/

/-- Lines of spaces, as long as these lines. -/
def blanked (lines : List (List Char)) : List (List Char) :=
  lines.map fun line => line.map fun _ => ' '

theorem eq_space_of_mem_blanked : ∀ line ∈ blanked lines, ∀ c ∈ line, c = ' ' := by
  intro line hline c hc
  obtain ⟨line, -, rfl⟩ := List.mem_map.1 hline
  obtain ⟨-, -, rfl⟩ := List.mem_map.1 hc
  rfl

theorem map_unlines (h : ∀ line ∈ lines, '\n' ∉ line) :
    (unlines lines).map (fun c => if c == '\n' then c else ' ') = unlines (blanked lines) := by
  induction lines with
  | nil => rfl
  | cons line lines ih =>
      obtain ⟨hline, hlines⟩ := List.forall_mem_cons.1 h
      rw [blanked, List.map_cons, Text.unlines_cons, Text.unlines_cons, List.map_append,
        List.map_cons, ih hlines]
      congr 1
      refine List.map_congr_left fun c hc => if_neg ?_
      intro heq
      exact hline (eq_of_beq heq ▸ hc)

theorem blankUpTo_unlines (h : ∀ line ∈ lines, '\n' ∉ line) (body : List Char) :
    blankUpTo (unlines lines).length (unlines lines ++ body) = unlines (blanked lines) ++ body := by
  rw [blankUpTo, List.take_left, List.drop_left, map_unlines h]

theorem length_unlines_blanked (lines : List (List Char)) :
    (unlines (blanked lines)).length = (unlines lines).length := by
  induction lines with
  | nil => rfl
  | cons line lines ih =>
      rw [blanked, List.map_cons, Text.unlines_cons, Text.unlines_cons, List.length_append,
        List.length_append, List.length_cons, List.length_cons, List.length_map, ← ih]
      rfl

/-! ## The tree of the body -/

/-- A document with front matter has the tree that its body has alone, as many lines and characters
further on as the front matter takes. Nothing in the front matter is in the tree. -/
theorem children_after_frontMatter {session : Yaml.Session} {path : Path} {name : String}
    {d : Document} (hlines : IsFrontMatter lines)
    (h : (ofContent session path name (unlines lines ++ body)).1 = .ok d) :
    let start := (splitFrontMatter (unlines lines ++ body)).2
    start = (unlines lines).length ∧
      d.root.children = Node.afterAll lines.length start (Markdown.parse body).children ∧
      ∀ n ∈ Node.walkAll d.root.children, ∃ span, n.span = some span ∧
        lines.length < span.start.line ∧ start ≤ span.start.offset := by
  intro start
  have hstart : start = (unlines lines).length := splitFrontMatter_unlines hlines body
  obtain ⟨-, -, hroot⟩ := content_of_ofContent h
  have hchildren : d.root.children =
      Node.afterAll lines.length start (Markdown.parse body).children := by
    rw [hroot, ← index_blankUpTo (splitFrontMatter (unlines lines ++ body)).2]
    change (Markdown.parse (blankUpTo start (unlines lines ++ body))).children = _
    rw [hstart, blankUpTo_unlines hlines.lone,
      Markdown.children_parse_unlines eq_space_of_mem_blanked, length_unlines_blanked, blanked,
      List.length_map]
  refine ⟨hstart, hchildren, fun n hn => ?_⟩
  rw [hchildren, Node.walkAll_afterAll] at hn
  obtain ⟨m, hm, rfl⟩ := List.mem_map.1 hn
  obtain ⟨first, last, hspan⟩ := Markdown.Source.exists_span_blocks _ hm
  have hline := Text.LineIndex.one_le_line (.ofText body) first
  refine ⟨_, (m.span_after lines.length start).trans (by rw [hspan]; rfl), ?_, ?_⟩
  · exact Nat.lt_add_of_pos_right hline
  · exact Nat.le_add_right _ _

/-- A block of front matter of three lines. -/
def titled : List (List Char) := ["---".toList, "title: Ann".toList, "---".toList]

theorem titled_children_after : ∃ d,
    (ofContent {} ⟨.absolute, ["a.md"]⟩ "a.md" (unlines titled ++ "# Ann\n".toList)).1 = .ok d ∧
      d.root.children = Node.afterAll 3 19 (Markdown.parse "# Ann\n".toList).children := by
  have hlines : IsFrontMatter titled :=
    ⟨by decide +kernel, _, ["title: Ann".toList], _, rfl, by decide +kernel, by decide +kernel,
      by decide +kernel⟩
  have hread : (ofContent {} ⟨.absolute, ["a.md"]⟩ "a.md"
      (unlines titled ++ "# Ann\n".toList)).1.isOk = true := by decide +kernel
  cases h : (ofContent {} ⟨.absolute, ["a.md"]⟩ "a.md" (unlines titled ++ "# Ann\n".toList)).1 with
  | error fault =>
      rw [h] at hread
      cases hread
  | ok d =>
      obtain ⟨hstart, hchildren, -⟩ := children_after_frontMatter hlines h
      have hlength : (unlines titled).length = 19 := by decide +kernel
      rw [hstart, hlength] at hchildren
      exact ⟨d, rfl, hchildren⟩

/-! ## What is blanked out -/

theorem eq_of_closeFrontMatter? {raw body : List (List Char)} {close : List Char}
    (h : closeFrontMatter? lines = some (raw, close, body)) : lines = raw ++ close :: body := by
  induction lines generalizing raw with
  | nil => cases h
  | cons line rest ih =>
      rw [closeFrontMatter?] at h
      split at h
      · cases h
        rfl
      · obtain ⟨⟨later, _, _⟩, hrest, heq⟩ := Option.map_eq_some_iff.1 h
        cases heq
        exact congrArg (line :: ·) (ih hrest)

theorem blankUpTo_lines {last : List Char} (hlines : ∀ line ∈ lines, '\n' ∉ line)
    (hlast : '\n' ∉ last) : ∃ spaces : List Char, (∀ c ∈ spaces, c = ' ') ∧
      blankUpTo (linesLength lines + last.length) (unlines lines ++ last) =
        unlines (blanked lines) ++ spaces := by
  refine ⟨last.map fun c => if c == '\n' then c else ' ', ?_, ?_⟩
  · intro c hc
    obtain ⟨original, horiginal, rfl⟩ := List.mem_map.1 hc
    refine if_neg ?_
    intro heq
    exact hlast (eq_of_beq heq ▸ horiginal)
  · rw [← length_unlines, ← List.length_append, blankUpTo, List.take_length, List.drop_length,
      List.append_nil, List.map_append, map_unlines hlines]

/-- What is read of a document are blank lines, and after them its body; where the document ends
with its front matter, spaces are in the place of a body. -/
theorem blankUpTo_splitFrontMatter (content : List Char) :
    ∃ front body : List _, (∀ line ∈ front, ∀ c ∈ line, c = ' ') ∧
      blankUpTo (splitFrontMatter content).2 content = unlines front ++ body ∧
      ((splitFrontMatter content).2 = (unlines front).length ∨ ∀ c ∈ body, c = ' ') := by
  have hcontent := Text.joinWith_splitOn '\n' content
  have hlone : ∀ line ∈ Text.splitOn '\n' content, '\n' ∉ line :=
    fun _ => Text.not_mem_of_mem_splitOn
  have hnone : blankUpTo 0 content = unlines [] ++ content := rfl
  rw [splitFrontMatter]
  split
  next => exact ⟨[], content, nofun, hnone, .inl rfl⟩
  next first rest hlines =>
    rw [hlines] at hcontent hlone
    split
    next =>
      split
      next => exact ⟨[], content, nofun, hnone, .inl rfl⟩
      next raw close body hclose =>
        obtain rfl := eq_of_closeFrontMatter? hclose
        rw [← List.cons_append] at hcontent hlone
        cases body with
        | nil =>
            rw [joinWith_unlines (List.cons_ne_nil _ _)] at hcontent
            obtain ⟨hmatter, hclosing⟩ := List.forall_mem_append.1 hlone
            obtain ⟨spaces, hspaces, heq⟩ :=
              blankUpTo_lines hmatter (hclosing close List.mem_cons_self)
            exact ⟨_, spaces, eq_space_of_mem_blanked, hcontent ▸ heq, .inr hspaces⟩
        | cons line body =>
            rw [List.append_cons, joinWith_unlines (List.cons_ne_nil _ _)] at hcontent
            rw [List.append_cons] at hlone
            have hlength : linesLength (first :: raw) + close.length + 1 =
                (unlines (first :: raw ++ [close])).length := by
              rw [length_unlines]
              simp only [linesLength, List.flatten_append, List.length_append, List.flatten_cons,
                List.flatten_nil, List.length_cons, List.length_nil]
              omega
            have hblank := blankUpTo_unlines (List.forall_mem_append.1 hlone).1
              (Text.joinWith '\n' (line :: body))
            rw [hcontent, ← hlength] at hblank
            rw [← length_unlines_blanked] at hlength
            exact ⟨_, _, eq_space_of_mem_blanked, hblank, .inl hlength⟩
    next => exact ⟨[], content, nofun, hnone, .inl rfl⟩

/-! ## Where it is split -/

/-- A line that closes front matter, whatever blanks stand at its end. -/
def IsClosing (line : List Char) : Prop :=
  Text.trimEnd line = "---".toList ∨ Text.trimEnd line = "...".toList

/-- The first of some lines opens front matter, and the line with this index is the first later one
that closes it. -/
structure ClosedAt (lines : List (List Char)) (i : Nat) : Prop where
  opening : ∃ line, lines[0]? = some line ∧ Text.trimEnd line = "---".toList
  later : 0 < i
  closing : ∃ line, lines[i]? = some line ∧ IsClosing line
  first : ∀ j line, 0 < j → j < i → lines[j]? = some line → ¬ IsClosing line

/-- The lines up to one with this index, each with its line feed, which a last line does not have. -/
def through (lines : List (List Char)) (i : Nat) : List Char :=
  if i + 1 < lines.length then unlines (lines.take (i + 1))
  else Text.joinWith '\n' (lines.take (i + 1))

/-- What splitting a document comes to, by its lines: what stands between the line that opens front
matter and the first one that closes it, and the offset at which the lines up to that one end and
those after it begin. Without such lines there is no front matter, and the body is all there is. -/
inductive SplitsInto (content : List Char) : Option (List Char) × Nat → Prop where
  | unmarked (h : ∀ i, ¬ ClosedAt (Text.splitOn '\n' content) i) : SplitsInto content (none, 0)
  | closed {i start : Nat} (h : ClosedAt (Text.splitOn '\n' content) i)
      (hstart : start ≤ content.length)
      (hfront : content.take start = through (Text.splitOn '\n' content) i)
      (hbody : content.drop start = Text.joinWith '\n' ((Text.splitOn '\n' content).drop (i + 1))) :
      SplitsInto content
        (some (Text.joinWith '\n' (((Text.splitOn '\n' content).take i).drop 1)), start)

theorem closesFrontMatter_iff {line : List Char} :
    closesFrontMatter line = true ↔ IsClosing line := by
  rw [closesFrontMatter, opensFrontMatter, Bool.or_eq_true, beq_iff_eq, beq_iff_eq]
  rfl

theorem closesFrontMatter_eq_false_iff {line : List Char} :
    closesFrontMatter line = false ↔ ¬ IsClosing line := by
  rw [← closesFrontMatter_iff, Bool.not_eq_true]

theorem closing_of_closeFrontMatter? {raw body : List (List Char)} {close : List Char}
    (h : closeFrontMatter? lines = some (raw, close, body)) :
    (∀ line ∈ raw, closesFrontMatter line = false) ∧ closesFrontMatter close = true := by
  induction lines generalizing raw with
  | nil => cases h
  | cons line rest ih =>
      rw [closeFrontMatter?] at h
      split at h
      next hline =>
        cases h
        exact ⟨nofun, hline⟩
      next hline =>
        obtain ⟨⟨later, _, _⟩, hrest, heq⟩ := Option.map_eq_some_iff.1 h
        cases heq
        obtain ⟨hlater, hclose⟩ := ih hrest
        exact ⟨List.forall_mem_cons.2 ⟨Bool.eq_false_iff.2 hline, hlater⟩, hclose⟩

theorem closes_of_closeFrontMatter?_eq_none (h : closeFrontMatter? lines = none) :
    ∀ line ∈ lines, closesFrontMatter line = false := by
  induction lines with
  | nil => exact nofun
  | cons line rest ih =>
      rw [closeFrontMatter?] at h
      split at h
      · cases h
      next hline =>
        exact List.forall_mem_cons.2 ⟨Bool.eq_false_iff.2 hline, ih (Option.map_eq_none_iff.1 h)⟩

namespace ClosedAt

theorem unique {i j : Nat} (h : ClosedAt lines i) (h' : ClosedAt lines j) : i = j := by
  obtain ⟨close, hclose, hclosing⟩ := h.closing
  obtain ⟨close', hclose', hclosing'⟩ := h'.closing
  rcases Nat.lt_trichotomy i j with hlt | heq | hlt
  · exact absurd hclosing (h'.first i close h.later hlt hclose)
  · exact heq
  · exact absurd hclosing' (h.first j close' h'.later hlt hclose')

theorem of_eq {opening close : List Char} {inside body : List (List Char)}
    (hopening : opensFrontMatter opening = true)
    (hinside : ∀ line ∈ inside, closesFrontMatter line = false)
    (hclose : closesFrontMatter close = true) :
    ClosedAt (opening :: (inside ++ close :: body)) (inside.length + 1) where
  opening := ⟨opening, rfl, eq_of_beq hopening⟩
  later := Nat.succ_pos _
  closing := ⟨close, by simp, closesFrontMatter_iff.1 hclose⟩
  first := by
    intro j line hj hlt hline
    obtain ⟨j, rfl⟩ : ∃ k, j = k + 1 := ⟨j - 1, by omega⟩
    rw [List.getElem?_cons_succ, List.getElem?_append_left (by omega)] at hline
    exact closesFrontMatter_eq_false_iff.1 (hinside line (List.mem_of_getElem? hline))

theorem not_of_unopened {opening : List Char} {rest : List (List Char)}
    (h : opensFrontMatter opening = false) (i : Nat) : ¬ ClosedAt (opening :: rest) i := by
  intro hclosed
  obtain ⟨line, hline, htrim⟩ := hclosed.opening
  obtain rfl := Option.some.inj hline
  rw [opensFrontMatter, beq_eq_false_iff_ne] at h
  exact h htrim

theorem not_of_unclosed {opening : List Char} {rest : List (List Char)}
    (h : closeFrontMatter? rest = none) (i : Nat) : ¬ ClosedAt (opening :: rest) i := by
  intro hclosed
  obtain ⟨line, hline, hclosing⟩ := hclosed.closing
  obtain ⟨i, rfl⟩ : ∃ k, i = k + 1 := ⟨i - 1, by have := hclosed.later; omega⟩
  have hmem : line ∈ rest := List.mem_of_getElem? (List.getElem?_cons_succ.symm.trans hline)
  exact closesFrontMatter_eq_false_iff.1 (closes_of_closeFrontMatter?_eq_none h line hmem) hclosing

end ClosedAt

theorem through_append_cons (front : List (List Char)) (close line : List Char)
    (body : List (List Char)) :
    through (front ++ close :: line :: body) front.length = unlines (front ++ [close]) := by
  have hlt : front.length + 1 < (front ++ close :: line :: body).length := by simp
  rw [through, if_pos hlt, List.append_cons, List.take_left' (by simp)]

theorem through_append_singleton (front : List (List Char)) (close : List Char) :
    through (front ++ [close]) front.length = Text.joinWith '\n' (front ++ [close]) := by
  have hlast : ¬ front.length + 1 < (front ++ [close]).length := by simp
  rw [through, if_neg hlast, List.take_of_length_le (by simp)]

theorem SplitsInto.of_lines {content opening close : List Char} {inside body : List (List Char)}
    (hlines : Text.splitOn '\n' content = opening :: (inside ++ close :: body))
    (hclosed : ClosedAt (opening :: (inside ++ close :: body)) (inside.length + 1)) :
    SplitsInto content (some (Text.joinWith '\n' inside),
      if body.isEmpty then linesLength (opening :: inside) + close.length
      else linesLength (opening :: inside) + close.length + 1) := by
  have hcontent := Text.joinWith_splitOn '\n' content
  rw [hlines] at hcontent
  have hsplit {start : Nat} (hstart : start ≤ content.length)
      (hfront : content.take start = through (opening :: inside ++ close :: body) (inside.length + 1))
      (hbody : content.drop start = Text.joinWith '\n' body) :
      SplitsInto content (some (Text.joinWith '\n' inside), start) := by
    have hinside : ((opening :: (inside ++ close :: body)).take (inside.length + 1)).drop 1 =
        inside := by simp
    have hafter : (opening :: (inside ++ close :: body)).drop (inside.length + 1 + 1) = body := by
      simp [← List.drop_drop]
    rw [← hlines] at hclosed
    have hsplit := SplitsInto.closed hclosed hstart (hlines ▸ hfront) (by rw [hlines, hafter, hbody])
    rwa [hlines, hinside] at hsplit
  cases body with
  | nil =>
      have hlength : linesLength (opening :: inside) + close.length = content.length := by
        rw [← hcontent, ← List.cons_append, joinWith_unlines (List.cons_ne_nil _ _),
          List.length_append, length_unlines]
        rfl
      rw [List.isEmpty_nil, if_pos rfl, hlength]
      refine hsplit (Nat.le_refl _) ?_ ?_
      · rw [List.take_length]
        exact hcontent.symm.trans (through_append_singleton (opening :: inside) close).symm
      · rw [List.drop_length]
        rfl
  | cons line body =>
      have hparts : content =
          unlines (opening :: inside ++ [close]) ++ Text.joinWith '\n' (line :: body) := by
        rw [← joinWith_unlines (List.cons_ne_nil _ _), List.append_assoc]
        exact hcontent.symm
      have hlength : linesLength (opening :: inside) + close.length + 1 =
          (unlines (opening :: inside ++ [close])).length := by
        rw [length_unlines]
        simp only [linesLength, List.flatten_append, List.length_append, List.flatten_cons,
          List.flatten_nil, List.length_cons, List.length_nil]
        omega
      refine hsplit ?_ ?_ ?_
      · rw [hparts, List.length_append]
        exact hlength ▸ Nat.le_add_right _ _
      · rw [hparts]
        exact (List.take_left' hlength.symm).trans
          (through_append_cons (opening :: inside) close line body).symm
      · rw [hparts]
        exact List.drop_left' hlength.symm

/-- Splitting a document finds the line that closes its front matter and adds up the lengths of the
lines up to there. -/
theorem splitsInto_splitFrontMatter (content : List Char) :
    SplitsInto content (splitFrontMatter content) := by
  rw [splitFrontMatter]
  split
  next hlines =>
    rw [Text.splitOn_eq] at hlines
    exact absurd hlines (List.splitOn_ne_nil '\n' content)
  next opening rest hlines =>
    split
    next hopening =>
      split
      next hclose => exact .unmarked (hlines ▸ ClosedAt.not_of_unclosed hclose)
      next inside close body hclose =>
        obtain ⟨hinside, hclosing⟩ := closing_of_closeFrontMatter? hclose
        obtain rfl := eq_of_closeFrontMatter? hclose
        exact .of_lines hlines (.of_eq hopening hinside hclosing)
    next hopening =>
      exact .unmarked (hlines ▸ ClosedAt.not_of_unopened (Bool.eq_false_iff.2 hopening))

/-- A document splits in one way only. -/
theorem SplitsInto.unique {content : List Char} {split split' : Option (List Char) × Nat}
    (h : SplitsInto content split) (h' : SplitsInto content split') : split = split' := by
  cases h with
  | unmarked hnone =>
      cases h' with
      | unmarked => rfl
      | closed hclosed => exact absurd hclosed (hnone _)
  | @closed i start hclosed hstart hfront =>
      cases h' with
      | unmarked hnone => exact absurd hclosed (hnone _)
      | @closed j start' hclosed' hstart' hfront' =>
          obtain rfl := hclosed.unique hclosed'
          have hlength := congrArg List.length (hfront.trans hfront'.symm)
          rw [List.length_take_of_le hstart, List.length_take_of_le hstart'] at hlength
          rw [hlength]

/-- A document is split where the first line opens front matter and the first later line that closes
it stands, and nowhere else. -/
theorem splitFrontMatter_exact (content : List Char) (split : Option (List Char) × Nat) :
    splitFrontMatter content = split ↔ SplitsInto content split := by
  constructor
  · rintro rfl
    exact splitsInto_splitFrontMatter content
  · exact (splitsInto_splitFrontMatter content).unique

/-- A line of blanks inside front matter does not close it, blanks after the marks do not matter,
and nothing has to follow the last line. -/
example : splitFrontMatter "--- \na: 1\n\n...\u00A0".toList = (some "a: 1\n".toList, 15) := by
  decide +kernel

/-! ## What is left of it in the tree -/

/-- Every node of a document but its root begins in the body. -/
theorem start_le_of_mem {session : Yaml.Session} {path : Path} {name : String} {content : List Char}
    {d : Document} (h : (ofContent session path name content).1 = .ok d) {n : Node}
    (hn : n ∈ Node.walkAll d.root.children) :
    ∃ span, n.span = some span ∧ (splitFrontMatter content).2 ≤ span.start.offset := by
  obtain ⟨front, body, hfront, hblank, hbody⟩ := blankUpTo_splitFrontMatter content
  obtain ⟨-, -, hroot⟩ := content_of_ofContent h
  rw [hroot, ← index_blankUpTo (splitFrontMatter content).2, hblank] at hn
  change n ∈ Node.walkAll (Markdown.parse (unlines front ++ body)).children at hn
  rw [Markdown.children_parse_unlines hfront, Node.walkAll_afterAll] at hn
  obtain ⟨m, hm, rfl⟩ := List.mem_map.1 hn
  rcases hbody with hstart | hspaces
  · obtain ⟨first, last, hspan⟩ := Markdown.Source.exists_span_blocks _ hm
    refine ⟨_, (m.span_after front.length (unlines front).length).trans (by rw [hspan]; rfl), ?_⟩
    exact hstart ▸ Nat.le_add_right _ _
  · have hnil : (Markdown.parse body).children = [] :=
      congrArg (Markdown.Source.placeBlocks _) (Markdown.parseBlocks_spaces hspaces)
    rw [hnil] at hm
    cases hm

end Continuity.Document
