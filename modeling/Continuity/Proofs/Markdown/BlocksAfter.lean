import Continuity.Markdown.Block.Parser
import Continuity.Proofs.Markdown.LinesAfter

/-! # Blocks read after blank lines

Blocks are read from lines, and blank lines in front of the first block are skipped. So a text that
stands after blank lines has the blocks that it has alone, as many lines further down.
-/

namespace Continuity.Markdown

open Text (unlines)

namespace Scope

variable {s t : Scope} {k n : Nat}

/-- What was gathered for a definition, some lines further down. -/
def Gathered.after (lines : Nat) (g : Gathered) : Gathered := { g with next := lines + g.next }

theorem Gathered.text_after (lines : Nat) (g : Gathered) : (g.after lines).text = g.text := rfl

theorem Gathered.next_after (lines : Nat) (g : Gathered) :
    (g.after lines).next = lines + g.next := rfl

section

variable (h : s.After k n t)
include h

/-! ## Definitions -/

theorem After.wholeText (i : Nat) : t.wholeText (k + i) = s.wholeText i := by
  rw [Scope.wholeText, h.line, Line.textStart_after, Line.stop_after, Nat.add_assoc]
  exact h.slice _ _

theorem After.gather? (g : Gathered) : t.gather? (g.after k) = (s.gather? g).map (.after k) := by
  rw [Scope.gather?, Scope.gather?, Gathered.next_after, Gathered.text_after, h.lineCount,
    h.isEmpty, h.continuesParagraph, h.interrupts, h.wholeText]
  simp only [Nat.add_le_add_iff_left]
  split
  next => rfl
  next => split <;> rfl

theorem After.gather (g : Gathered) : t.gather (g.after k) = (s.gather g).after k := by
  rw [Scope.gather, Scope.gather, h.gather?]
  cases s.gather? g <;> rfl

theorem After.definitionLabel? (fuel : Nat) (g : Gathered) (pos : Nat) :
    t.definitionLabel? fuel (g.after k) pos =
      (s.definitionLabel? fuel g pos).map (Prod.map (.after k) id) := by
  induction fuel generalizing g pos with
  | zero => rfl
  | succ fuel ih =>
      rw [Scope.definitionLabel?, Scope.definitionLabel?]
      simp only [Gathered.text_after, h.gather, ih]
      split
      case h_5 => split <;> rw [ih]
      all_goals rfl

theorem After.skipBetween (fuel : Nat) (g : Gathered) (pos : Nat) :
    t.skipBetween fuel (g.after k) pos = (s.skipBetween fuel g pos).map (.after k) id := by
  induction fuel generalizing g pos with
  | zero => rfl
  | succ fuel ih =>
      rw [Scope.skipBetween, Scope.skipBetween, Gathered.text_after, h.gather, ih, ih]
      split
      next => rfl
      next => split <;> rfl
      next => rfl

theorem After.finishTitle (fuel : Nat) (g : Gathered) (title : TitleRead) :
    t.finishTitle fuel (g.after k) title = (s.finishTitle fuel g title).map (.after k) id := by
  induction fuel generalizing g title with
  | zero => rfl
  | succ fuel ih =>
      cases title with
      | unfinished mark before =>
          rw [Scope.finishTitle, Scope.finishTitle, h.gather?]
          cases s.gather? g with
          | none => rfl
          | some more => exact ih more _
      | closed | refused => rfl

theorem After.definitionTitle? (fuel : Nat) (g : Gathered) (pos : Nat) :
    t.definitionTitle? fuel (g.after k) pos =
      (s.definitionTitle? fuel g pos).map (Prod.map id (k + ·)) := by
  rw [Scope.definitionTitle?, Scope.definitionTitle?, h.skipBetween]
  rcases s.skipBetween fuel g pos with ⟨begun, start⟩
  dsimp only [Prod.map_apply, id]
  rw [Gathered.text_after, h.finishTitle]
  rcases s.finishTitle fuel begun (readTitle begun.text start begun.text.size) with ⟨last, title⟩
  have hnext : ((last.after k).next != (begun.after k).next) = (last.next != begun.next) := by
    rw [Bool.eq_iff_iff, bne_iff_ne, bne_iff_ne, Gathered.next_after, Gathered.next_after]
    exact not_congr Nat.add_left_cancel_iff
  dsimp +instances only [Prod.map_apply, id]
  rw [hnext, Gathered.text_after]
  cases title with
  | closed part =>
      dsimp only
      split
      next =>
        split
        next => rfl
        next =>
          split
          next => rfl
          next => split <;> rfl
      next => split <;> rfl
  | unfinished | refused =>
      dsimp only
      split <;> rfl

/-- The definition that was found, some lines further down. -/
def DefinitionFound.after (lines : Nat) (d : DefinitionFound) : DefinitionFound :=
  { d with next := lines + d.next }

theorem After.definition? (i : Nat) : t.definition? (k + i) = (s.definition? i).map (.after k) := by
  have hfuel : n + s.src.size + 2 - (n + (s.line i).start) = s.src.size + 2 - (s.line i).start := by
    omega
  rw [Scope.definition?, Scope.definition?, h.isCodeIndented, h.firstChar?, h.size, h.line,
    Line.start_after, h.wholeText, hfuel]
  split
  next => rfl
  next =>
    have hlabel := h.definitionLabel? (s.src.size + 2 - (s.line i).start)
      ⟨(s.wholeText i).toArray, i + 1⟩ 1
    dsimp only
    rw [Gathered.after, ← Nat.add_assoc] at hlabel
    rw [hlabel]
    cases s.definitionLabel? (s.src.size + 2 - (s.line i).start)
        ⟨(s.wholeText i).toArray, i + 1⟩ 1 with
    | none => rfl
    | some found =>
        obtain ⟨g, close⟩ := found
        dsimp only [Option.map_some, Option.bind_some, Prod.map_apply, id]
        rw [Gathered.text_after, h.skipBetween]
        split
        next => rfl
        next =>
          rcases s.skipBetween (s.src.size + 2 - (s.line i).start) g (close + 2) with ⟨g, pos⟩
          dsimp only [Prod.map_apply, id]
          rw [Gathered.text_after]
          cases destination? g.text pos g.text.size with
          | none => rfl
          | some part =>
              dsimp only [Option.bind_some]
              rw [h.definitionTitle?]
              split
              next => rfl
              next =>
                cases s.definitionTitle? (s.src.size + 2 - (s.line i).start) g part.next with
                | none => rfl
                | some title =>
                    dsimp only [Option.map_some, Option.bind_some]
                    split <;> rfl

/-! ## Quotations and lists -/

theorem After.skipGaps (stop base fuel pos : Nat) (column : Int) :
    Scope.skipGaps t.src (n + stop) base fuel (n + pos) column =
      (Scope.skipGaps s.src stop base fuel pos column).map (n + ·) id := by
  induction fuel generalizing pos column with
  | zero => rfl
  | succ fuel ih =>
      rw [Scope.skipGaps, Scope.skipGaps, h.src]
      simp only [Nat.add_le_add_iff_left, Nat.add_assoc, ih]
      split
      next => rfl
      next => split <;> rfl

theorem After.quotedLine (l : Line) : t.quotedLine (l.after n) = (s.quotedLine l).after n := by
  rw [Scope.quotedLine, Scope.quotedLine]
  dsimp only
  rw [Line.textStart_after, Line.indent_after, Line.base_after, Line.stop_after,
    Nat.add_assoc n l.textStart, h.src, Nat.add_assoc n, Nat.add_sub_add_left, h.skipGaps]
  dsimp only [Prod.map_fst, Prod.map_snd, id]
  rw [Nat.add_sub_add_left]
  rfl

/-- A line can be changed alike in both. -/
theorem After.setLine (i : Nat) (l : Line) :
    ({ s with lines := s.lines.setIfInBounds i l } : Scope).After k n
      { t with lines := t.lines.setIfInBounds (k + i) (l.after n) } where
  src := h.src
  size := h.size
  linesSize := by
    rw [Array.size_setIfInBounds, Array.size_setIfInBounds, h.linesSize]
  line j := by
    have hline := h.line j
    simp only [Scope.line, Array.getD_eq_getD_getElem?, Array.getElem?_setIfInBounds,
      h.linesSize, Nat.add_left_cancel_iff, Nat.add_lt_add_iff_left] at hline ⊢
    split
    next =>
      split
      next => rfl
      next => rw [h.size]; rfl
    next => exact hline
  lineCount := h.lineCount
  indent := h.indent
  listIndent := h.listIndent

theorem After.withIndent (indent : Int) :
    ({ s with indent } : Scope).After k n { t with indent } :=
  { h with indent := rfl }

theorem After.withLineCount (lineCount : Nat) :
    ({ s with lineCount } : Scope).After k n { t with lineCount := k + lineCount } :=
  { h with lineCount := rfl }

end

theorem After.quotation (h : s.After k n t) (stop fuel : Nat) (lastEmpty : Bool) (i : Nat) :
    (s.quotation stop fuel lastEmpty i).scope.After k n
        (t.quotation (k + stop) fuel lastEmpty (k + i)).scope ∧
      (t.quotation (k + stop) fuel lastEmpty (k + i)).next =
        k + (s.quotation stop fuel lastEmpty i).next := by
  induction fuel generalizing s t lastEmpty i with
  | zero => exact ⟨h, rfl⟩
  | succ fuel ih =>
      have hmarked : (t.firstChar? (k + i) == some '>' &&
            decide ((t.line (k + i)).indent ≥ t.indent)) =
          (s.firstChar? i == some '>' && decide ((s.line i).indent ≥ s.indent)) := by
        rw [h.firstChar?, h.lineIndent, h.indent]
      rw [Scope.quotation, Scope.quotation]
      dsimp only
      rw [hmarked, h.line, Line.isEmpty_after, h.interrupts, h.quotedLine, Line.isEmpty_after]
      simp only [Nat.add_le_add_iff_left]
      split
      next => exact ⟨h, rfl⟩
      next =>
        split
        next => exact ih (h.setLine i _) _ (i + 1)
        next =>
          split
          next => exact ⟨h, rfl⟩
          next =>
            split
            next =>
              refine ⟨?_, rfl⟩
              by_cases hindent : s.indent = 0
              · rw [if_pos hindent, if_pos (h.indent.trans hindent)]
                exact h.withLineCount i
              · have hline : ({ (s.line i).after n with
                      indent := ((s.line i).after n).indent - t.indent } : Line) =
                    ({ s.line i with indent := (s.line i).indent - s.indent } : Line).after n := by
                  rw [Line.indent_after, h.indent]
                  rfl
                rw [if_neg hindent, if_neg fun heq => hindent (h.indent.symm.trans heq), hline]
                exact (h.setLine i _).withLineCount i
            next => exact ih (h.setLine i _) _ (i + 1)

theorem ListMark.next_after (chars : Nat) (mark : ListMark) :
    (mark.after chars).next = chars + mark.next := rfl

theorem After.itemScope (h : s.After k n t) (i : Nat) (mark : ListMark) :
    (s.itemScope i mark).1.After k n (t.itemScope (k + i) (mark.after n)).1 ∧
      (t.itemScope (k + i) (mark.after n)).2 = (s.itemScope i mark).2 := by
  have hinitial : (s.line i).indent + ((n + mark.next : Nat) : Int) -
        ((n + (s.line i).textStart : Nat) : Int) =
      (s.line i).indent + (mark.next : Int) - ((s.line i).textStart : Int) := by
    omega
  rw [Scope.itemScope, Scope.itemScope]
  dsimp only
  rw [h.line, Line.indent_after, Line.textStart_after, Line.base_after, Line.stop_after,
    Line.start_after, ListMark.next_after, hinitial, Nat.add_sub_add_left, h.skipGaps]
  generalize Scope.skipGaps s.src (s.line i).stop (s.line i).base _ mark.next _ = found
  obtain ⟨text, column⟩ := found
  dsimp +instances only [Prod.map_apply, id]
  simp only [Nat.add_le_add_iff_left, Nat.add_sub_add_left]
  have hline := h.setLine i
    { s.line i with shift := text - (s.line i).start, indent := column }
  exact ⟨{ hline with indent := rfl, listIndent := h.indent }, trivial⟩

theorem After.nextItem? (h : s.After k n t) (mark : ListMark) (stop i : Nat) :
    t.nextItem? (mark.after n) (k + stop) (k + i) = (s.nextItem? mark stop i).map (.after n) := by
  rw [Scope.nextItem?, Scope.nextItem?, h.lineIndent, h.indent, h.isCodeIndented, h.interrupts,
    h.listMark?]
  simp only [Nat.add_le_add_iff_left]
  split
  next => rfl
  next =>
    cases s.listMark? i with
    | none => rfl
    | some next =>
        dsimp +instances only [Option.map_some, Option.bind_some, ListMark.after]
        split <;> rfl

end Scope

/-! ## Reading blocks -/

namespace Block

variable {α β : Type}

theorem afterAll_append (k : Nat) (as bs : List (Block α)) :
    afterAll k (as ++ bs) = afterAll k as ++ afterAll k bs := by
  induction as with
  | nil => rfl
  | cons a as ih => exact congrArg (a.after k :: ·) ih

mutual

theorem map_after (f : α → β) (k : Nat) : ∀ b : Block α, (b.after k).map f = (b.map f).after k
  | .paragraph .. | .heading .. | .code .. | .html .. | .thematicBreak .. => rfl
  | .quote _ children => congrArg (Block.quote _) (mapAll_afterAll f k children)
  | .list _ items => congrArg (Block.list _) (mapAll_afterAll f k items)
  | .item _ children => congrArg (Block.item _) (mapAll_afterAll f k children)

theorem mapAll_afterAll (f : α → β) (k : Nat) : ∀ blocks : List (Block α),
    mapAll f (afterAll k blocks) = afterAll k (mapAll f blocks)
  | [] => rfl
  | b :: rest => by
      rw [afterAll, mapAll, map_after f k b, mapAll_afterAll f k rest]
      rfl

end

end Block

/-- What was read, some lines further down. -/
def BlocksRead.after (lines : Nat) (r : BlocksRead) : BlocksRead :=
  ⟨Block.afterAll lines r.blocks, lines + r.next, r.definitions⟩

/-- Blocks are read alike when other lines stand before them. -/
def ReadBlocks.Steady (read : ReadBlocks) : Prop :=
  ∀ {s t : Scope} {k n : Nat}, s.After k n t → ∀ (start stop : Nat) (definitions : Definitions),
    read t (k + start) (k + stop) definitions = (read s start stop definitions).after k

namespace Scope

variable {s t : Scope} {k n : Nat} {read : ReadBlocks}

theorem After.readQuote (h : s.After k n t) (hread : read.Steady) (stop i : Nat)
    (definitions : Definitions) : t.readQuote read (k + stop) (k + i) definitions =
      (s.readQuote read stop i definitions).after k := by
  obtain ⟨hscope, hnext⟩ := h.quotation stop (stop - i + 1) false i
  rw [Scope.readQuote, Scope.readQuote, Nat.add_sub_add_left, hnext]
  dsimp only
  rw [hread (hscope.withIndent 0)]
  rfl

theorem After.readItems (h : s.After k n t) (hread : read.Steady) (stop fuel : Nat)
    (mark : ListMark) (i : Nat) (definitions : Definitions) :
    t.readItems read (k + stop) fuel (mark.after n) (k + i) definitions =
      (s.readItems read stop fuel mark i definitions).after k := by
  induction fuel generalizing mark i definitions with
  | zero => rfl
  | succ fuel ih =>
      obtain ⟨hscope, hempty⟩ := h.itemScope i mark
      rw [Scope.readItems, Scope.readItems]
      generalize s.itemScope i mark = item at hscope hempty ⊢
      generalize t.itemScope (k + i) (mark.after n) = item' at hscope hempty ⊢
      obtain ⟨inner, empty⟩ := item
      obtain ⟨inner', empty'⟩ := item'
      obtain rfl : empty' = empty := hempty
      have hcontent : (if empty' && t.isEmpty (k + i + 1) then
            ⟨[], min (k + i + 2) (k + stop), definitions⟩
          else read inner' (k + i) (k + stop) definitions) =
          (if empty' && s.isEmpty (i + 1) then ⟨[], min (i + 2) stop, definitions⟩
            else read inner i stop definitions : BlocksRead).after k := by
        rw [Nat.add_assoc, Nat.add_assoc, h.isEmpty, Nat.add_min_add_left, hread hscope]
        split <;> rfl
      dsimp only
      rw [hcontent]
      generalize (if empty' && s.isEmpty (i + 1) then ⟨[], min (i + 2) stop, definitions⟩
        else read inner i stop definitions : BlocksRead) = content
      dsimp only [BlocksRead.after]
      rw [h.nextItem?]
      cases s.nextItem? mark stop content.next with
      | none => rfl
      | some next =>
          dsimp only [Option.map_some]
          rw [ih]
          rfl

theorem After.readList (h : s.After k n t) (hread : read.Steady) (stop i : Nat) (mark : ListMark)
    (definitions : Definitions) : t.readList read (k + stop) (k + i) (mark.after n) definitions =
      (s.readList read stop i mark definitions).after k := by
  rw [Scope.readList, Scope.readList, Nat.add_sub_add_left, h.readItems hread]
  rfl

theorem After.readBlock (h : s.After k n t) {readQuoted readItem : ReadBlocks}
    (hquoted : readQuoted.Steady) (hitem : readItem.Steady) (stop i : Nat)
    (definitions : Definitions) :
    t.readBlock readQuoted readItem (k + stop) (k + i) definitions =
      (s.readBlock readQuoted readItem stop i definitions).after k := by
  have hcode : (t.indentedCode? (k + stop) (k + i) <|> t.fencedCode? (k + stop) (k + i)) =
      (s.indentedCode? stop i <|> s.fencedCode? stop i).map (.after k) := by
    rw [h.indentedCode?, h.fencedCode?]
    cases s.indentedCode? stop i <;> rfl
  have hother : (t.htmlBlock? (k + stop) (k + i) <|> t.markedHeading? (k + i) <|>
        t.underlinedHeading? (k + stop) (k + i)) =
      (s.htmlBlock? stop i <|> s.markedHeading? i <|> s.underlinedHeading? stop i).map
        (.after k) := by
    rw [h.htmlBlock?, h.markedHeading?, h.underlinedHeading?]
    cases s.htmlBlock? stop i with
    | some f => rfl
    | none => cases s.markedHeading? i <;> rfl
  rw [Scope.readBlock, Scope.readBlock, hcode, h.isQuote, h.thematicBreak?, h.listStart?,
    h.definition?, hother, h.paragraph, h.readQuote hquoted]
  cases s.indentedCode? stop i <|> s.fencedCode? stop i with
  | some f => rfl
  | none =>
      dsimp only [Option.map_none]
      split
      next => rfl
      next =>
        cases s.thematicBreak? i with
        | some f => rfl
        | none =>
            dsimp only [Option.map_none]
            cases s.listStart? false i with
            | some mark => exact h.readList hitem stop i mark definitions
            | none =>
                dsimp only [Option.map_none]
                cases s.definition? i with
                | some d => rfl
                | none =>
                    dsimp only [Option.map_none]
                    cases s.htmlBlock? stop i <|> s.markedHeading? i <|>
                      s.underlinedHeading? stop i <;> rfl

theorem After.readBlocks (h : s.After k n t)
    {readAt : Scope → (stop i : Nat) → Definitions → BlocksRead} (stop : Nat)
    (hread : ∀ (i : Nat) (definitions : Definitions),
      readAt t (k + stop) (k + i) definitions = (readAt s stop i definitions).after k)
    (fuel i : Nat) (definitions : Definitions) :
    t.readBlocks readAt (k + stop) fuel (k + i) definitions =
      (s.readBlocks readAt stop fuel i definitions).after k := by
  induction fuel generalizing i definitions with
  | zero => rfl
  | succ fuel ih =>
      rw [Scope.readBlocks, Scope.readBlocks, h.lineCount, Nat.add_sub_add_left, h.skipEmpty]
      dsimp only
      rw [h.lineIndent, h.indent, hread]
      simp only [Nat.add_le_add_iff_left]
      split
      next => rfl
      next =>
        split
        next => rfl
        next =>
          generalize readAt s stop (s.skipEmpty (s.lineCount - i) i) definitions = first
          have hnext : (if k + first.next < k + stop && t.isEmpty (k + first.next) then
                k + first.next + 1 else k + first.next) =
              k + if first.next < stop && s.isEmpty first.next then first.next + 1
                else first.next := by
            rw [h.isEmpty]
            simp only [Nat.add_lt_add_iff_left]
            split <;> rfl
          dsimp +instances only [BlocksRead.after]
          rw [hnext, ih]
          dsimp only [BlocksRead.after]
          rw [Block.afterAll_append]

theorem steady_skipBlocks : skipBlocks.Steady := by
  intro s t k n h start stop definitions
  rw [skipBlocks, skipBlocks, Nat.add_sub_add_left]
  exact h.readBlocks stop (fun _ _ => rfl) _ start definitions

theorem steady_read : ∀ budget, (Scope.read budget).Steady
  | 0 => steady_skipBlocks
  | 1 => by
      intro h start stop definitions
      rw [Scope.read]
      dsimp only
      rw [Nat.add_sub_add_left]
      exact h.readBlocks stop
        (fun i definitions => h.readBlock steady_skipBlocks steady_skipBlocks stop i definitions)
        _ start definitions
  | budget + 2 => by
      intro h start stop definitions
      rw [Scope.read]
      dsimp only
      rw [Nat.add_sub_add_left]
      exact h.readBlocks stop
        (fun i definitions =>
          h.readBlock (steady_read (budget + 1)) (steady_read budget) stop i definitions)
        _ start definitions

end Scope

/-! ## Texts after blank lines -/

namespace Line

theorem split_add (n start shift width : Nat) (inText : Bool) (pos : Nat) (text : List Char) :
    split (n + start) shift width inText (n + pos) text =
      (split start shift width inText pos text).map (.after n) := by
  induction text generalizing start shift width inText pos with
  | nil =>
      rw [split, split]
      split <;> rfl
  | cons c rest ih =>
      simp only [split, Nat.add_assoc, ih]
      split
      next => rfl
      next =>
        split
        next => rfl
        next => split <;> rfl

/-- A blank line is split off as a line that holds nothing. -/
theorem split_blank {line : List Char} (h : ∀ c ∈ line, c = ' ') (start shift width : Nat)
    (rest : List Char) : ∃ l : Line, l.isEmpty = true ∧
      split start shift width false (start + shift) (line ++ '\n' :: rest) =
        l :: split (start + shift + line.length + 1) 0 0 false (start + shift + line.length + 1)
          rest := by
  induction line generalizing shift width with
  | nil => exact ⟨_, decide_eq_true (Nat.le_refl _), rfl⟩
  | cons c line ih =>
      obtain ⟨rfl, hline⟩ := List.forall_mem_cons.1 h
      obtain ⟨l, hl, heq⟩ := ih hline (shift + 1) (width + 1)
      have hlength : start + shift + (line.length + 1) + 1 =
          start + (shift + 1) + line.length + 1 := by
        omega
      refine ⟨l, hl, ?_⟩
      rw [List.length_cons, hlength]
      exact heq

/-- Blank lines are split off first. -/
theorem split_unlines {front : List (List Char)} (h : ∀ line ∈ front, ∀ c ∈ line, c = ' ')
    (start : Nat) (text : List Char) : ∃ blank : List Line, blank.length = front.length ∧
      (∀ l ∈ blank, l.isEmpty = true) ∧
      split start 0 0 false start (unlines front ++ text) =
        blank ++ split (start + (unlines front).length) 0 0 false (start + (unlines front).length)
          text := by
  induction front generalizing start with
  | nil => exact ⟨[], rfl, nofun, rfl⟩
  | cons line front ih =>
      obtain ⟨hline, hfront⟩ := List.forall_mem_cons.1 h
      obtain ⟨l, hl, hsplit⟩ := split_blank hline start 0 0 (unlines front ++ text)
      obtain ⟨blank, hlength, hblank, hrest⟩ := ih hfront (start + line.length + 1)
      refine ⟨l :: blank, congrArg (· + 1) hlength, List.forall_mem_cons.2 ⟨hl, hblank⟩, ?_⟩
      rw [Text.length_unlines_cons, Text.unlines_cons, List.append_assoc, List.cons_append,
        List.cons_append, ← hrest]
      exact hsplit

end Line

namespace Scope

/-- Empty lines are skipped one by one. -/
theorem skipEmpty_add {s : Scope} {m : Nat} (hcount : m ≤ s.lineCount)
    (hempty : ∀ i < m, s.isEmpty i = true) (fuel : Nat) {j : Nat} (hj : j ≤ m) :
    s.skipEmpty (j + fuel) (m - j) = s.skipEmpty fuel m := by
  induction j with
  | zero => rw [Nat.zero_add, Nat.sub_zero]
  | succ j ih =>
      have hlt : m - (j + 1) < m := Nat.sub_lt_self (Nat.succ_pos j) hj
      have hnext : m - (j + 1) + 1 = m - j := by omega
      rw [Nat.add_right_comm, skipEmpty, hempty _ hlt, hnext,
        if_pos (by simpa using Nat.lt_of_lt_of_le hlt hcount), ih (Nat.le_of_succ_le hj)]

variable {front : List (List Char)} (h : ∀ line ∈ front, ∀ c ∈ line, c = ' ') (text : List Char)
include h

theorem after_unlines : (ofText text).After front.length (unlines front).length
    (ofText (unlines front ++ text)) ∧
      ∀ i < front.length, (ofText (unlines front ++ text)).isEmpty i = true := by
  obtain ⟨blank, hlength, hblank, hsplit⟩ := Line.split_unlines h 0 text
  rw [Nat.zero_add, ← Nat.add_zero (unlines front).length, Line.split_add] at hsplit
  have hlines : Line.ofText (unlines front ++ text) =
      (blank ++ (Line.split 0 0 0 false 0 text).map (Line.after (unlines front).length)).toArray :=
    congrArg List.toArray hsplit
  have hsize : (Line.ofText (unlines front ++ text)).size =
      front.length + (Line.ofText text).size := by
    rw [hlines, Line.ofText, List.size_toArray, List.length_append, List.length_map, hlength,
      List.size_toArray]
  have hend : (unlines front ++ text).toArray.size = (unlines front).length + text.toArray.size :=
    List.length_append
  constructor
  · refine ⟨?_, hend, hsize, ?_, hsize, rfl, rfl⟩
    · intro pos
      rw [ofText, ofText, List.getElem?_toArray, List.getElem?_toArray,
        List.getElem?_append_right (Nat.le_add_right _ _), Nat.add_sub_cancel_left]
    · intro i
      rw [line, line, ofText, ofText]
      dsimp only
      rw [hlines, hend, Line.ofText, Array.getD_eq_getD_getElem?, Array.getD_eq_getD_getElem?,
        List.getElem?_toArray, List.getElem?_toArray, ← hlength,
        List.getElem?_append_right (Nat.le_add_right _ _), Nat.add_sub_cancel_left,
        List.getElem?_map]
      cases (Line.split 0 0 0 false 0 text)[i]? <;> rfl
  · intro i hi
    rw [← hlength] at hi
    rw [isEmpty, line, ofText]
    dsimp only
    rw [hlines, Array.getD_eq_getD_getElem?, List.getElem?_toArray, List.getElem?_append_left hi,
      List.getElem?_eq_getElem hi]
    exact hblank _ (List.getElem_mem hi)

theorem skipEmpty_unlines :
    (ofText (unlines front ++ text)).skipEmpty (ofText (unlines front ++ text)).lineCount 0 =
      front.length + (ofText text).skipEmpty (ofText text).lineCount 0 := by
  obtain ⟨hafter, hempty⟩ := after_unlines h text
  have hskip := skipEmpty_add (hafter.lineCount ▸ Nat.le_add_right _ _) hempty
    (ofText text).lineCount (Nat.le_refl front.length)
  rw [Nat.sub_self] at hskip
  rw [hafter.lineCount, hskip]
  exact hafter.skipEmpty _ 0

end Scope

theorem normalizeSource_append {front : List Char} (h : ∀ c ∈ front, c = ' ' ∨ c = '\n')
    (text : List Char) : normalizeSource (front ++ text) = front ++ normalizeSource text := by
  induction front with
  | nil => rfl
  | cons c front ih =>
      obtain ⟨hc, hfront⟩ := List.forall_mem_cons.1 h
      rw [List.cons_append, List.cons_append, ← ih hfront]
      rcases hc with rfl | rfl <;> rfl

/-- A text that stands after blank lines has the blocks that it has alone, as many lines further
down. -/
theorem parseBlocks_unlines {front : List (List Char)}
    (h : ∀ line ∈ front, ∀ c ∈ line, c = ' ') (text : List Char) :
    parseBlocks (unlines front ++ text) = Block.afterAll front.length (parseBlocks text) := by
  have hfront : ∀ c ∈ unlines front, c = ' ' ∨ c = '\n' := by
    intro c hc
    obtain ⟨line, hline, hc⟩ := List.mem_flatMap.1 hc
    exact (List.mem_append.1 hc).imp (h line hline c) List.mem_singleton.1
  have hafter := (Scope.after_unlines h (normalizeSource text)).1
  have hskip := Scope.skipEmpty_unlines h (normalizeSource text)
  have hread := Scope.steady_read maxBlockNesting hafter
    ((Scope.ofText (normalizeSource text)).skipEmpty
      (Scope.ofText (normalizeSource text)).lineCount 0)
    (Scope.ofText (normalizeSource text)).lineCount []
  rw [← hskip, ← hafter.lineCount] at hread
  rw [parseBlocks, parseBlocks, normalizeSource_append hfront, Document.parse, Document.parse]
  dsimp only
  rw [hread]
  exact Block.mapAll_afterAll _ _ _

/-- The tree of a text that stands after blank lines is the tree that it has alone, some lines and
characters further on. -/
theorem children_parse_unlines {front : List (List Char)}
    (h : ∀ line ∈ front, ∀ c ∈ line, c = ' ') (text : List Char) :
    (parse (unlines front ++ text)).children =
      Node.afterAll front.length (unlines front).length (parse text).children := by
  have hlone : ∀ line ∈ front, '\n' ∉ line := fun line hline hmem =>
    absurd (h line hline _ hmem) (by decide)
  rw [parse, parseWith, parseBlocks_unlines h]
  exact (Source.after_unlines hlone text).placeBlocks (parseBlocks text)

/-! ## A text of spaces -/

theorem Line.split_spaces {text : List Char} (h : ∀ c ∈ text, c = ' ') (start shift width pos : Nat) :
    Line.split start shift width false pos text = [] := by
  induction text generalizing shift width pos with
  | nil => rfl
  | cons c text ih =>
      obtain ⟨rfl, htext⟩ := List.forall_mem_cons.1 h
      exact ih htext _ _ _

theorem Scope.blocks_read_self (budget : Nat) (s : Scope) (i : Nat) (definitions : Definitions) :
    (Scope.read budget s i i definitions).blocks = [] := by
  have hread (readAt) : (s.readBlocks readAt i (i - i) i definitions).blocks = [] := by
    rw [Nat.sub_self, Scope.readBlocks]
  match budget with
  | 0 | 1 | _ + 2 => exact hread _

/-- Nothing is read from spaces. -/
theorem parseBlocks_spaces {text : List Char} (h : ∀ c ∈ text, c = ' ') : parseBlocks text = [] := by
  have hnormalized : normalizeSource text = text := by
    have happend := normalizeSource_append (fun c hc => .inl (h c hc)) []
    rwa [normalizeSource, List.append_nil] at happend
  have hlines : Line.ofText text = #[] := congrArg List.toArray (Line.split_spaces h 0 0 0 0)
  rw [parseBlocks, hnormalized, Document.parse, Scope.ofText, hlines]
  exact congrArg (Block.mapAll _) (Scope.blocks_read_self _ _ 0 [])

end Continuity.Markdown
