import Continuity.Markdown.Block.Leaf
import Continuity.Proofs.Markdown.After

/-! # Lines read after other lines

What a line begins, and where a block of lines ends, depends on that line and the lines after it
alone. So the lines are read alike when others stand before them.
-/

namespace Continuity.Markdown

/-- The line some characters further on. -/
def Line.after (chars : Nat) (l : Line) : Line :=
  { l with start := chars + l.start, stop := chars + l.stop }

namespace Line

@[simp]
theorem start_after (n : Nat) (l : Line) : (l.after n).start = n + l.start := rfl

@[simp]
theorem stop_after (n : Nat) (l : Line) : (l.after n).stop = n + l.stop := rfl

@[simp]
theorem shift_after (n : Nat) (l : Line) : (l.after n).shift = l.shift := rfl

@[simp]
theorem indent_after (n : Nat) (l : Line) : (l.after n).indent = l.indent := rfl

@[simp]
theorem base_after (n : Nat) (l : Line) : (l.after n).base = l.base := rfl

@[simp]
theorem textStart_after (n : Nat) (l : Line) : (l.after n).textStart = n + l.textStart :=
  Nat.add_assoc _ _ _

@[simp]
theorem isEmpty_after (n : Nat) (l : Line) : (l.after n).isEmpty = l.isEmpty := by
  rw [isEmpty, isEmpty, textStart_after]
  exact decide_eq_decide.2 Nat.add_le_add_iff_left

end Line

namespace Scope

/-- One scope has in it, some lines and characters further on, what another one has. -/
structure After (s : Scope) (lines chars : Nat) (t : Scope) : Prop where
  src : ∀ pos, t.src[chars + pos]? = s.src[pos]?
  size : t.src.size = chars + s.src.size
  linesSize : t.lines.size = lines + s.lines.size
  line : ∀ i, t.line (lines + i) = (s.line i).after chars
  lineCount : t.lineCount = lines + s.lineCount
  indent : t.indent = s.indent
  listIndent : t.listIndent = s.listIndent

variable {s t : Scope} {k n : Nat}

section

variable (h : s.After k n t)
include h

/-! ## Single lines -/

theorem After.slice (start stop : Nat) :
    Markdown.slice t.src (n + start) (n + stop) = Markdown.slice s.src start stop := by
  apply List.ext_getElem?
  intro i
  rw [Markdown.slice, Markdown.slice, Array.getElem?_toList, Array.getElem?_toList,
    Array.getElem?_extract, Array.getElem?_extract, h.size, Nat.add_min_add_left,
    Nat.add_sub_add_left, Nat.add_assoc, h.src]

theorem After.isEmpty (i : Nat) : t.isEmpty (k + i) = s.isEmpty i := by
  rw [Scope.isEmpty, h.line, Line.isEmpty_after]
  rfl

theorem After.textOf (i : Nat) : t.textOf (k + i) = s.textOf i := by
  rw [Scope.textOf, h.line, Line.textStart_after]
  exact h.slice _ _

theorem After.firstChar? (i : Nat) : t.firstChar? (k + i) = s.firstChar? i := by
  rw [Scope.firstChar?, h.line, Line.isEmpty_after, Line.textStart_after, h.src]
  rfl

theorem After.lineIndent (i : Nat) : (t.line (k + i)).indent = (s.line i).indent := by
  rw [h.line, Line.indent_after]

theorem After.isCodeIndented (i : Nat) : t.isCodeIndented (k + i) = s.isCodeIndented i := by
  rw [Scope.isCodeIndented, h.lineIndent, h.indent]
  rfl

theorem After.lt_lineCount (i : Nat) : k + i < t.lineCount ↔ i < s.lineCount := by
  rw [h.lineCount]
  exact Nat.add_lt_add_iff_left

theorem After.skipEmpty (fuel i : Nat) : t.skipEmpty fuel (k + i) = k + s.skipEmpty fuel i := by
  induction fuel generalizing i with
  | zero => rfl
  | succ fuel ih =>
      rw [Scope.skipEmpty, Scope.skipEmpty, h.isEmpty, Nat.add_assoc, ih]
      simp only [h.lt_lineCount]
      split <;> rfl

theorem After.dedent (l : Line) (stop : Nat) (indent : Int) (fuel width pos : Nat) :
    t.dedent (l.after n) (n + stop) indent fuel width (n + pos) =
      (n + (s.dedent l stop indent fuel width pos).1,
        (s.dedent l stop indent fuel width pos).2) := by
  induction fuel generalizing width pos with
  | zero => rfl
  | succ fuel ih =>
      rw [Scope.dedent, Scope.dedent, h.src]
      simp only [Line.start_after, Line.shift_after, Line.base_after, Nat.add_le_add_iff_left,
        Nat.add_sub_add_left, Nat.add_assoc, ih]
      split
      next => rfl
      next =>
        split
        next => rfl
        next => rfl
        next => split <;> rfl

theorem After.dedented (i : Nat) (indent : Int) (withNewline : Bool) :
    t.dedented (k + i) indent withNewline = s.dedented i indent withNewline := by
  have hstop : (if withNewline then (t.line (k + i)).stop + 1 else (t.line (k + i)).stop) =
      n + (if withNewline then (s.line i).stop + 1 else (s.line i).stop) := by
    rw [h.line]
    cases withNewline <;> rfl
  rw [Scope.dedented, Scope.dedented]
  dsimp only
  rw [hstop, h.line, Line.start_after, Nat.add_sub_add_left, h.dedent]
  dsimp only
  rw [h.slice]

theorem After.text (first : Nat) (indent : Int) (lastNewline : Bool) (count : Nat) :
    t.text (k + first) indent lastNewline count = s.text first indent lastNewline count := by
  fun_induction Scope.text s first indent lastNewline count with
  | case1 => rfl
  | case2 first => exact h.dedented ..
  | case3 first count hcount ih => 
      rw [Scope.text, h.dedented, Nat.add_assoc, ih]
      exact hcount

/-! ## What a line begins -/

theorem After.fence? (i : Nat) : t.fence? (k + i) = s.fence? i := by
  rw [Scope.fence?, Scope.fence?, h.isCodeIndented, h.firstChar?, h.textOf]

theorem After.closesFence (fence : Fence) (i : Nat) :
    t.closesFence fence (k + i) = s.closesFence fence i := by
  rw [Scope.closesFence, Scope.closesFence, h.isCodeIndented, h.textOf]

theorem After.heading? (i : Nat) : t.heading? (k + i) = s.heading? i := by
  rw [Scope.heading?, Scope.heading?, h.isCodeIndented, h.textOf]

theorem After.isThematicBreak (i : Nat) : t.isThematicBreak (k + i) = s.isThematicBreak i := by
  rw [Scope.isThematicBreak, Scope.isThematicBreak, h.isCodeIndented, h.firstChar?, h.textOf]

theorem After.isQuote (i : Nat) : t.isQuote (k + i) = s.isQuote i := by
  rw [Scope.isQuote, Scope.isQuote, h.isCodeIndented, h.firstChar?]

/-- The mark some characters further on. -/
def ListMark.after (chars : Nat) (mark : ListMark) : ListMark :=
  { mark with next := chars + mark.next }

theorem After.listMark? (i : Nat) : t.listMark? (k + i) = (s.listMark? i).map (.after n) := by
  rw [Scope.listMark?, Scope.listMark?, h.textOf, h.line, Line.textStart_after]
  split
  next => rfl
  next =>
    split
    next => split <;> rfl
    next =>
      dsimp only
      split
      next =>
        rw [Nat.add_assoc, Nat.add_assoc, ← Nat.add_assoc (s.line i).textStart]
        split <;> rfl
      next => rfl

theorem After.listStart? (inParagraph : Bool) (i : Nat) :
    t.listStart? inParagraph (k + i) = (s.listStart? inParagraph i).map (.after n) := by
  rw [Scope.listStart?, Scope.listStart?]
  dsimp only
  rw [h.isCodeIndented, h.lineIndent, h.listIndent, h.indent, h.listMark?, h.line, Line.stop_after]
  split
  next => rfl
  next =>
    split
    next => rfl
    next =>
      cases s.listMark? i with
      | none => rfl
      | some mark =>
          dsimp only [Option.map_some, Option.bind_some, ListMark.after]
          rw [h.slice]
          split
          next => split <;> rfl
          next => rfl

theorem After.htmlKind? (i : Nat) : t.htmlKind? (k + i) = s.htmlKind? i := by
  rw [Scope.htmlKind?, Scope.htmlKind?, h.isCodeIndented, h.textOf]

theorem After.interrupts (what : Interrupted) (i : Nat) :
    t.interrupts what (k + i) = s.interrupts what i := by
  rw [Scope.interrupts, Scope.interrupts, h.fence?, h.isQuote, h.isThematicBreak, h.listStart?,
    h.htmlKind?, h.heading?, Option.isSome_map]

theorem After.continuesParagraph (i : Nat) :
    t.continuesParagraph (k + i) = s.continuesParagraph i := by
  rw [Scope.continuesParagraph, Scope.continuesParagraph, h.isCodeIndented, h.lineIndent]

theorem After.underline? (i : Nat) : t.underline? (k + i) = s.underline? i := by
  rw [Scope.underline?, Scope.underline?, h.lineIndent, h.indent, h.firstChar?, h.textOf]

/-! ## Where a block of lines ends -/

theorem After.paragraphEnd (fuel i : Nat) :
    t.paragraphEnd fuel (k + i) = k + s.paragraphEnd fuel i := by
  induction fuel generalizing i with
  | zero => rfl
  | succ fuel ih =>
      rw [Scope.paragraphEnd, Scope.paragraphEnd, h.isEmpty, h.continuesParagraph, h.interrupts,
        Nat.add_assoc, ih]
      simp only [h.lt_lineCount]
      split <;> rfl

theorem After.findUnderline? (stop fuel i : Nat) :
    t.findUnderline? (k + stop) fuel (k + i) =
      (s.findUnderline? stop fuel i).map fun (last, depth) => (k + last, depth) := by
  induction fuel generalizing i with
  | zero => rfl
  | succ fuel ih =>
      rw [Scope.findUnderline?, Scope.findUnderline?, h.isEmpty, h.isCodeIndented, h.underline?,
        h.lineIndent, h.interrupts, Nat.add_assoc, ih]
      simp only [Nat.add_lt_add_iff_left]
      split
      next =>
        split
        next => rfl
        next =>
          cases s.underline? i with
          | some depth => rfl
          | none =>
              dsimp only
              split <;> rfl
      next => rfl

theorem After.codeEnd (stop last fuel i : Nat) :
    t.codeEnd (k + stop) (k + last) fuel (k + i) = k + s.codeEnd stop last fuel i := by
  induction fuel generalizing last i with
  | zero => rfl
  | succ fuel ih =>
      rw [Scope.codeEnd, Scope.codeEnd, h.isEmpty, h.isCodeIndented, Nat.add_assoc, ih, ih]
      simp only [Nat.add_lt_add_iff_left]
      split
      next =>
        split
        next => rfl
        next => split <;> rfl
      next => rfl

theorem After.fenceEnd (fence : Fence) (stop fuel i : Nat) :
    t.fenceEnd fence (k + stop) fuel (k + i) =
      (s.fenceEnd fence stop fuel i).map (k + ·) id := by
  induction fuel generalizing i with
  | zero => rfl
  | succ fuel ih =>
      rw [Scope.fenceEnd, Scope.fenceEnd]
      dsimp only
      rw [h.firstChar?, h.closesFence, h.line, Line.isEmpty_after, Line.indent_after,
        Line.textStart_after, h.size, h.indent, Nat.add_assoc, ih]
      simp only [Nat.add_le_add_iff_left]
      split
      next => rfl
      next =>
        split
        next => rfl
        next =>
          split
          next => rfl
          next => split <;> rfl

theorem After.htmlEnd (kind : Html.BlockKind) (stop fuel i : Nat) :
    t.htmlEnd kind (k + stop) fuel (k + i) = k + s.htmlEnd kind stop fuel i := by
  induction fuel generalizing i with
  | zero => rfl
  | succ fuel ih =>
      rw [Scope.htmlEnd, Scope.htmlEnd, h.lineIndent, h.indent, h.textOf, Nat.add_assoc, ih]
      simp only [Nat.add_lt_add_iff_left]
      split
      next =>
        split
        next => rfl
        next =>
          split
          next => split <;> rfl
          next => rfl
      next => rfl

/-! ## Blocks that stand on lines of their own -/

/-- The block that was found, some lines further down. -/
def Found.after (lines : Nat) (f : Found) : Found := ⟨f.block.after lines, lines + f.next⟩

theorem After.indentedCode? (stop i : Nat) :
    t.indentedCode? (k + stop) (k + i) = (s.indentedCode? stop i).map (.after k) := by
  rw [Scope.indentedCode?, Scope.indentedCode?, h.isCodeIndented, h.indent]
  split
  next =>
    dsimp only
    rw [Nat.add_sub_add_left, Nat.add_assoc, h.codeEnd, h.text, Nat.add_sub_add_left]
    rfl
  next => rfl

theorem After.fencedCode? (stop i : Nat) :
    t.fencedCode? (k + stop) (k + i) = (s.fencedCode? stop i).map (.after k) := by
  rw [Scope.fencedCode?, Scope.fencedCode?, h.fence?, h.lineIndent]
  cases s.fence? i with
  | none => rfl
  | some fence =>
      dsimp only [Option.map_some]
      rw [Nat.add_sub_add_left, Nat.add_assoc, h.fenceEnd]
      rcases s.fenceEnd fence stop (stop - i) (i + 1) with ⟨last, closed⟩
      dsimp only [Prod.map_apply]
      rw [h.text, Nat.add_sub_add_left]
      cases closed <;> rfl

theorem After.thematicBreak? (i : Nat) :
    t.thematicBreak? (k + i) = (s.thematicBreak? i).map (.after k) := by
  rw [Scope.thematicBreak?, Scope.thematicBreak?, h.isThematicBreak]
  split <;> rfl

theorem After.htmlBlock? (stop i : Nat) :
    t.htmlBlock? (k + stop) (k + i) = (s.htmlBlock? stop i).map (.after k) := by
  rw [Scope.htmlBlock?, Scope.htmlBlock?, h.htmlKind?, h.textOf, h.indent]
  cases s.htmlKind? i with
  | none => rfl
  | some kind =>
      dsimp only [Option.map_some]
      rw [Nat.add_sub_add_left, Nat.add_assoc, h.htmlEnd, h.text]
      split
      next =>
        rw [Nat.add_sub_add_left]
        rfl
      next =>
        rw [Nat.add_sub_add_left]
        rfl

theorem After.markedHeading? (i : Nat) :
    t.markedHeading? (k + i) = (s.markedHeading? i).map (.after k) := by
  rw [Scope.markedHeading?, Scope.markedHeading?, h.heading?]
  cases s.heading? i <;> rfl

theorem After.underlinedHeading? (stop i : Nat) :
    t.underlinedHeading? (k + stop) (k + i) = (s.underlinedHeading? stop i).map (.after k) := by
  rw [Scope.underlinedHeading?, Scope.underlinedHeading?, h.isCodeIndented, h.indent,
    Nat.add_sub_add_left, Nat.add_assoc, h.findUnderline?]
  split
  next => rfl
  next =>
    cases s.findUnderline? stop (stop - i) (i + 1) with
    | none => rfl
    | some found =>
        dsimp only [Option.map_some]
        rw [h.text, Nat.add_sub_add_left]
        rfl

theorem After.paragraph (i : Nat) : t.paragraph (k + i) = (s.paragraph i).after k := by
  rw [Scope.paragraph, Scope.paragraph, h.lineCount, h.indent, Nat.add_sub_add_left,
    Nat.add_assoc, h.paragraphEnd, h.text, Nat.add_sub_add_left]
  rfl

end

end Scope

end Continuity.Markdown
