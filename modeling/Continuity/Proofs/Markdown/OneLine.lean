import Continuity.Markdown.Placement
import Continuity.Proofs.Markdown.Placement
import Continuity.Proofs.Text.Property

/-! # Texts of one line

A text of one line that begins with a letter begins no list, quotation or other structure: it is one
paragraph, and all of it is the paragraph's content.
-/

namespace Continuity.Markdown

open Text (isDigit_of_isLetter isLetter isBlank LineIndex ne_of_isLetter)

variable {c : Char} {cs text : List Char}

/-! ## What begins with a letter -/

namespace Scope

variable {s : Scope} {i stop : Nat}

/-- The text of a line begins with a letter, and the line is not indented like code. -/
structure BeginsProse (s : Scope) (i : Nat) : Prop where
  shallow : s.isCodeIndented i = false
  firstChar : ∃ c, s.firstChar? i = some c ∧ isLetter c = true
  text : ∃ c rest, s.textOf i = c :: rest ∧ isLetter c = true

namespace BeginsProse

variable (h : s.BeginsProse i)
include h

theorem firstChar_ne {d : Char} (hd : isLetter d = false) : s.firstChar? i ≠ some d := by
  obtain ⟨c, hfirst, hc⟩ := h.firstChar
  rw [hfirst]
  exact fun heq => ne_of_isLetter hc hd (Option.some.inj heq)

theorem fence?_eq_none : s.fence? i = none := by
  obtain ⟨c, hfirst, hc⟩ := h.firstChar
  have htilde : (c == '~') = false := beq_eq_false_iff_ne.2 (ne_of_isLetter hc (by decide))
  have htick : (c.toNat == 0x60) = false := by
    rw [beq_eq_false_iff_ne]
    intro heq
    exact ne_of_isLetter hc (d := Char.ofNat 0x60) (by decide) (by rw [← heq, Char.ofNat_toNat])
  simp [fence?, hfirst, htilde, htick]

theorem isQuote_eq_false : s.isQuote i = false := by
  simp [isQuote, h.firstChar_ne (d := '>') (by decide)]

theorem isThematicBreak_eq_false : s.isThematicBreak i = false := by
  obtain ⟨c, hfirst, hc⟩ := h.firstChar
  have hstar := ne_of_isLetter hc (d := '*') (by decide)
  have hdash := ne_of_isLetter hc (d := '-') (by decide)
  have hscore := ne_of_isLetter hc (d := '_') (by decide)
  simp [isThematicBreak, hfirst, hstar, hdash, hscore]

theorem listMark?_eq_none : s.listMark? i = none := by
  obtain ⟨c, rest, htext, hc⟩ := h.text
  have hstar := ne_of_isLetter hc (d := '*') (by decide)
  have hdash := ne_of_isLetter hc (d := '-') (by decide)
  have hplus := ne_of_isLetter hc (d := '+') (by decide)
  simp [listMark?, htext, hstar, hdash, hplus, isDigit_of_isLetter hc]

theorem listStart?_eq_none (inParagraph : Bool) : s.listStart? inParagraph i = none := by
  rw [listStart?, h.listMark?_eq_none]
  simp

theorem definition?_eq_none : s.definition? i = none := by
  simp [definition?, h.firstChar_ne (d := '[') (by decide)]

theorem htmlBlock?_eq_none : s.htmlBlock? stop i = none := by
  obtain ⟨c, rest, htext, hc⟩ := h.text
  have hopen := ne_of_isLetter hc (d := '<') (by decide)
  have hkind : Html.blockKind? (c :: rest) = none := by
    rw [Html.blockKind?]
    rintro rest ⟨⟩
    exact hopen rfl
  simp [htmlBlock?, htmlKind?, htext, hkind]

theorem markedHeading?_eq_none : s.markedHeading? i = none := by
  obtain ⟨c, rest, htext, hc⟩ := h.text
  have hhash := ne_of_isLetter hc (d := '#') (by decide)
  simp [markedHeading?, heading?, htext, hhash]

/-- A line that begins with a letter begins a paragraph, unless a later line makes it a heading. -/
theorem readBlock_eq (hunder : s.underlinedHeading? stop i = none)
    (readQuoted readItem : ReadBlocks) (definitions : Definitions) :
    readBlock readQuoted readItem s stop i definitions =
      ⟨[(s.paragraph i).block], (s.paragraph i).next, definitions⟩ := by
  have hcode : s.indentedCode? stop i = none := by simp [indentedCode?, h.shallow]
  have hfenced : s.fencedCode? stop i = none := by simp [fencedCode?, h.fence?_eq_none]
  have hbreak : s.thematicBreak? i = none := by simp [thematicBreak?, h.isThematicBreak_eq_false]
  simp [readBlock, hcode, hfenced, h.isQuote_eq_false, hbreak, h.listStart?_eq_none,
    h.definition?_eq_none, h.htmlBlock?_eq_none, h.markedHeading?_eq_none, hunder]

end BeginsProse

end Scope

/-! ## Lines -/

/-- A text of one line that begins with a letter and does not end with a blank. -/
structure IsProseLine (text : List Char) : Prop where
  head : ∃ c rest, text = c :: rest ∧ isLetter c = true
  last : ∀ c ∈ text.getLast?, isBlank c = false
  newline : '\n' ∉ text
  carriageReturn : '\r' ∉ text
  nul : '\x00' ∉ text

theorem normalizeSource_eq_self (hreturn : '\r' ∉ text) (hnul : '\x00' ∉ text) :
    normalizeSource text = text := by
  induction text with
  | nil => rfl
  | cons c rest ih =>
      rw [List.mem_cons, not_or] at hreturn hnul
      rw [normalizeSource, ih hreturn.2 hnul.2]
      · simp [Ne.symm hreturn.1, Ne.symm hnul.1]
      · rintro rest rfl
        exact absurd rfl hreturn.1

theorem Line.split_inText (start shift width pos : Nat) (h : '\n' ∉ cs) :
    Line.split start shift width true pos cs = [⟨start, pos + cs.length, shift, width, 0⟩] := by
  induction cs generalizing pos with
  | nil => rfl
  | cons c rest ih =>
      rw [List.mem_cons, not_or] at h
      have hnewline : (c == '\n') = false := beq_eq_false_iff_ne.2 (Ne.symm h.1)
      simp only [split, hnewline, Bool.not_true, Bool.false_and, Bool.false_eq_true, if_false]
      rw [ih (pos + 1) h.2, List.length_cons]
      congr 2
      omega

/-- The scope of a text that is one line. -/
abbrev Scope.ofLine (text : List Char) : Scope :=
  ⟨text.toArray, #[⟨0, text.length, 0, 0, 0⟩], 1, 0, -1⟩

namespace IsProseLine

theorem unpadded (h : IsProseLine text) : Text.Unpadded text := by
  obtain ⟨c, rest, rfl, hc⟩ := h.head
  refine ⟨fun d hd => ?_, h.last⟩
  obtain rfl := Option.some.inj hd
  exact Text.isBlank_of_isLetter hc

theorem lines_eq (h : IsProseLine text) : Line.ofText text = #[⟨0, text.length, 0, 0, 0⟩] := by
  obtain ⟨c, rest, rfl, hc⟩ := h.head
  have hnewline := ne_of_isLetter hc (d := '\n') (by decide)
  have htab := ne_of_isLetter hc (d := '\t') (by decide)
  have hspace := ne_of_isLetter hc (d := ' ') (by decide)
  have hrest : '\n' ∉ rest := fun hmem => h.newline (List.mem_cons_of_mem _ hmem)
  simp [Line.ofText, Line.split, hnewline, htab, hspace, Line.split_inText 0 0 0 1 hrest,
    Nat.add_comm]

theorem scope_eq (h : IsProseLine text) : Scope.ofText text = .ofLine text := by
  rw [Scope.ofText, h.lines_eq]
  rfl

end IsProseLine

namespace Scope

theorem textOf_ofLine (text : List Char) : (ofLine text).textOf 0 = text := by
  simp [textOf, line, slice, Line.textStart]

theorem beginsProse_ofLine (h : IsProseLine text) : (ofLine text).BeginsProse 0 := by
  obtain ⟨c, rest, rfl, hc⟩ := h.head
  refine ⟨?_, ⟨c, ?_, hc⟩, c, rest, textOf_ofLine _, hc⟩
  · simp [isCodeIndented, line]
  · simp [firstChar?, line, Line.isEmpty, Line.textStart]

theorem dedent_zero {s : Scope} (l : Line) (last fuel pos : Nat) :
    s.dedent l last 0 fuel 0 pos = (pos, 0) := by
  cases fuel <;> simp [dedent]

/-- The paragraph of a line is the whole line. -/
theorem paragraph_ofLine (h : IsProseLine text) :
    (ofLine text).paragraph 0 = ⟨.paragraph ⟨0, 1⟩ text, 1⟩ := by
  have hend : (ofLine text).paragraphEnd 1 1 = 1 := by simp [paragraphEnd]
  have htext : (ofLine text).text 0 0 false 1 = text := by
    simp [Scope.text, dedented, line, dedent_zero, slice]
  simp only [paragraph, Nat.sub_zero, Nat.zero_add, hend, htext, Text.trim_of_unpadded h.unpadded]

theorem skipEmpty_ofLine (h : IsProseLine text) (fuel : Nat) :
    (ofLine text).skipEmpty fuel 0 = 0 := by
  obtain ⟨c, rest, rfl, -⟩ := h.head
  cases fuel <;> simp [skipEmpty, isEmpty, line, Line.isEmpty, Line.textStart]

theorem read_ofLine (h : IsProseLine text) :
    Scope.read maxBlockNesting (ofLine text) 0 1 [] = ⟨[.paragraph ⟨0, 1⟩ text], 1, []⟩ := by
  have hunder : (ofLine text).underlinedHeading? 1 0 = none := by
    simp [underlinedHeading?, findUnderline?]
  have hread : Scope.read maxBlockNesting (ofLine text) 0 1 [] =
      readBlocks (readBlock (Scope.read 19) (Scope.read 18)) (ofLine text) 1 1 0 [] := rfl
  rw [hread, readBlocks]
  simp only [(beginsProse_ofLine h).readBlock_eq hunder, skipEmpty_ofLine h, paragraph_ofLine h]
  simp [line, readBlocks]

end Scope

theorem parseBlocks_line (h : IsProseLine text) :
    parseBlocks text = [.paragraph ⟨0, 1⟩ (Inline.parse [] text)] := by
  have hdocument : Document.parse text = ⟨[.paragraph ⟨0, 1⟩ text], []⟩ := by
    simp only [Document.parse, h.scope_eq, Scope.skipEmpty_ofLine h, Scope.read_ofLine h]
  rw [parseBlocks, normalizeSource_eq_self h.carriageReturn h.nul, hdocument]
  rfl

theorem offsetsPastNewlines_eq_nil (offset : Nat) (h : '\n' ∉ cs) :
    Text.offsetsPastNewlines offset cs = [] := by
  induction cs generalizing offset with
  | nil => rfl
  | cons c rest ih =>
      rw [List.mem_cons, not_or] at h
      rw [Text.offsetsPastNewlines, if_neg (by simpa using Ne.symm h.1), ih _ h.2]

/-- The paragraph that a line is stands on the whole line. -/
theorem blockSpan_line (h : IsProseLine text) :
    (Source.ofText text (.ofText text)).blockSpan ⟨0, 1⟩ =
      (LineIndex.ofText text).span 0 text.length := by
  obtain ⟨c, rest, rfl, hc⟩ := h.head
  have hgap : isGap c = false := by
    have hspace := ne_of_isLetter hc (d := ' ') (by decide)
    have htab := ne_of_isLetter hc (d := '\t') (by decide)
    simp [isGap, hspace, htab]
  have hstarts : (LineIndex.ofText (c :: rest)).starts = [0] :=
    congrArg (0 :: ·) (offsetsPastNewlines_eq_nil 0 h.newline)
  have hlineStart : (LineIndex.ofText (c :: rest)).lineStart (0 + 1 : Nat) = 0 := by
    rw [LineIndex.lineStart_succ, hstarts]
    rfl
  have hlineEnd : (LineIndex.ofText (c :: rest)).lineEnd 1 = (c :: rest).length := by
    rw [LineIndex.lineEnd_eq, hstarts]
    rfl
  have hstart : (Source.ofText (c :: rest) (.ofText (c :: rest))).blockStart 0 = 0 := by
    dsimp only [Source.blockStart, Source.ofText]
    rw [hlineStart, hlineEnd]
    simp [skipWhile, skipWhileFor, hgap]
  rw [Source.blockSpan_eq Nat.zero_lt_one, hstart]
  exact congrArg _ hlineEnd

/-- A line that begins with a letter is one paragraph. -/
theorem parse_line (h : IsProseLine text) :
    parse text = .mk .root (some ((LineIndex.ofText text).span 0 text.length)) none none none none
      [.mk .paragraph (some ((LineIndex.ofText text).span 0 text.length)) none none none none
        ((Source.ofText text (.ofText text)).placeInlines text.length 0
          (Inline.parse [] text)).1] := by
  have hstart : ((LineIndex.ofText text).span 0 text.length).start.offset = 0 :=
    LineIndex.clamp_of_le (Nat.zero_le _)
  have hstop : ((LineIndex.ofText text).span 0 text.length).stop.offset = text.length :=
    LineIndex.clamp_of_le (Nat.le_refl _)
  rw [parse, parseWith, parseBlocks_line h]
  simp only [Source.placeDocument, Source.placeBlocks, Source.placeBlock, blockSpan_line h,
    Source.placeContent, hstart, hstop, Nat.max_zero]
  rfl

end Continuity.Markdown
