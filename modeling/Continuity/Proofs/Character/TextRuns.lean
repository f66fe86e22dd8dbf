import Continuity.Proofs.Character.Paragraph
import Continuity.Proofs.Document.FrontMatter
import Continuity.Proofs.Markdown.TextRuns

/-! # What a paragraph shows of its text

The text of a paragraph has its source where runs of text stand, and spaces elsewhere. A run that
was not found in the source stands nowhere, so nothing of it is shown.
-/

namespace Continuity.Character.Paragraph

open Markdown (Node)
open Text (slice Span)

/-! ## The source under the runs -/

/-- The run has the character at an offset. -/
def covers (offset : Nat) (run : Span) : Bool :=
  run.start.offset ≤ offset && offset < run.stop.offset

variable {content : List Char} {span run : Span} {node : Node}

theorem getElem?_writeRun {source written : List Char} {first last : Nat}
    (h : Text.Blurred written source) (hsource : source.length = last - first)
    (hfirst : first ≤ run.start.offset) (hle : run.start.offset ≤ run.stop.offset)
    (hlast : run.stop.offset ≤ last) (i : Nat) :
    (writeRun source first last written run)[i]? =
      if covers (first + i) run then source[i]? else written[i]? := by
  have hstop : (run.stop.offset : Int) - first = (run.stop.offset - first : Nat) := by omega
  have hcovers : (run.start.offset - first ≤ i ∧ i < run.stop.offset - first) ↔
      covers (first + i) run = true := by
    rw [covers, Bool.and_eq_true, decide_eq_true_iff, decide_eq_true_iff]
    omega
  rw [writeRun, Nat.max_eq_left hfirst, Nat.min_eq_left hlast, hstop,
    Text.getElem?_splice_slice (Nat.sub_le_sub_right hle first)
      (hsource ▸ Nat.sub_le_sub_right hlast first) h.length_eq]
  simp only [hcovers]

/-- Where a run of text stands, the text of a node is its source; elsewhere it is blank. -/
theorem getElem?_textOf (hstop : span.stop.offset ≤ content.length)
    (hruns : ∀ run ∈ runsOf node, span.start.offset ≤ run.start.offset ∧
      run.start.offset ≤ run.stop.offset ∧ run.stop.offset ≤ span.stop.offset) {i : Nat}
    (hi : i < span.stop.offset - span.start.offset) : (textOf content span node)[i]? =
      if (runsOf node).any (covers (span.start.offset + i)) then content[span.start.offset + i]?
      else some ' ' := by
  have hlength : (slice span.start.offset span.stop.offset content).length =
      span.stop.offset - span.start.offset := by
    rw [slice, List.length_take, List.length_drop]
    omega
  have hsource : (slice span.start.offset span.stop.offset content)[i]? =
      content[span.start.offset + i]? := by
    rw [slice, List.getElem?_take_of_lt hi, List.getElem?_drop]
  have hblank : (List.replicate (span.stop.offset - span.start.offset) ' ')[i]? = some ' ' :=
    List.getElem?_replicate_of_lt hi
  have hwritten := Text.Blurred.replicate (slice span.start.offset span.stop.offset content)
  rw [hlength] at hwritten
  rw [textOf, ← hsource, ← hblank]
  generalize runsOf node = runs at hruns
  generalize List.replicate _ ' ' = written at hwritten
  induction runs generalizing written with
  | nil => rfl
  | cons run rest ih =>
      obtain ⟨⟨hfirst, hle, hlast⟩, hrest⟩ := List.forall_mem_cons.1 hruns
      rw [List.foldl_cons, ih hrest _ (blurred_writeRun hwritten hfirst hle hlast),
        getElem?_writeRun hwritten hlength hfirst hle hlast, List.any_cons]
      cases covers (span.start.offset + i) run <;> cases rest.any _ <;> rfl

/-- A run of text is shown as it stands in the source. -/
theorem slice_textOf (hstop : span.stop.offset ≤ content.length)
    (hruns : ∀ run ∈ runsOf node, span.start.offset ≤ run.start.offset ∧
      run.start.offset ≤ run.stop.offset ∧ run.stop.offset ≤ span.stop.offset)
    (hrun : run ∈ runsOf node) :
    slice (run.start.offset - span.start.offset) (run.stop.offset - span.start.offset)
        (textOf content span node) = slice run.start.offset run.stop.offset content := by
  obtain ⟨hfirst, hle, hlast⟩ := hruns run hrun
  have hlength : run.stop.offset - span.start.offset - (run.start.offset - span.start.offset) =
      run.stop.offset - run.start.offset := by
    omega
  apply List.ext_getElem?
  intro i
  rw [slice, slice, hlength]
  rcases Nat.lt_or_ge i (run.stop.offset - run.start.offset) with hi | hi
  · have hoffset : span.start.offset + (run.start.offset - span.start.offset + i) =
        run.start.offset + i := by
      omega
    have hcovers : covers (run.start.offset + i) run = true := by
      rw [covers, Bool.and_eq_true, decide_eq_true_iff, decide_eq_true_iff]
      omega
    rw [List.getElem?_take_of_lt hi, List.getElem?_take_of_lt hi, List.getElem?_drop,
      List.getElem?_drop, getElem?_textOf hstop hruns (by omega), hoffset,
      if_pos (List.any_eq_true.2 ⟨run, hrun, hcovers⟩)]
  · rw [List.getElem?_take_eq_none hi, List.getElem?_take_eq_none hi]

end Continuity.Character.Paragraph

namespace Continuity.Markdown.Node

variable {p : Node}

mutual

theorem exists_mem_walkQuoted : ∀ {n : Node}, p ∈ n.walk → ∀ quoted : Bool,
    ∃ within, (p, within) ∈ n.walkQuoted quoted
  | .mk kind _ _ _ _ _ children, hp, quoted => by
      rcases List.mem_cons.1 hp with rfl | hp
      · exact ⟨quoted, List.mem_cons_self⟩
      · obtain ⟨within, hwithin⟩ := exists_mem_walkQuotedAll hp (quoted || kind == .quote)
        exact ⟨within, List.mem_cons_of_mem _ hwithin⟩

theorem exists_mem_walkQuotedAll : ∀ {nodes : List Node}, p ∈ walkAll nodes → ∀ quoted : Bool,
    ∃ within, (p, within) ∈ walkQuotedAll quoted nodes
  | _ :: _, hp, quoted => by
      rcases List.mem_append.1 hp with hp | hp
      · obtain ⟨within, hwithin⟩ := exists_mem_walkQuoted hp quoted
        exact ⟨within, List.mem_append_left _ hwithin⟩
      · obtain ⟨within, hwithin⟩ := exists_mem_walkQuotedAll hp quoted
        exact ⟨within, List.mem_append_right _ hwithin⟩

end

end Continuity.Markdown.Node

namespace Continuity.Document

open Character (Paragraph)
open Markdown (FoundFrom Node Source)
open Text (slice Span LineIndex)

variable {session : Yaml.Session} {path : Path} {name : String} {content : List Char} {d : Document}

/-! ## The runs of a document -/

/-- A paragraph of the tree is among those that are searched for names. -/
theorem exists_mem_all {p : Node} (hp : p ∈ d.root.walk) (hkind : p.kind = .paragraph) {block : Span}
    (hblock : p.span = some block) : ∃ shown ∈ Paragraph.all d.content d.root,
      shown.offset = block.start.offset ∧ shown.text = Paragraph.textOf d.content block p := by
  obtain ⟨quoted, hquoted⟩ := Node.exists_mem_walkQuoted hp false
  have hshown : Paragraph.ofNode? d.content p quoted = some ⟨block.start.offset,
      Paragraph.textOf d.content block p, quoted,
      Text.sentences (Paragraph.textOf d.content block p)⟩ := by
    rw [Paragraph.ofNode?, hkind, hblock]
  exact ⟨_, List.mem_filterMap.2 ⟨(p, quoted), hquoted, hshown⟩, rfl, rfl⟩

/-- Text is part of a paragraph or heading, whose content was placed from its start on. -/
theorem exists_placedFrom (h : (ofContent session path name content).1 = .ok d) {n : Node}
    (hn : n ∈ d.root.walk) (htext : n.kind = .text) :
    ∃ p ∈ d.root.walk, (p.kind = .paragraph ∨ p.kind = .heading) ∧ n ∈ Node.walkAll p.children ∧
      ∃ block : Span, p.span = some block ∧ block.stop.offset ≤ d.content.length ∧
        Node.AllPlacedFrom d.content block.stop.offset block.start.offset p.children := by
  obtain ⟨hcontent, -, hroot⟩ := content_of_ofContent h
  have hheld : (Source.ofText (blankUpTo (splitFrontMatter content).2 content)
      (.ofText content)).TextHeld (Node.walkAll d.root.children) := by
    rw [hroot]
    exact Source.textHeld_blocks _
  have hwalk : d.root.walk = d.root :: Node.walkAll d.root.children := by
    rw [hroot]
    rfl
  have hinside : n ∈ Node.walkAll d.root.children := by
    refine (List.mem_cons.1 (hwalk ▸ hn)).resolve_left ?_
    rintro rfl
    rw [hroot] at htext
    cases htext
  obtain ⟨p, hp, hholds, hpart⟩ := hheld n hinside htext
  -- The block is in the body, where what was read is the content itself.
  obtain ⟨block, hblock, hstart⟩ := start_le_of_mem h hp
  obtain ⟨hplaced, hstop⟩ := hholds.placedFrom (LineIndex.ordered_ofText content) hblock
    fun _ hoffset => drop_blankUpTo (Nat.le_trans hstart hoffset) content
  rw [hcontent]
  exact ⟨p, hwalk ▸ List.mem_cons_of_mem _ hp, hholds.kind, hpart, block, hblock, hstop, hplaced⟩

theorem runs_inside {p : Node} {block : Span} (hkind : p.kind = .paragraph)
    (h : Node.AllPlacedFrom content block.stop.offset block.start.offset p.children) :
    ∀ run ∈ Paragraph.runsOf p, block.start.offset ≤ run.start.offset ∧
      run.start.offset ≤ run.stop.offset ∧ run.stop.offset ≤ block.stop.offset := by
  intro run hrun
  obtain ⟨n, hn, hspan⟩ := List.mem_filterMap.1 hrun
  obtain ⟨hn, htext⟩ := List.mem_filter.1 hn
  obtain ⟨kind, span, value, url, title, depth, children⟩ := p
  rcases List.mem_cons.1 hn with rfl | hn
  · cases hkind.symm.trans (eq_of_beq htext)
  · obtain ⟨cursor, hcursor, hplaced⟩ := h.of_mem_walkAll hn
    obtain ⟨kind, span, value, url, title, depth, children⟩ := n
    obtain ⟨own, hown, hfirst, hle, hlast, -⟩ := hplaced
    obtain rfl : own = run := Option.some.inj (hown.symm.trans hspan)
    exact ⟨Nat.le_trans hcursor hfirst, hle, hlast⟩

/-- Every run of text of a document is part of a paragraph or heading, whose content was placed one
piece after another from its start on. The run stands where its value is first found between the
piece before it and the end of the block; if it is not found, it takes no room. What stands at the
run is what is searched for names in a paragraph. -/
theorem text_found_from (h : (ofContent session path name content).1 = .ok d) {n : Node}
    (hn : n ∈ d.root.walk) (htext : n.kind = .text) :
    ∃ p ∈ d.root.walk, (p.kind = .paragraph ∨ p.kind = .heading) ∧ n ∈ Node.walkAll p.children ∧
      ∃ block : Span, p.span = some block ∧
        Node.AllPlacedFrom d.content block.stop.offset block.start.offset p.children ∧
        ∃ (run : Span) (value : List Char) (cursor : Nat), n.span = some run ∧
          n.value = some (String.ofList value) ∧ block.start.offset ≤ cursor ∧
          FoundFrom d.content block.stop.offset cursor run.start.offset run.stop.offset value ∧
          (p.kind = .paragraph → ∃ shown ∈ Paragraph.all d.content d.root,
            shown.offset = block.start.offset ∧
            slice (run.start.offset - shown.offset) (run.stop.offset - shown.offset) shown.text =
              slice run.start.offset run.stop.offset d.content) := by
  obtain ⟨p, hp, hkind, hpart, block, hblock, hstop, hplaced⟩ := exists_placedFrom h hn htext
  refine ⟨p, hp, hkind, hpart, block, hblock, hplaced, ?_⟩
  obtain ⟨cursor, hcursor, hfrom⟩ := hplaced.of_mem_walkAll hpart
  obtain ⟨kind, span, value, url, title, depth, children⟩ := n
  obtain ⟨run, hrun, -, -, -, hfound, -⟩ := hfrom
  obtain ⟨text, hvalue, hfound⟩ := hfound htext
  refine ⟨run, text, cursor, hrun, hvalue, hcursor, hfound, fun hparagraph => ?_⟩
  obtain ⟨shown, hshown, hoffset, htextOf⟩ := exists_mem_all hp hparagraph hblock
  have hruns : run ∈ Paragraph.runsOf p := by
    obtain ⟨kind, span, value, url, title, depth, children⟩ := p
    exact List.mem_filterMap.2
      ⟨_, List.mem_filter.2 ⟨List.mem_cons_of_mem _ hpart, beq_iff_eq.2 htext⟩, hrun⟩
  refine ⟨shown, hshown, hoffset, ?_⟩
  rw [hoffset, htextOf, Paragraph.slice_textOf hstop (runs_inside hparagraph hplaced) hruns]

/-- A paragraph with an escape. -/
def escaped : List Char := "Then Tom \\& Jerry slept.\n".toList

theorem escaped_found_from : ∃ d, (ofContent {} ⟨.absolute, ["a.md"]⟩ "a.md" escaped).1 = .ok d ∧
    ∃ n ∈ d.root.walk, n.kind = .text ∧ ∃ p ∈ d.root.walk, n ∈ Node.walkAll p.children ∧
      ∃ block : Span, p.span = some block ∧
        Node.AllPlacedFrom d.content block.stop.offset block.start.offset p.children := by
  obtain ⟨d, h⟩ := exists_ofContent {} ⟨.absolute, ["a.md"]⟩ "a.md" escaped rfl
  have hexists : ∃ n ∈ d.root.walk, n.kind = .text := by
    rw [(content_of_ofContent h).2.2]
    decide +kernel
  obtain ⟨n, hn, htext⟩ := hexists
  obtain ⟨p, hp, -, hpart, block, hblock, hplaced, -⟩ := text_found_from h hn htext
  exact ⟨d, h, n, hn, htext, p, hp, hpart, block, hblock, hplaced⟩

/-- The text of a paragraph with an escape has no place, and nothing of it is searched for names. -/
theorem text_lost : ∃ d, (ofContent {} ⟨.absolute, ["a.md"]⟩ "a.md" escaped).1 = .ok d ∧
    (∃ n ∈ d.root.walk, n.kind = .text ∧ n.value = some "Then Tom & Jerry slept." ∧
      ¬ ∃ run, n.span = some run ∧
        slice run.start.offset run.stop.offset d.content = "Then Tom & Jerry slept.".toList) ∧
    ∀ p ∈ Paragraph.all d.content d.root, ∀ c ∈ p.text, c = ' ' := by
  obtain ⟨d, h⟩ := exists_ofContent {} ⟨.absolute, ["a.md"]⟩ "a.md" escaped rfl
  obtain ⟨hcontent, -, hroot⟩ := content_of_ofContent h
  refine ⟨d, h, ?_⟩
  rw [hcontent, hroot]
  have htext : ∃ n ∈ (Markdown.parseWith
        (blankUpTo (splitFrontMatter escaped).2 escaped) (.ofText escaped)).walk,
      n.kind = .text ∧ n.value = some "Then Tom & Jerry slept." ∧
        n.span.map (fun run => slice run.start.offset run.stop.offset escaped) = some [] := by
    decide +kernel
  have hblank : (Paragraph.all escaped (Markdown.parseWith
      (blankUpTo (splitFrontMatter escaped).2 escaped) (.ofText escaped))).all
        (fun p => p.text.all (· == ' ')) = true := by
    decide +kernel
  obtain ⟨n, hn, hkind, hvalue, hslice⟩ := htext
  refine ⟨⟨n, hn, hkind, hvalue, ?_⟩, fun p hp c hc => ?_⟩
  · rintro ⟨run, hrun, heq⟩
    rw [hrun, Option.map_some, heq] at hslice
    cases hslice
  · exact eq_of_beq (List.all_eq_true.1 (List.all_eq_true.1 hblank p hp) c hc)

end Continuity.Document
