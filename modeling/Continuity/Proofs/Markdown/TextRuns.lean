import Continuity.Proofs.Markdown.Placement
import Continuity.Proofs.Text.Slice

/-! # Where runs of text are found

Text is sought in the source of its block just as it reads, from where the cursor is. What the
source spells otherwise, by an escape or an entity, is not found there and takes no room.
-/

namespace Continuity.Markdown

open Text (LineIndex Span)

/-! ## Runs of text -/

/-- A text that was sought between a cursor and a stop, and the stretch it was given: the first that
reads so, or, if there is none, no room at the cursor. -/
structure FoundFrom (source : List Char) (stop pos start next : Nat) (text : List Char) : Prop where
  shown_iff : Text.slice start next source = text ↔ text <:+: Text.slice pos stop source
  first : ∀ offset, pos ≤ offset → offset < start → ¬ text <+: source.drop offset
  lost : ¬ text <:+: Text.slice pos stop source → start = pos ∧ next = pos

namespace Node

mutual

/-- The node was placed from a cursor on. If it is text, it was sought from there; what is inside it
was placed from its opening mark on, which has two characters at most. -/
def PlacedFrom (source : List Char) (stop pos : Nat) : Node → Prop
  | .mk kind span value _ _ _ children => ∃ run, span = some run ∧ pos ≤ run.start.offset ∧
      run.start.offset ≤ run.stop.offset ∧ run.stop.offset ≤ stop ∧
      (kind = .text → ∃ text, value = some (String.ofList text) ∧
        FoundFrom source stop pos run.start.offset run.stop.offset text) ∧
      ∃ opened, run.start.offset ≤ opened ∧ opened ≤ run.start.offset + 2 ∧
        AllPlacedFrom source stop opened children

/-- The nodes were placed one after another, each from where the one before it ended. -/
def AllPlacedFrom (source : List Char) (stop pos : Nat) : List Node → Prop
  | [] => True
  | n :: rest => n.PlacedFrom source stop pos ∧
      AllPlacedFrom source stop (n.span.elim pos (·.stop.offset)) rest

end

variable {source : List Char} {stop pos : Nat} {m : Node}

mutual

theorem PlacedFrom.of_mem_walk : ∀ {n : Node} {pos : Nat}, n.PlacedFrom source stop pos →
    m ∈ n.walk → ∃ cursor, pos ≤ cursor ∧ m.PlacedFrom source stop cursor
  | .mk .., pos, h, hm => by
      rcases List.mem_cons.1 hm with rfl | hm
      · exact ⟨pos, Nat.le_refl _, h⟩
      · obtain ⟨run, -, hpos, -, -, -, opened, hopened, -, hchildren⟩ := h
        obtain ⟨cursor, hcursor, hplaced⟩ := hchildren.of_mem_walkAll hm
        exact ⟨cursor, Nat.le_trans hpos (Nat.le_trans hopened hcursor), hplaced⟩

theorem AllPlacedFrom.of_mem_walkAll : ∀ {nodes : List Node} {pos : Nat},
    AllPlacedFrom source stop pos nodes → m ∈ walkAll nodes →
      ∃ cursor, pos ≤ cursor ∧ m.PlacedFrom source stop cursor
  | [], _, _, hm => by cases hm
  | .mk .. :: _, pos, h, hm => by
      obtain ⟨hn, hrest⟩ := h
      rcases List.mem_append.1 hm with hfirst | hlater
      · exact hn.of_mem_walk hfirst
      · obtain ⟨run, rfl, hpos, hle, -⟩ := hn
        obtain ⟨cursor, hcursor, hplaced⟩ := hrest.of_mem_walkAll hlater
        exact ⟨cursor, Nat.le_trans hpos (Nat.le_trans hle hcursor), hplaced⟩

end

end Node

namespace Source

variable {s : Source} {source needle : List Char} {lo pos stop found : Nat}

/-! ## Searching -/

/-- The source reads like a text from an offset on. -/
def ReadsFrom (s : Source) (source : List Char) (lo : Nat) : Prop :=
  ∀ offset, lo ≤ offset → s.src.toList.drop offset = source.drop offset

theorem ReadsFrom.hasAt_iff (h : s.ReadsFrom source lo) (hpos : lo ≤ pos) :
    s.hasAt needle pos = true ↔ needle <+: source.drop pos := by
  rw [← h pos hpos]
  clear hpos
  induction needle generalizing pos with
  | nil => exact iff_of_true rfl List.nil_prefix
  | cons c rest ih =>
      rw [hasAt, Bool.and_eq_true, beq_iff_eq, ih, ← Array.getElem?_toList]
      rcases Nat.lt_or_ge pos s.src.toList.length with hpos | hpos
      · rw [List.drop_eq_getElem_cons hpos, List.cons_prefix_cons, List.getElem?_eq_getElem hpos,
          Option.some_inj, eq_comm]
      · rw [List.drop_eq_nil_of_le hpos, List.getElem?_eq_none hpos]
        simp

theorem seek?_eq_none {fuel : Nat} (h : s.seek? needle fuel pos = none) {k : Nat} (hk : pos ≤ k)
    (hfuel : k < pos + fuel) : s.hasAt needle k = false := by
  induction fuel generalizing pos with
  | zero => omega
  | succ fuel ih =>
      rw [seek?] at h
      split at h
      · cases h
      next hpos =>
        rcases Nat.eq_or_lt_of_le hk with rfl | hk
        · exact Bool.eq_false_iff.2 hpos
        · exact ih h hk (by omega)

theorem seek?_eq_some {fuel : Nat} (h : s.seek? needle fuel pos = some found) :
    s.hasAt needle found = true ∧ ∀ k, pos ≤ k → k < found → s.hasAt needle k = false := by
  induction fuel generalizing pos with
  | zero => cases h
  | succ fuel ih =>
      rw [seek?] at h
      split at h
      next hpos =>
        cases h
        exact ⟨hpos, fun k hk hlt => absurd hk (Nat.not_le_of_lt hlt)⟩
      next hpos =>
        obtain ⟨hfound, hfirst⟩ := ih h
        refine ⟨hfound, fun k hk hlt => ?_⟩
        rcases Nat.eq_or_lt_of_le hk with rfl | hk
        · exact Bool.eq_false_iff.2 hpos
        · exact hfirst k hk hlt

theorem foundFrom_some (h : s.ReadsFrom source lo) (hpos : lo ≤ pos)
    (hfind : s.find? needle pos stop = some found) :
    FoundFrom source stop pos found (found + needle.length) needle := by
  obtain ⟨hle, hstop⟩ := find?_bounds hfind
  rw [find?] at hfind
  split at hfind
  · cases hfind
  next hne =>
    obtain ⟨hfound, hfirst⟩ := seek?_eq_some hfind
    have hprefix := (h.hasAt_iff (Nat.le_trans hpos hle)).1 hfound
    have hinfix : needle <:+: Text.slice pos stop source :=
      (Text.infix_slice_iff (by simpa using hne)).2 ⟨found, hle, hstop, hprefix⟩
    refine ⟨iff_of_true (Text.slice_eq_iff_prefix_drop.2 hprefix) hinfix, fun k hk hlt habsent => ?_,
      fun hlost => absurd hinfix hlost⟩
    have hat := (h.hasAt_iff (Nat.le_trans hpos hk)).2 habsent
    rw [hfirst k hk hlt] at hat
    cases hat

theorem foundFrom_none (h : s.ReadsFrom source lo) (hpos : lo ≤ pos)
    (hfind : s.find? needle pos stop = none) : FoundFrom source stop pos pos pos needle := by
  have hslice : Text.slice pos pos source = [] := by
    rw [Text.slice, Nat.sub_self, List.take_zero]
  refine ⟨?_, fun k hk hlt => absurd hk (Nat.not_le_of_lt hlt), fun _ => ⟨rfl, rfl⟩⟩
  rw [hslice]
  rw [find?] at hfind
  split at hfind
  next hempty =>
    obtain rfl := List.isEmpty_iff.1 hempty
    exact iff_of_true rfl (List.nil_infix)
  next hne =>
    have hne : needle ≠ [] := by simpa using hne
    refine iff_of_false hne.symm fun hinfix => ?_
    obtain ⟨k, hk, hstop, hprefix⟩ := (Text.infix_slice_iff hne).1 hinfix
    have hat := (h.hasAt_iff (Nat.le_trans hpos hk)).2 hprefix
    rw [seek?_eq_none hfind hk (by omega)] at hat
    cases hat

/-! ## Content -/

/-- A piece was placed from the cursor before it on, and ends where the cursor is after it. -/
def PlacedTo (source : List Char) (stop pos : Nat) (r : Node × Nat) : Prop :=
  r.1.PlacedFrom source stop pos ∧ r.1.span.elim pos (·.stop.offset) = r.2

theorem openAt_mark (s : Source) (stop pos : Nat) {mark : List Char} (h : mark.length ≤ 2) :
    (s.openAt stop pos mark).2 ≤ (s.openAt stop pos mark).1 + 2 := by
  rw [openAt]
  split
  · exact Nat.add_le_add_left h _
  · exact Nat.le_add_right _ _

theorem placedFrom_mk (hlength : stop ≤ s.index.length) {kind : NodeKind}
    {value url title : Option String} {depth : Option Int} {children : List Node}
    {start opened next : Nat} (hpos : pos ≤ start) (hopened : start ≤ opened)
    (hmark : opened ≤ start + 2) (hnext : opened ≤ next) (hstop : next ≤ stop)
    (htext : kind = .text → ∃ text, value = some (String.ofList text) ∧
      FoundFrom source stop pos start next text)
    (hchildren : Node.AllPlacedFrom source stop opened children) :
    PlacedTo source stop pos
      (.mk kind (some (s.index.span start next)) value url title depth children, next) := by
  have hlast : (s.index.span start next).stop.offset = next :=
    LineIndex.clamp_of_le (Nat.le_trans hstop hlength)
  have hfirst : (s.index.span start next).start.offset = start :=
    LineIndex.clamp_of_le (by omega)
  refine ⟨⟨_, rfl, ?_⟩, hlast⟩
  rw [hfirst, hlast]
  exact ⟨hpos, Nat.le_trans hopened hnext, hstop, htext, opened, hopened, hmark, hchildren⟩

theorem placedFrom_leaf (hsource : s.ReadsFrom source lo) (hlength : stop ≤ s.index.length)
    {kind : NodeKind} {value : Option String} {needle : List Char}
    (htext : kind = .text → value = some (String.ofList needle)) (hlo : lo ≤ pos) (h : pos ≤ stop) :
    PlacedTo source stop pos (s.placeLeaf stop pos kind value needle) := by
  rw [placeLeaf]
  cases hfind : s.find? needle pos stop with
  | some found =>
      obtain ⟨hle, hbefore⟩ := find?_bounds hfind
      exact placedFrom_mk hlength hle (Nat.le_refl _) (Nat.le_add_right _ _) (Nat.le_add_right _ _)
        hbefore (fun hkind => ⟨needle, htext hkind, foundFrom_some hsource hlo hfind⟩) trivial
  | none =>
      exact placedFrom_mk hlength (Nat.le_refl _) (Nat.le_refl _) (Nat.le_add_right _ _)
        (Nat.le_refl _) h (fun hkind => ⟨needle, htext hkind, foundFrom_none hsource hlo hfind⟩)
        trivial

theorem placedFrom_code (hsource : s.ReadsFrom source lo) (hlength : stop ≤ s.index.length)
    (mark content : List Char) (hlo : lo ≤ pos) (h : pos ≤ stop) :
    PlacedTo source stop pos (s.placeCode stop pos mark content) := by
  have hkind : NodeKind.inlineCode ≠ .text := by decide
  rw [placeCode]
  split
  next => exact placedFrom_leaf hsource hlength (fun htext => absurd htext hkind) hlo h
  next start hstart =>
    have hopened := find?_bounds hstart
    have hpassed := s.skipNext_bounds content hopened.2
    have hclosed := s.skipNext_bounds mark hpassed.2
    refine placedFrom_mk hlength hopened.1 (Nat.le_refl _) (Nat.le_add_right _ _) ?_ hclosed.2
      (fun htext => absurd htext hkind) trivial
    exact Nat.le_trans (Nat.le_add_right _ _) (Nat.le_trans hpassed.1 hclosed.1)

mutual

theorem placedFrom_inline (hsource : s.ReadsFrom source lo) (hlength : stop ≤ s.index.length) :
    ∀ (piece : Inline) {pos : Nat}, lo ≤ pos → pos ≤ stop →
    PlacedTo source stop pos (s.placeInline stop pos piece)
  | .text _, _, hlo, h => placedFrom_leaf hsource hlength (fun _ => rfl) hlo h
  | .html _, _, hlo, h | .lineBreak, _, hlo, h => placedFrom_leaf hsource hlength nofun hlo h
  | .code mark content, _, hlo, h => placedFrom_code hsource hlength mark content hlo h
  | .emphasis strong mark children, pos, hlo, h => by
      have hmark : (if strong then [mark, mark] else [mark]).length ≤ 2 := by
        split
        · exact Nat.le_refl _
        · exact Nat.le_succ _
      have hopened := s.openAt_bounds (if strong then [mark, mark] else [mark]) h
      obtain ⟨hchildren, hlast⟩ := placed_inlines (s := s) children hopened.2.2
      have hclosed := s.skipNext_bounds (if strong then [mark, mark] else [mark]) hlast
      refine placedFrom_mk hlength hopened.1 hopened.2.1 (s.openAt_mark stop pos hmark)
        (Nat.le_trans hchildren.le hclosed.1) hclosed.2 (by split <;> nofun) ?_
      have hinside := Nat.le_trans hlo (Nat.le_trans hopened.1 hopened.2.1)
      exact placedFrom_inlines hsource hlength children hinside hopened.2.2
  | .link automatic url title children, pos, hlo, h => by
      have hopened := s.openAt_bounds [if automatic then '<' else '['] h
      obtain ⟨hchildren, hlast⟩ := placed_inlines (s := s) children hopened.2.2
      have hclosed := s.skipLinkEnd_bounds automatic hlast
      refine placedFrom_mk hlength hopened.1 hopened.2.1 (s.openAt_mark stop pos (Nat.le_succ _))
        (Nat.le_trans hchildren.le hclosed.1) hclosed.2 nofun ?_
      have hinside := Nat.le_trans hlo (Nat.le_trans hopened.1 hopened.2.1)
      exact placedFrom_inlines hsource hlength children hinside hopened.2.2
  | .image url title description, pos, _, h => by
      have hopened := s.openAt_bounds ['!', '['] h
      have hclosed := s.skipTail_bounds hopened.2.2
      exact placedFrom_mk hlength hopened.1 hopened.2.1 (s.openAt_mark stop pos (Nat.le_refl _))
        hclosed.1 hclosed.2 nofun trivial

theorem placedFrom_inlines (hsource : s.ReadsFrom source lo) (hlength : stop ≤ s.index.length) :
    ∀ (content : List Inline) {pos : Nat}, lo ≤ pos → pos ≤ stop →
    Node.AllPlacedFrom source stop pos (s.placeInlines stop pos content).1
  | [], _, _, _ => trivial
  | piece :: rest, pos, hlo, h => by
      obtain ⟨hpiece, hnext⟩ := placed_inline (s := s) piece h
      obtain ⟨hplaced, hend⟩ := placedFrom_inline hsource hlength piece hlo h
      refine ⟨hplaced, ?_⟩
      rw [hend]
      exact placedFrom_inlines hsource hlength rest (Nat.le_trans hlo hpiece.le) hnext

end

/-! ## Blocks -/

theorem blockSpan_bounds (h : s.index.Ordered) (lines : LineRange) :
    (s.blockSpan lines).start.offset ≤ (s.blockSpan lines).stop.offset ∧
      (s.blockSpan lines).stop.offset ≤ s.index.length := by
  have hle : s.blockStart lines.first ≤ s.index.lineEnd (max lines.stop (lines.first + 1)) :=
    blockStart_le_lineEnd h (Nat.le_max_right _ _)
  exact ⟨Nat.le_min.2 ⟨Nat.le_trans (Nat.min_le_left _ _) hle, Nat.min_le_right _ _⟩,
    Nat.min_le_right _ _⟩

/-- The node is a paragraph or a heading, with its content placed in its lines. -/
structure HoldsContent (s : Source) (p : Node) : Prop where
  kind : p.kind = .paragraph ∨ p.kind = .heading
  placed : ∃ lines content, p.span = some (s.blockSpan lines) ∧
    p.children = s.placeContent (s.blockSpan lines) content

/-- Text among some nodes is part of a paragraph or heading among them. -/
def TextHeld (s : Source) (nodes : List Node) : Prop :=
  ∀ n ∈ nodes, n.kind = .text → ∃ p ∈ nodes, s.HoldsContent p ∧ n ∈ Node.walkAll p.children

theorem TextHeld.append {nodes nodes' : List Node} (h : s.TextHeld nodes)
    (h' : s.TextHeld nodes') : s.TextHeld (nodes ++ nodes') := by
  intro n hn hkind
  rcases List.mem_append.1 hn with hn | hn
  · obtain ⟨p, hp, hheld⟩ := h n hn hkind
    exact ⟨p, List.mem_append_left _ hp, hheld⟩
  · obtain ⟨p, hp, hheld⟩ := h' n hn hkind
    exact ⟨p, List.mem_append_right _ hp, hheld⟩

theorem TextHeld.cons {p : Node} {nodes : List Node} (hkind : p.kind ≠ .text)
    (h : s.TextHeld nodes) : s.TextHeld (p :: nodes) := by
  intro n hn htext
  rcases List.mem_cons.1 hn with rfl | hn
  · exact absurd htext hkind
  · obtain ⟨p, hp, hheld⟩ := h n hn htext
    exact ⟨p, List.mem_cons_of_mem _ hp, hheld⟩

theorem HoldsContent.textHeld {p : Node} (h : s.HoldsContent p) : s.TextHeld p.walk := by
  obtain ⟨kind, span, value, url, title, depth, children⟩ := p
  intro n hn htext
  rcases List.mem_cons.1 hn with rfl | hn
  · rcases h.kind with hkind | hkind <;> cases hkind.symm.trans htext
  · exact ⟨_, List.mem_cons_self, h, hn⟩

mutual

theorem textHeld_block : ∀ b : Block (List Inline), s.TextHeld (s.placeBlock b).walk
  | .paragraph _ _ => HoldsContent.textHeld ⟨.inl rfl, _, _, rfl, rfl⟩
  | .heading _ _ _ => HoldsContent.textHeld ⟨.inr rfl, _, _, rfl, rfl⟩
  | .quote _ children | .list _ children | .item _ children =>
      .cons nofun (textHeld_blocks children)
  | .code .. | .html .. | .thematicBreak _ => .cons nofun nofun

theorem textHeld_blocks : ∀ blocks : List (Block (List Inline)),
    s.TextHeld (Node.walkAll (s.placeBlocks blocks))
  | [] => nofun
  | b :: rest => (textHeld_block b).append (textHeld_blocks rest)

end

/-- What is in a paragraph or heading was placed from its start on, up to its end. -/
theorem HoldsContent.placedFrom {p : Node} (h : s.HoldsContent p) (hordered : s.index.Ordered)
    {block : Span} (hblock : p.span = some block)
    (hsource : s.ReadsFrom source block.start.offset) :
    Node.AllPlacedFrom source block.stop.offset block.start.offset p.children ∧
      block.stop.offset ≤ s.index.length := by
  obtain ⟨lines, content, hspan, hchildren⟩ := h.placed
  obtain rfl := Option.some.inj (hspan.symm.trans hblock)
  obtain ⟨hle, hstop⟩ := blockSpan_bounds hordered lines
  rw [hchildren, placeContent, Nat.max_eq_left hle]
  exact ⟨placedFrom_inlines hsource hstop content (Nat.le_refl _) hle, hstop⟩

end Source

end Continuity.Markdown
