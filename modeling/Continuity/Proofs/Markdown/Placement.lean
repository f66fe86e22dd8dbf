import Continuity.Markdown.Node
import Continuity.Markdown.Placement
import Continuity.Proofs.Text.Position

/-! # Where content is found

The cursor only moves forward, and never past the end of the block, whatever is found or not. So
content stands in the order in which it is read, inside its block; and blocks whose lines lie one
after another, inside the lines of the block around them, stand so in the text.
-/

/-! ## Trees of nodes in their places

A tree is in its place if its nodes stand one inside another, and one after another where they have
the same parent. What is so for the tree is so for each of its nodes.
-/

namespace Continuity.Markdown

open Text (LineIndex Span)

namespace Node

mutual

/-- The node stands between two offsets, and so do, one after another, the nodes inside it between
its own. -/
def PlacedIn (index : LineIndex) (lo hi : Nat) : Node → Prop
  | .mk _ span _ _ _ _ children => ∃ start stop, span = some (index.span start stop) ∧
      lo ≤ start ∧ stop ≤ hi ∧ AllPlacedIn index start stop children

/-- The nodes stand one after another between two offsets. -/
def AllPlacedIn (index : LineIndex) (lo hi : Nat) : List Node → Prop
  | [] => lo ≤ hi
  | n :: rest => ∃ mid, PlacedIn index lo mid n ∧ AllPlacedIn index mid hi rest

end

/-- A node stands where the line index says, inside the text, and around the nodes inside it, which
stand one after another. -/
structure WellPlaced (index : LineIndex) (n : Node) : Prop where
  placed : ∃ span, n.span = some span ∧ span.start = index.point span.start.offset ∧
    span.stop = index.point span.stop.offset ∧ span.start.offset ≤ span.stop.offset ∧
    span.stop.offset ≤ index.length
  around : ∀ outer ∈ n.span, ∀ c ∈ n.children, ∀ inner ∈ c.span,
    outer.start.offset ≤ inner.start.offset ∧ inner.stop.offset ≤ outer.stop.offset
  ordered : n.children.Pairwise fun a b =>
    ∀ former ∈ a.span, ∀ latter ∈ b.span, former.stop.offset ≤ latter.start.offset

variable {index : LineIndex} {lo lo' hi hi' : Nat} {n m : Node} {nodes : List Node} {span : Span}

mutual

theorem PlacedIn.le : ∀ {n : Node} {lo hi : Nat}, n.PlacedIn index lo hi → lo ≤ hi
  | .mk .., _, _, h => by
      obtain ⟨start, stop, -, hlo, hhi, hchildren⟩ := h
      have := hchildren.le
      omega

theorem AllPlacedIn.le : ∀ {nodes : List Node} {lo hi : Nat}, AllPlacedIn index lo hi nodes → lo ≤ hi
  | [], _, _, h => h
  | _ :: _, _, _, h => by
      obtain ⟨mid, hn, hrest⟩ := h
      exact Nat.le_trans hn.le hrest.le

end

theorem PlacedIn.mono (h : n.PlacedIn index lo hi) (hlo : lo' ≤ lo) (hhi : hi ≤ hi') :
    n.PlacedIn index lo' hi' := by
  obtain ⟨kind, span, value, url, title, depth, children⟩ := n
  obtain ⟨start, stop, hspan, hstart, hstop, hchildren⟩ := h
  exact ⟨start, stop, hspan, Nat.le_trans hlo hstart, Nat.le_trans hstop hhi, hchildren⟩

theorem AllPlacedIn.mono (h : AllPlacedIn index lo hi nodes) (hlo : lo' ≤ lo) (hhi : hi ≤ hi') :
    AllPlacedIn index lo' hi' nodes := by
  induction nodes generalizing lo lo' with
  | nil => exact Nat.le_trans hlo (Nat.le_trans h hhi)
  | cons n rest ih =>
      obtain ⟨mid, hn, hrest⟩ := h
      exact ⟨mid, hn.mono hlo (Nat.le_refl _), ih hrest (Nat.le_refl _)⟩

theorem AllPlacedIn.of_mem (h : AllPlacedIn index lo hi nodes) (hn : n ∈ nodes) :
    n.PlacedIn index lo hi := by
  induction nodes generalizing lo with
  | nil => cases hn
  | cons a rest ih =>
      obtain ⟨mid, ha, hrest⟩ := h
      rcases List.mem_cons.1 hn with rfl | hn
      · exact ha.mono (Nat.le_refl _) hrest.le
      · exact (ih hrest hn).mono ha.le (Nat.le_refl _)

mutual

/-- Whatever is inside a node stands where the node stands. -/
theorem PlacedIn.of_mem_walk : ∀ {n : Node} {lo hi : Nat}, n.PlacedIn index lo hi →
    m ∈ n.walk → m.PlacedIn index lo hi
  | .mk .., _, _, h, hm => by
      obtain ⟨start, stop, hspan, hlo, hhi, hchildren⟩ := h
      rw [walk] at hm
      rcases List.mem_cons.1 hm with rfl | hm
      · exact ⟨start, stop, hspan, hlo, hhi, hchildren⟩
      · exact (hchildren.of_mem_walkAll hm).mono hlo hhi

theorem AllPlacedIn.of_mem_walkAll : ∀ {nodes : List Node} {lo hi : Nat},
    AllPlacedIn index lo hi nodes → m ∈ walkAll nodes → m.PlacedIn index lo hi
  | [], _, _, _, hm => by cases hm
  | _ :: _, _, _, h, hm => by
      obtain ⟨mid, hn, hrest⟩ := h
      rw [walkAll] at hm
      rcases List.mem_append.1 hm with hm | hm
      · exact (hn.of_mem_walk hm).mono (Nat.le_refl _) hrest.le
      · exact (hrest.of_mem_walkAll hm).mono hn.le (Nat.le_refl _)

end

theorem PlacedIn.exists_span (h : n.PlacedIn index lo hi) : ∃ span, n.span = some span := by
  obtain ⟨kind, span, value, url, title, depth, children⟩ := n
  obtain ⟨start, stop, hspan, -⟩ := h
  exact ⟨_, hspan⟩

theorem PlacedIn.bounds (h : n.PlacedIn index lo hi) (hhi : hi ≤ index.length)
    (hspan : n.span = some span) :
    span = index.span span.start.offset span.stop.offset ∧ lo ≤ span.start.offset ∧
      span.stop.offset ≤ hi ∧
      AllPlacedIn index span.start.offset span.stop.offset n.children := by
  obtain ⟨kind, own, value, url, title, depth, children⟩ := n
  obtain ⟨start, stop, hown, hlo, hstop, hchildren⟩ := h
  obtain rfl : index.span start stop = span := Option.some.inj (hown.symm.trans hspan)
  have hle := hchildren.le
  have hstart' : (index.span start stop).start.offset = start :=
    LineIndex.clamp_of_le (by omega)
  have hstop' : (index.span start stop).stop.offset = stop := LineIndex.clamp_of_le (by omega)
  rw [hstart', hstop']
  exact ⟨rfl, hlo, hstop, hchildren⟩

/-- What is inside a node stands between the node's own offsets. -/
theorem PlacedIn.inside (h : n.PlacedIn index lo hi) (hhi : hi ≤ index.length)
    (hspan : n.span = some span) (hm : m ∈ n.walk) :
    m.PlacedIn index span.start.offset span.stop.offset := by
  obtain ⟨heq, -, -, hchildren⟩ := h.bounds hhi hspan
  obtain ⟨kind, own, value, url, title, depth, children⟩ := n
  have hself : (mk kind own value url title depth children).PlacedIn index span.start.offset
      span.stop.offset :=
    ⟨_, _, hspan.trans (congrArg some heq), Nat.le_refl _, Nat.le_refl _, hchildren⟩
  exact hself.of_mem_walk hm

theorem AllPlacedIn.pairwise (h : AllPlacedIn index lo hi nodes) (hhi : hi ≤ index.length) :
    nodes.Pairwise fun a b =>
      ∀ former ∈ a.span, ∀ latter ∈ b.span, former.stop.offset ≤ latter.start.offset := by
  induction nodes generalizing lo with
  | nil => exact .nil
  | cons n rest ih =>
      obtain ⟨mid, hn, hrest⟩ := h
      refine .cons (fun m hm former hformer latter hlatter => ?_) (ih hrest)
      have hmid : mid ≤ index.length := Nat.le_trans hrest.le hhi
      exact Nat.le_trans (hn.bounds hmid hformer).2.2.1 ((hrest.of_mem hm).bounds hhi hlatter).2.1

theorem PlacedIn.wellPlaced (h : n.PlacedIn index lo hi) (hhi : hi ≤ index.length) :
    n.WellPlaced index := by
  obtain ⟨span, hspan⟩ := h.exists_span
  obtain ⟨heq, -, hstop, hchildren⟩ := h.bounds hhi hspan
  have hlength : span.stop.offset ≤ index.length := Nat.le_trans hstop hhi
  refine ⟨⟨span, hspan, congrArg Span.start heq, congrArg Span.stop heq, hchildren.le, hlength⟩,
    fun outer houter c hc inner hinner => ?_, hchildren.pairwise hlength⟩
  obtain rfl : span = outer := Option.some.inj (hspan.symm.trans houter)
  obtain ⟨-, hlo, hhi, -⟩ := (hchildren.of_mem hc).bounds hlength hinner
  exact ⟨hlo, hhi⟩

end Node

end Continuity.Markdown

namespace Continuity.Markdown

open Text (LineIndex)

/-- There is at least one line, from the line `first` on and before the line `stop`. -/
def LineRange.Within (first stop : Nat) (lines : LineRange) : Prop :=
  first ≤ lines.first ∧ lines.first < lines.stop ∧ lines.stop ≤ stop

instance (first stop : Nat) (lines : LineRange) : Decidable (lines.Within first stop) :=
  inferInstanceAs (Decidable (_ ∧ _ ∧ _))

namespace Block

variable {α : Type}

mutual

/-- The block has its lines from the line `first` on and before the line `stop`, and the blocks
inside it lie one after another in its lines. -/
def Nested (first stop : Nat) : Block α → Prop
  | .paragraph lines _ | .heading lines _ _ | .code lines _ | .html lines _
  | .thematicBreak lines => lines.Within first stop
  | .quote lines children | .list lines children | .item lines children =>
    lines.Within first stop ∧ AllNested lines.first lines.stop children

/-- The blocks lie one after another, from the line `first` on and before the line `stop`. -/
def AllNested (first stop : Nat) : List (Block α) → Prop
  | [] => True
  | b :: rest => b.Nested first stop ∧ AllNested b.lines.stop stop rest

end

mutual

/-- Whether a block is nested can be computed. -/
def decidableNested (first stop : Nat) : (b : Block α) → Decidable (b.Nested first stop)
  | .paragraph lines _ | .heading lines _ _ | .code lines _ | .html lines _
  | .thematicBreak lines => inferInstanceAs (Decidable (lines.Within first stop))
  | .quote lines children | .list lines children | .item lines children =>
    have := decidableAllNested lines.first lines.stop children
    inferInstanceAs (Decidable (lines.Within first stop ∧ AllNested lines.first lines.stop children))

/-- Whether blocks are nested can be computed. -/
def decidableAllNested (first stop : Nat) : (l : List (Block α)) → Decidable (AllNested first stop l)
  | [] => .isTrue trivial
  | b :: rest =>
    have := decidableNested first stop b
    have := decidableAllNested b.lines.stop stop rest
    inferInstanceAs (Decidable (b.Nested first stop ∧ AllNested b.lines.stop stop rest))

end

instance (first stop : Nat) (l : List (Block α)) : Decidable (AllNested first stop l) :=
  decidableAllNested first stop l

theorem Nested.lines {first stop : Nat} {b : Block α} (h : b.Nested first stop) :
    b.lines.Within first stop := by
  cases b with
  | paragraph | heading | code | html | thematicBreak => exact h
  | quote | list | item => exact h.1

end Block

namespace Source

variable {s : Source} {first stop pos found : Nat} {needle : List Char}

/-! ## Searching -/

theorem seek?_bounds {fuel : Nat} (h : s.seek? needle fuel pos = some found) :
    pos ≤ found ∧ found < pos + fuel := by
  induction fuel generalizing pos with
  | zero => cases h
  | succ fuel ih =>
      rw [seek?] at h
      split at h
      · cases h
        omega
      · have := ih h
        omega

theorem find?_bounds (h : s.find? needle pos stop = some found) :
    pos ≤ found ∧ found + needle.length ≤ stop := by
  rw [find?] at h
  split at h
  · cases h
  · have := seek?_bounds h
    omega

theorem parenthesesEnd?_bounds {fuel depth last : Nat}
    (h : s.parenthesesEnd? stop fuel depth pos = some last) : pos ≤ last ∧ last ≤ stop := by
  induction fuel generalizing depth pos with
  | zero => cases h
  | succ fuel ih =>
      rw [parenthesesEnd?] at h
      split at h
      · cases h
      · split at h
        · have := ih h
          omega
        · have := ih h
          omega
        · split at h
          · cases h
            omega
          · have := ih h
            omega
        · have := ih h
          omega

/-! ## The cursor -/

theorem skipNext_bounds (needle : List Char) (h : pos ≤ stop) :
    pos ≤ s.skipNext needle stop pos ∧ s.skipNext needle stop pos ≤ stop := by
  rw [skipNext]
  split
  next hfound =>
    have := find?_bounds hfound
    omega
  next => exact ⟨Nat.le_refl _, h⟩

theorem skipTail_bounds (h : pos ≤ stop) :
    pos ≤ s.skipTail stop pos ∧ s.skipTail stop pos ≤ stop := by
  rw [skipTail]
  split
  next => exact ⟨Nat.le_refl _, h⟩
  next close hclose =>
    have hclosed := find?_bounds hclose
    rw [List.length_singleton] at hclosed
    have hpassed : pos ≤ close + 1 ∧ close + 1 ≤ stop := ⟨Nat.le_succ_of_le hclosed.1, hclosed.2⟩
    dsimp only
    split
    · cases hend : s.parenthesesEnd? stop (stop - (close + 1)) 0 (close + 1) with
      | none => exact hpassed
      | some last =>
          have := parenthesesEnd?_bounds hend
          exact ⟨Nat.le_trans hpassed.1 this.1, this.2⟩
    · split
      next hreference =>
        have := find?_bounds hreference
        rw [List.length_singleton] at this
        exact ⟨by omega, this.2⟩
      next => exact hpassed
    · exact hpassed

theorem skipLinkEnd_bounds (automatic : Bool) (h : pos ≤ stop) :
    pos ≤ (if automatic then s.skipNext ['>'] stop pos else s.skipTail stop pos) ∧
      (if automatic then s.skipNext ['>'] stop pos else s.skipTail stop pos) ≤ stop := by
  split
  · exact skipNext_bounds _ h
  · exact skipTail_bounds h

theorem openAt_bounds (mark : List Char) (h : pos ≤ stop) :
    pos ≤ (s.openAt stop pos mark).1 ∧
      (s.openAt stop pos mark).1 ≤ (s.openAt stop pos mark).2 ∧
      (s.openAt stop pos mark).2 ≤ stop := by
  rw [openAt]
  split
  next hfound =>
    have := find?_bounds hfound
    exact ⟨this.1, Nat.le_add_right _ _, this.2⟩
  next => exact ⟨Nat.le_refl _, Nat.le_refl _, h⟩

/-! ## Content -/

/-- A piece stands between the cursor before it and the cursor after it. -/
def Placed (s : Source) (stop pos : Nat) (r : Node × Nat) : Prop :=
  r.1.PlacedIn s.index pos r.2 ∧ r.2 ≤ stop

theorem placed_leaf (kind : NodeKind) (value : Option String) (needle : List Char)
    (h : pos ≤ stop) : Placed s stop pos (s.placeLeaf stop pos kind value needle) := by
  have hopened := s.openAt_bounds needle h
  exact ⟨⟨_, _, rfl, hopened.1, Nat.le_refl _, hopened.2.1⟩, hopened.2.2⟩

theorem placed_code (mark content : List Char) (h : pos ≤ stop) :
    Placed s stop pos (s.placeCode stop pos mark content) := by
  rw [placeCode]
  split
  next => exact placed_leaf _ _ _ h
  next start hstart =>
    have hopened := find?_bounds hstart
    have hpassed := s.skipNext_bounds content hopened.2
    have hclosed := s.skipNext_bounds mark hpassed.2
    refine ⟨⟨start, _, rfl, hopened.1, Nat.le_refl _, ?_⟩, hclosed.2⟩
    exact Nat.le_trans (Nat.le_add_right _ _) (Nat.le_trans hpassed.1 hclosed.1)

mutual

theorem placed_inline : ∀ (piece : Inline) {pos : Nat}, pos ≤ stop →
    Placed s stop pos (s.placeInline stop pos piece)
  | .text _, _, h | .html _, _, h | .lineBreak, _, h => placed_leaf _ _ _ h
  | .code mark content, _, h => placed_code mark content h
  | .emphasis strong mark children, pos, h => by
      have hopened := s.openAt_bounds (if strong then [mark, mark] else [mark]) h
      obtain ⟨hchildren, hlast⟩ := placed_inlines children hopened.2.2
      have hclosed := s.skipNext_bounds (if strong then [mark, mark] else [mark]) hlast
      exact ⟨⟨_, _, rfl, hopened.1, Nat.le_refl _, hchildren.mono hopened.2.1 hclosed.1⟩, hclosed.2⟩
  | .link automatic url title children, pos, h => by
      have hopened := s.openAt_bounds [if automatic then '<' else '['] h
      obtain ⟨hchildren, hlast⟩ := placed_inlines children hopened.2.2
      have hclosed := s.skipLinkEnd_bounds automatic hlast
      exact ⟨⟨_, _, rfl, hopened.1, Nat.le_refl _, hchildren.mono hopened.2.1 hclosed.1⟩, hclosed.2⟩
  | .image url title description, pos, h => by
      have hopened := s.openAt_bounds ['!', '['] h
      have hclosed := s.skipTail_bounds hopened.2.2
      exact ⟨⟨_, _, rfl, hopened.1, Nat.le_refl _, Nat.le_trans hopened.2.1 hclosed.1⟩, hclosed.2⟩

theorem placed_inlines : ∀ (content : List Inline) {pos : Nat}, pos ≤ stop →
    Node.AllPlacedIn s.index pos (s.placeInlines stop pos content).2
        (s.placeInlines stop pos content).1 ∧
      (s.placeInlines stop pos content).2 ≤ stop
  | [], _, h => ⟨Nat.le_refl _, h⟩
  | piece :: rest, _, h => by
      obtain ⟨hpiece, hnext⟩ := placed_inline piece h
      obtain ⟨hrest, hlast⟩ := placed_inlines rest hnext
      exact ⟨⟨_, hpiece, hrest⟩, hlast⟩

end

/-! ## Blocks -/

theorem skipWhileFor_bounds (accepts : Char → Bool) (src : Array Char) (fuel pos : Nat) :
    pos ≤ skipWhileFor accepts src fuel pos ∧ skipWhileFor accepts src fuel pos ≤ pos + fuel := by
  induction fuel generalizing pos with
  | zero => exact ⟨Nat.le_refl _, Nat.le_refl _⟩
  | succ fuel ih =>
      rw [skipWhileFor]
      split
      · split
        · have := ih (pos + 1)
          omega
        · omega
      · omega

theorem skipWhile_bounds (accepts : Char → Bool) (src : Array Char) (h : pos ≤ stop) :
    pos ≤ skipWhile accepts src pos stop ∧ skipWhile accepts src pos stop ≤ stop := by
  have := skipWhileFor_bounds accepts src (stop - pos) pos
  rw [skipWhile]
  omega

/-- Where a block begins whose first line this is. -/
def blockStart (s : Source) (first : Nat) : Nat :=
  skipWhile isGap s.src (s.index.lineStart (first + 1 : Nat)) (s.index.lineEnd (first + 1))

theorem blockStart_bounds (h : s.index.Ordered) (first : Nat) :
    s.index.lineStart (first + 1 : Nat) ≤ s.blockStart first ∧
      s.blockStart first ≤ s.index.lineEnd (first + 1) :=
  skipWhile_bounds isGap s.src (h.lineStart_le_lineEnd (Nat.lt_succ_self first))

/-- A block begins after the lines before its first line. -/
theorem lineEnd_le_blockStart (h : s.index.Ordered) {k : Nat} (hk : k ≤ first) :
    s.index.lineEnd k ≤ s.blockStart first :=
  Nat.le_trans (h.lineEnd_mono hk)
    (Nat.le_trans (LineIndex.lineEnd_le_lineStart s.index first) (s.blockStart_bounds h first).1)

theorem blockStart_mono (h : s.index.Ordered) {k : Nat} (hk : first ≤ k) :
    s.blockStart first ≤ s.blockStart k := by
  rcases Nat.eq_or_lt_of_le hk with rfl | hk
  · exact Nat.le_refl _
  · exact Nat.le_trans (s.blockStart_bounds h first).2 (lineEnd_le_blockStart h hk)

theorem blockStart_le_lineEnd (h : s.index.Ordered) {k : Nat} (hk : first < k) :
    s.blockStart first ≤ s.index.lineEnd k :=
  Nat.le_trans (s.blockStart_bounds h first).2 (h.lineEnd_mono hk)

theorem blockSpan_eq {lines : LineRange} (h : lines.first < lines.stop) :
    s.blockSpan lines = s.index.span (s.blockStart lines.first) (s.index.lineEnd lines.stop) := by
  rw [blockSpan, Nat.max_eq_left h]
  rfl

theorem placed_content (h : s.index.Ordered) {lines : LineRange} (hlines : lines.first < lines.stop)
    (content : List Inline) :
    Node.AllPlacedIn s.index (s.blockStart lines.first) (s.index.lineEnd lines.stop)
      (s.placeContent (s.blockSpan lines) content) := by
  have hle := blockStart_le_lineEnd h hlines
  have hlength := h.lineEnd_le_length lines.stop
  have hstart : (s.blockSpan lines).start.offset = s.blockStart lines.first := by
    rw [blockSpan_eq hlines]
    exact LineIndex.clamp_of_le (Nat.le_trans hle hlength)
  have hstop : (s.blockSpan lines).stop.offset = s.index.lineEnd lines.stop := by
    rw [blockSpan_eq hlines]
    exact LineIndex.clamp_of_le hlength
  rw [placeContent, hstart, hstop, Nat.max_eq_left hle]
  obtain ⟨hplaced, hlast⟩ := placed_inlines content hle
  exact hplaced.mono (Nat.le_refl _) hlast

/-- A block stands in its lines if what is inside it does. -/
theorem placed_mk {lines : LineRange} (hlines : lines.first < lines.stop) {kind : NodeKind}
    {value url title : Option String} {depth : Option Int} {children : List Node}
    (hchildren : Node.AllPlacedIn s.index (s.blockStart lines.first) (s.index.lineEnd lines.stop)
      children) :
    (Node.mk kind (some (s.blockSpan lines)) value url title depth children).PlacedIn s.index
      (s.blockStart lines.first) (s.index.lineEnd lines.stop) :=
  ⟨_, _, congrArg some (blockSpan_eq hlines), Nat.le_refl _, Nat.le_refl _, hchildren⟩

mutual

theorem placed_block (h : s.index.Ordered) : ∀ {b : Block (List Inline)} {first stop : Nat},
    b.Nested first stop → (s.placeBlock b).PlacedIn s.index (s.blockStart b.lines.first)
      (s.index.lineEnd b.lines.stop)
  | .paragraph _ content, _, _, hb | .heading _ _ content, _, _, hb =>
      placed_mk hb.lines.2.1 (placed_content h hb.lines.2.1 content)
  | .quote .., _, _, hb | .list .., _, _, hb | .item .., _, _, hb =>
      placed_mk hb.lines.2.1 (placed_blocks h hb.2 (blockStart_le_lineEnd h hb.lines.2.1)
        fun _ => blockStart_mono h)
  | .code .., _, _, hb | .html .., _, _, hb | .thematicBreak _, _, _, hb =>
      placed_mk hb.lines.2.1 (blockStart_le_lineEnd h hb.lines.2.1)

theorem placed_blocks (h : s.index.Ordered) : ∀ {blocks : List (Block (List Inline))}
    {first stop lo : Nat}, Block.AllNested first stop blocks → lo ≤ s.index.lineEnd stop →
    (∀ k, first ≤ k → lo ≤ s.blockStart k) →
    Node.AllPlacedIn s.index lo (s.index.lineEnd stop) (s.placeBlocks blocks)
  | [], _, _, _, _, hlo, _ => hlo
  | b :: rest, first, stop, lo, hblocks, _, hstart => by
      -- What follows the block begins after the last line of the block has ended.
      obtain ⟨hb, hrest⟩ := hblocks
      obtain ⟨hfirst, -, hstop⟩ := hb.lines
      refine ⟨s.index.lineEnd b.lines.stop, ?_, ?_⟩
      · exact (placed_block h hb).mono (hstart _ hfirst) (Nat.le_refl _)
      · exact placed_blocks h hrest (h.lineEnd_mono hstop) fun _ => lineEnd_le_blockStart h

end

/-- A document stands in its text. -/
theorem placed_document (h : s.index.Ordered) (hsize : s.src.size = s.index.length)
    {blocks : List (Block (List Inline))} (hblocks : Block.AllNested 0 stop blocks) :
    (s.placeDocument blocks).PlacedIn s.index 0 s.index.length := by
  refine ⟨0, s.index.length, by rw [hsize], Nat.le_refl _, Nat.le_refl _, ?_⟩
  exact (placed_blocks h hblocks (Nat.zero_le _) fun _ _ => Nat.zero_le _).mono (Nat.le_refl _)
    (h.lineEnd_le_length stop)

end Source

/-- Whatever the content of the blocks of a text is, if their lines lie one inside another and one
after another, then every node made of them is well placed. -/
theorem wellPlaced_placeDocument (text : List Char) {blocks : List (Block (List Inline))}
    {stop : Nat} (h : Block.AllNested 0 stop blocks) :
    ∀ n ∈ ((Source.ofText text (.ofText text)).placeDocument blocks).walk,
      n.WellPlaced (.ofText text) := by
  intro n hn
  have hroot := Source.placed_document (s := .ofText text (.ofText text))
    (LineIndex.ordered_ofText text) rfl h
  exact (hroot.of_mem_walk hn).wellPlaced (Nat.le_refl _)

/-- A quotation with a link and emphasis, and a list. -/
def quotation : List Char := "> Ann [met](b.md)\n> *Bob*.\n\n- So.\n".toList

theorem wellPlaced_quotation :
    Block.AllNested 0 4 (parseBlocks quotation) ∧
      ∀ n ∈ (parse quotation).walk, n.WellPlaced (.ofText quotation) := by
  have hnested : Block.AllNested 0 4 (parseBlocks quotation) := by decide +kernel
  exact ⟨hnested, wellPlaced_placeDocument quotation hnested⟩

/-! ## Paragraphs are apart

Inline content holds no paragraphs, and only blocks that are no paragraphs hold other blocks. So no
paragraph of a document is part of another one.
-/

namespace Node

mutual

/-- No paragraph is part of another one, or of what is around the node if `inside` holds. -/
def Apart (inside : Bool) : Node → Prop
  | .mk kind _ _ _ _ _ children => (inside = true → kind ≠ .paragraph) ∧
      AllApart (inside || kind == .paragraph) children

/-- No paragraph among the nodes and inside them is part of another one, or of what is around the
nodes if `inside` holds. -/
def AllApart (inside : Bool) : List Node → Prop
  | [] => True
  | n :: rest => n.Apart inside ∧ AllApart inside rest

end

theorem Apart.of_ne {inside : Bool} {kind : NodeKind} {span : Option Text.Span}
    {value url title : Option String} {depth : Option Int} {children : List Node}
    (hkind : kind ≠ .paragraph) (hchildren : AllApart inside children) :
    (mk kind span value url title depth children).Apart inside := by
  refine ⟨fun _ => hkind, ?_⟩
  rwa [beq_false_of_ne hkind, Bool.or_false]

mutual

theorem Apart.kind_ne : ∀ {n : Node} {quoted : Bool}, n.Apart true →
    ∀ found ∈ n.walkQuoted quoted, found.1.kind ≠ .paragraph
  | .mk .., _, h, found, hfound => by
      rw [walkQuoted] at hfound
      rcases List.mem_cons.1 hfound with rfl | hfound
      · exact h.1 rfl
      · exact AllApart.kind_ne h.2 found hfound

theorem AllApart.kind_ne : ∀ {nodes : List Node} {quoted : Bool}, AllApart true nodes →
    ∀ found ∈ walkQuotedAll quoted nodes, found.1.kind ≠ .paragraph
  | [], _, _, _, hfound => by cases hfound
  | _ :: _, _, h, found, hfound => by
      rw [walkQuotedAll] at hfound
      rcases List.mem_append.1 hfound with hfound | hfound
      · exact Apart.kind_ne h.1 found hfound
      · exact AllApart.kind_ne h.2 found hfound

end

end Node

namespace Source

variable {s : Source} {inside : Bool}

mutual

theorem apart_inline : ∀ (piece : Inline) (stop pos : Nat),
    (s.placeInline stop pos piece).1.Apart inside
  | .text _, _, _ | .html _, _, _ | .lineBreak, _, _ | .image .., _, _ => .of_ne nofun trivial
  | .code mark content, stop, pos => by
      rw [placeInline, placeCode]
      split
      · exact .of_ne nofun trivial
      · exact .of_ne nofun trivial
  | .emphasis strong mark children, _, _ => by
      refine .of_ne ?_ (apart_inlines children _ _)
      split <;> nofun
  | .link _ _ _ children, _, _ => .of_ne nofun (apart_inlines children _ _)

theorem apart_inlines : ∀ (content : List Inline) (stop pos : Nat),
    Node.AllApart inside (s.placeInlines stop pos content).1
  | [], _, _ => trivial
  | piece :: rest, _, _ => ⟨apart_inline piece _ _, apart_inlines rest _ _⟩

end

mutual

theorem apart_block : ∀ b : Block (List Inline), (s.placeBlock b).Apart false
  | .paragraph _ content => ⟨nofun, apart_inlines content _ _⟩
  | .heading _ _ content => ⟨nofun, apart_inlines content _ _⟩
  | .quote _ children | .list _ children | .item _ children => ⟨nofun, apart_blocks children⟩
  | .code .. | .html .. | .thematicBreak _ => ⟨nofun, trivial⟩

theorem apart_blocks : ∀ blocks : List (Block (List Inline)),
    Node.AllApart false (s.placeBlocks blocks)
  | [] => trivial
  | b :: rest => ⟨apart_block b, apart_blocks rest⟩

end

theorem apart_document (blocks : List (Block (List Inline))) :
    (s.placeDocument blocks).Apart false :=
  ⟨nofun, apart_blocks blocks⟩

end Source

end Continuity.Markdown
