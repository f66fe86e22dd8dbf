import Continuity.Character.Candidate
import Continuity.Proofs.Markdown.Placement
import Continuity.Proofs.Text.Slice

/-! # Paragraphs and their source

The text of a paragraph is its source, but for what is blanked out. The paragraphs of a document
stand in it one after another, since no paragraph is part of another one.
-/

namespace Continuity.Character.Paragraph

open Markdown (Node)
open Text (slice Blurred Span LineIndex)

variable {content : List Char}

/-! ## The text of a paragraph -/

/-- The text of the paragraph is its source, but for what is blanked out. -/
structure Faithful (content : List Char) (p : Paragraph) : Prop where
  text : Blurred p.text (slice p.offset (p.offset + p.text.length) content)
  sentences : p.sentences = Text.sentences p.text

/-- A run of text inside a stretch leaves what is written there a blurred source. -/
theorem blurred_writeRun {source written : List Char} {first last : Nat} {run : Span}
    (h : Blurred written source) (hfirst : first ≤ run.start.offset)
    (hle : run.start.offset ≤ run.stop.offset) (hlast : run.stop.offset ≤ last) :
    Blurred (writeRun source first last written run) source := by
  have hstop : (run.stop.offset : Int) - first = (run.stop.offset - first : Nat) := by omega
  rw [writeRun, Nat.max_eq_left hfirst, Nat.min_eq_left hlast, hstop]
  exact h.splice (Nat.sub_le_sub_right hle first)

theorem blurred_textOf {node : Node} {span : Span} (hstop : span.stop.offset ≤ content.length)
    (hruns : ∀ run ∈ runsOf node, span.start.offset ≤ run.start.offset ∧
      run.start.offset ≤ run.stop.offset ∧ run.stop.offset ≤ span.stop.offset) :
    Blurred (textOf content span node) (slice span.start.offset span.stop.offset content) := by
  have hlength : (slice span.start.offset span.stop.offset content).length =
      span.stop.offset - span.start.offset := by
    rw [slice, List.length_take, List.length_drop]
    omega
  rw [textOf]
  generalize runsOf node = runs at hruns
  have hwritten := Blurred.replicate (slice span.start.offset span.stop.offset content)
  rw [hlength] at hwritten
  generalize List.replicate _ ' ' = written at hwritten
  induction runs generalizing written with
  | nil => exact hwritten
  | cons run rest ih =>
      obtain ⟨⟨hfirst, hle, hlast⟩, hrest⟩ := List.forall_mem_cons.1 hruns
      exact ih hrest _ (blurred_writeRun hwritten hfirst hle hlast)

theorem runsOf_placed {index : LineIndex} {lo hi : Nat} {node : Node} {span : Span}
    (h : node.PlacedIn index lo hi) (hhi : hi ≤ index.length) (hspan : node.span = some span) :
    ∀ run ∈ runsOf node, span.start.offset ≤ run.start.offset ∧
      run.start.offset ≤ run.stop.offset ∧ run.stop.offset ≤ span.stop.offset := by
  intro run hrun
  obtain ⟨m, hm, hrun⟩ := List.mem_filterMap.1 hrun
  have hinside := h.inside hhi hspan (List.mem_of_mem_filter hm)
  have hlength := Nat.le_trans (h.bounds hhi hspan).2.2.1 hhi
  obtain ⟨-, hfirst, hlast, hchildren⟩ := hinside.bounds hlength hrun
  exact ⟨hfirst, hchildren.le, hlast⟩

variable {index : LineIndex} {lo hi : Nat} {node : Node} {nodes : List Node} {quoted : Bool}
  {p : Paragraph}

/-- The paragraph is a part of the source between two offsets. -/
structure Between (content : List Char) (lo hi : Nat) (p : Paragraph) : Prop
    extends Faithful content p where
  after : lo ≤ p.offset
  before : p.offset + p.text.length ≤ hi

theorem Between.mono {lo' hi' : Nat} (h : p.Between content lo hi) (hlo : lo' ≤ lo)
    (hhi : hi ≤ hi') : p.Between content lo' hi' :=
  ⟨h.toFaithful, Nat.le_trans hlo h.after, Nat.le_trans h.before hhi⟩

/-- A paragraph stands where its node does. -/
theorem between_of_ofNode? (h : node.PlacedIn index lo hi) (hhi : hi ≤ index.length)
    (hlength : content.length = index.length) (hp : ofNode? content node quoted = some p) :
    p.Between content lo hi := by
  rw [ofNode?] at hp
  split at hp
  next span _ hspan =>
    obtain rfl := Option.some.inj hp
    obtain ⟨-, hlo, hstop, hchildren⟩ := h.bounds hhi hspan
    have hinside : span.stop.offset ≤ content.length := by omega
    have htext := blurred_textOf hinside (runsOf_placed h hhi hspan)
    have hle := hchildren.le
    have hlast : span.start.offset + (textOf content span node).length = span.stop.offset := by
      rw [htext.length_eq, slice, List.length_take, List.length_drop]
      omega
    exact ⟨⟨by rwa [hlast], rfl⟩, hlo, hlast ▸ hstop⟩
  next => cases hp

/-! ## The paragraphs of a document -/

/-- The paragraphs stand one after another between two offsets. -/
structure Ordered (content : List Char) (lo hi : Nat) (ps : List Paragraph) : Prop where
  between : ∀ p ∈ ps, p.Between content lo hi
  pairwise : ps.Pairwise fun p q => p.offset + p.text.length ≤ q.offset

theorem Ordered.mono {lo' hi' : Nat} {ps : List Paragraph} (h : Ordered content lo hi ps)
    (hlo : lo' ≤ lo) (hhi : hi ≤ hi') : Ordered content lo' hi' ps :=
  ⟨fun p hp => (h.between p hp).mono hlo hhi, h.pairwise⟩

theorem Ordered.append {mid : Nat} {ps qs : List Paragraph} (hps : Ordered content lo mid ps)
    (hqs : Ordered content mid hi qs) (hlo : lo ≤ mid) (hhi : mid ≤ hi) :
    Ordered content lo hi (ps ++ qs) where
  between p hp := (List.mem_append.1 hp).elim ((hps.mono (Nat.le_refl _) hhi).between p)
    ((hqs.mono hlo (Nat.le_refl _)).between p)
  pairwise := List.pairwise_append.2 ⟨hps.pairwise, hqs.pairwise, fun p hp q hq =>
    Nat.le_trans (hps.between p hp).before (hqs.between q hq).after⟩

theorem ofNode?_of_kind_ne (h : node.kind ≠ .paragraph) : ofNode? content node quoted = none := by
  rw [ofNode?]
  split
  next hkind _ => exact absurd hkind h
  next => rfl

mutual

theorem ordered_walkQuoted (hlength : content.length = index.length) :
    ∀ {node : Node} {lo hi : Nat} (quoted : Bool), node.Apart false → node.PlacedIn index lo hi →
      hi ≤ index.length → Ordered content lo hi
        ((node.walkQuoted quoted).filterMap fun (node, quoted) => ofNode? content node quoted)
  | .mk kind span value url title depth children, lo, hi, quoted, hapart, hplaced, hhi => by
      rw [Node.walkQuoted, List.filterMap_cons]
      -- A paragraph is the only one in its node; any other node has those of the nodes inside it.
      by_cases hkind : kind = .paragraph
      · have hnone : (Node.walkQuotedAll (quoted || kind == .quote) children).filterMap
            (fun (node, quoted) => ofNode? content node quoted) = [] := by
          refine List.filterMap_eq_nil_iff.2 fun found hfound => ofNode?_of_kind_ne ?_
          have hchildren := hapart.2
          rw [hkind] at hchildren
          exact Node.AllApart.kind_ne hchildren found hfound
        rw [hnone]
        split
        next => exact ⟨List.forall_mem_nil _, .nil⟩
        next p hp =>
          have hbetween := between_of_ofNode? hplaced hhi hlength hp
          exact ⟨fun q hq => List.mem_singleton.1 hq ▸ hbetween, List.pairwise_singleton _ _⟩
      · obtain ⟨start, stop, -, hlo, hstop, hchildren⟩ := hplaced
        have hrest := hapart.2
        rw [beq_false_of_ne hkind] at hrest
        have hnone : ofNode? content (.mk kind span value url title depth children) quoted = none :=
          ofNode?_of_kind_ne hkind
        dsimp only
        rw [hnone]
        exact (ordered_walkQuotedAll hlength _ hrest hchildren (Nat.le_trans hstop hhi)).mono hlo
          hstop

theorem ordered_walkQuotedAll (hlength : content.length = index.length) :
    ∀ {nodes : List Node} {lo hi : Nat} (quoted : Bool), Node.AllApart false nodes →
      Node.AllPlacedIn index lo hi nodes → hi ≤ index.length → Ordered content lo hi
        ((Node.walkQuotedAll quoted nodes).filterMap
          fun (node, quoted) => ofNode? content node quoted)
  | [], _, _, _, _, _, _ => ⟨List.forall_mem_nil _, .nil⟩
  | _ :: _, _, _, quoted, hapart, hplaced, hhi => by
      obtain ⟨mid, hnode, hrest⟩ := hplaced
      rw [Node.walkQuotedAll, List.filterMap_append]
      exact (ordered_walkQuoted hlength quoted hapart.1 hnode (Nat.le_trans hrest.le hhi)).append
        (ordered_walkQuotedAll hlength quoted hapart.2 hrest hhi) hnode.le hrest.le

end

/-- The paragraphs of a text stand in it one after another, also where the text was read with
something blanked out. -/
theorem ordered_all {text : List Char} {stop : Nat}
    (hindex : LineIndex.ofText text = LineIndex.ofText content)
    (hblocks : Markdown.Block.AllNested 0 stop (Markdown.parseBlocks text)) :
    Ordered content 0 content.length
      (all content (Markdown.parseWith text (LineIndex.ofText content))) := by
  have hlength : text.length = content.length := congrArg LineIndex.length hindex
  have hplaced : (Markdown.parseWith text (LineIndex.ofText content)).PlacedIn
      (LineIndex.ofText content) 0 content.length :=
    Markdown.Source.placed_document (LineIndex.ordered_ofText content) hlength hblocks
  exact ordered_walkQuoted rfl false (Markdown.Source.apart_document _) hplaced (Nat.le_refl _)

end Continuity.Character.Paragraph
