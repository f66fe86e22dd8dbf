import Continuity.Proofs.Text.Position

/-! # Texts after other lines

A text that stands after some whole lines keeps its own lines: each is found as many lines further
down, and as many characters further on, as those lines take.
-/

namespace Continuity.Text

/-- Lines as a text, with a line feed after each. -/
def unlines (lines : List (List Char)) : List Char := lines.flatMap (· ++ ['\n'])

theorem length_unlines_cons (line : List Char) (lines : List (List Char)) (start : Nat) :
    start + (unlines (line :: lines)).length =
      start + line.length + 1 + (unlines lines).length := by
  simp [unlines]
  omega

theorem unlines_cons (line : List Char) (lines : List (List Char)) :
    unlines (line :: lines) = line ++ '\n' :: unlines lines := by
  simp [unlines]

/-- The place of what stands some lines and characters further on. -/
def Point.after (lines chars : Nat) (p : Point) : Point :=
  ⟨lines + p.line, p.column, chars + p.offset⟩

/-- The stretch of what stands some lines and characters further on. -/
def Span.after (lines chars : Nat) (s : Span) : Span :=
  ⟨s.start.after lines chars, s.stop.after lines chars⟩

variable {front : List (List Char)}

theorem offsetsPastNewlines_add (n offset : Nat) (text : List Char) :
    offsetsPastNewlines (n + offset) text = (offsetsPastNewlines offset text).map (n + ·) := by
  induction text generalizing offset with
  | nil => rfl
  | cons c rest ih =>
      rw [offsetsPastNewlines, offsetsPastNewlines, Nat.add_assoc, ih]
      split <;> rfl

theorem offsetsPastNewlines_line {line : List Char} (h : '\n' ∉ line) (offset : Nat)
    (rest : List Char) : offsetsPastNewlines offset (line ++ '\n' :: rest) =
      (offset + line.length + 1) :: offsetsPastNewlines (offset + line.length + 1) rest := by
  induction line generalizing offset with
  | nil => rfl
  | cons c line ih =>
      have hc : (c == '\n') = false := by
        rw [beq_eq_false_iff_ne]
        exact fun heq => h (heq ▸ List.mem_cons_self)
      rw [List.cons_append, offsetsPastNewlines, hc, List.length_cons]
      rw [if_neg Bool.false_ne_true, ih fun hmem => h (List.mem_cons_of_mem _ hmem)]
      congr 2 <;> omega

namespace LineIndex

theorem locateFrom_add (k n line start offset : Nat) (later : List Nat) :
    locateFrom (k + line) (n + start) (n + offset) (later.map (n + ·)) =
      (k + (locateFrom line start offset later).1, (locateFrom line start offset later).2) := by
  induction later generalizing line start with
  | nil => simp [locateFrom, Nat.add_sub_add_left]
  | cons next later ih =>
      rw [List.map_cons, locateFrom, locateFrom]
      by_cases hnext : next ≤ offset
      · rw [if_pos (Nat.add_le_add_left hnext n), if_pos hnext, Nat.add_assoc, ih]
      · rw [if_neg (by omega), if_neg hnext, Nat.add_sub_add_left]

/-- What lies past some lines is located from where they end. -/
theorem locateFrom_unlines (h : ∀ line ∈ front, '\n' ∉ line) (line start : Nat) {offset : Nat}
    (hoffset : start + (unlines front).length ≤ offset) (text : List Char) :
    locateFrom line start offset (offsetsPastNewlines start (unlines front ++ text)) =
      locateFrom (line + front.length) (start + (unlines front).length) offset
        (offsetsPastNewlines (start + (unlines front).length) text) := by
  induction front generalizing line start with
  | nil => rfl
  | cons first rest ih =>
      obtain ⟨hfirst, hrest⟩ := List.forall_mem_cons.1 h
      rw [length_unlines_cons] at hoffset ⊢
      rw [unlines_cons, List.append_assoc, List.cons_append, offsetsPastNewlines_line hfirst,
        locateFrom, if_pos (by omega), ih hrest _ _ hoffset, List.length_cons, Nat.add_right_comm,
        Nat.add_assoc]

theorem getElem?_starts_unlines (h : ∀ line ∈ front, '\n' ∉ line) (start : Nat)
    (text : List Char) (k : Nat) :
    (start :: offsetsPastNewlines start (unlines front ++ text))[front.length + k]? =
      (((0 :: offsetsPastNewlines 0 text)[k]?).map (start + (unlines front).length + ·)) := by
  induction front generalizing start with
  | nil =>
      rw [unlines, List.flatMap_nil, List.nil_append, List.length_nil, List.length_nil,
        Nat.zero_add, Nat.add_zero, ← List.getElem?_map, List.map_cons, ← offsetsPastNewlines_add]
      rfl
  | cons first rest ih =>
      obtain ⟨hfirst, hrest⟩ := List.forall_mem_cons.1 h
      rw [length_unlines_cons, ← ih hrest, unlines_cons, List.append_assoc, List.cons_append,
        offsetsPastNewlines_line hfirst, List.length_cons, Nat.add_right_comm rest.length,
        List.getElem?_cons_succ]

variable (h : ∀ line ∈ front, '\n' ∉ line) (text : List Char)
include h

theorem starts_after (k : Nat) : (ofText (unlines front ++ text)).starts[front.length + k]? =
    ((ofText text).starts[k]?).map ((unlines front).length + ·) := by
  have hstarts := getElem?_starts_unlines h 0 text k
  rwa [Nat.zero_add] at hstarts

theorem point_after (offset : Nat) :
    (ofText (unlines front ++ text)).point ((unlines front).length + offset : Nat) =
      ((ofText text).point offset).after front.length (unlines front).length := by
  have hclamp : (ofText (unlines front ++ text)).clamp ((unlines front).length + offset : Nat) =
      (unlines front).length + (ofText text).clamp offset := by
    simp only [clamp, ofText, Int.toNat_natCast, List.length_append]
    omega
  have hlocate : (ofText (unlines front ++ text)).locate ((unlines front).length + offset : Nat) =
      (front.length + ((ofText text).locate offset).1, ((ofText text).locate offset).2) := by
    have hpast : 0 + (unlines front).length ≤
        (unlines front).length + (ofText text).clamp offset := by omega
    rw [locate, hclamp]
    refine (locateFrom_unlines h 1 0 hpast text).trans ?_
    rw [Nat.add_comm 1, Nat.zero_add, ← Nat.add_zero (unlines front).length,
      offsetsPastNewlines_add]
    exact locateFrom_add _ _ _ _ _ _
  rw [point, hlocate, hclamp]
  rfl

theorem lineStart_after (k : Nat) :
    (ofText (unlines front ++ text)).lineStart (front.length + (k + 1) : Nat) =
      (unlines front).length + (ofText text).lineStart (k + 1 : Nat) := by
  rw [← Nat.add_assoc, lineStart_succ, lineStart_succ, starts_after h]
  cases (ofText text).starts[k]? with
  | none => exact List.length_append
  | some start => rfl

theorem lineEnd_after (k : Nat) :
    (ofText (unlines front ++ text)).lineEnd (front.length + (k + 1)) =
      (unlines front).length + (ofText text).lineEnd (k + 1) := by
  rw [lineEnd_eq, lineEnd_eq, starts_after h]
  cases hstart : (ofText text).starts[k + 1]? with
  | none => exact List.length_append
  | some start =>
      -- No later line begins where the first one does, so something is taken off its start.
      have hpos : 0 < start := by
        obtain ⟨hlt, rfl⟩ := List.getElem?_eq_some_iff.1 hstart
        exact List.rel_of_pairwise_cons (ordered_ofText text).ascending (List.getElem_mem _)
      exact Nat.add_sub_assoc hpos _

end LineIndex

end Continuity.Text
