import Mathlib.Data.List.DropRight
import Continuity.Text.Position

/-! # Lines of a text

The lines of a text lie one after another: each begins before it ends, and ends before the next one
begins. An offset lies on the last line that begins no later than it. The line and column at which
it is located lead back to it, so the offsets of a text and the places on its lines correspond to
each other, in order.
-/

namespace Continuity.Text

theorem bounds_of_mem_offsetsPastNewlines {offset start : Nat} {text : List Char}
    (h : start ∈ offsetsPastNewlines offset text) :
    offset < start ∧ start ≤ offset + text.length := by
  induction text generalizing offset with
  | nil => cases h
  | cons c rest ih =>
      rw [offsetsPastNewlines] at h
      rw [List.length_cons]
      split at h
      · rcases List.mem_cons.1 h with rfl | h
        · omega
        · have := ih h
          omega
      · have := ih h
        omega

theorem pairwise_offsetsPastNewlines (offset : Nat) (text : List Char) :
    (offsetsPastNewlines offset text).Pairwise (· < ·) := by
  induction text generalizing offset with
  | nil => exact .nil
  | cons c rest ih =>
      rw [offsetsPastNewlines]
      split
      · exact .cons (fun _ h => (bounds_of_mem_offsetsPastNewlines h).1) (ih _)
      · exact ih _

/-- Where lines begin depends on nothing but where line feeds stand. -/
theorem offsetsPastNewlines_congr {offset : Nat} {as bs : List Char}
    (h : as.map (· == '\n') = bs.map (· == '\n')) :
    offsetsPastNewlines offset as = offsetsPastNewlines offset bs := by
  induction as generalizing bs offset with
  | nil => rw [List.map_eq_nil_iff.1 h.symm]
  | cons a as ih =>
      cases bs with
      | nil => cases h
      | cons b bs =>
          obtain ⟨hhead, hrest⟩ := List.cons.inj h
          rw [offsetsPastNewlines, offsetsPastNewlines, ih hrest]
          dsimp only at hhead
          rw [hhead]

namespace LineIndex

theorem ofText_congr {as bs : List Char} (h : as.map (· == '\n') = bs.map (· == '\n')) :
    ofText as = ofText bs := by
  have hlength := congrArg List.length h
  rw [List.length_map, List.length_map] at hlength
  rw [ofText, ofText, offsetsPastNewlines_congr h, hlength]

/-- The lines begin one after another, inside the text. -/
structure Ordered (index : LineIndex) : Prop where
  ascending : index.starts.Pairwise (· < ·)
  bounded : ∀ start ∈ index.starts, start ≤ index.length

theorem ordered_ofText (text : List Char) : (ofText text).Ordered where
  ascending := .cons (fun _ h => (bounds_of_mem_offsetsPastNewlines h).1)
    (pairwise_offsetsPastNewlines 0 text)
  bounded := by
    intro start h
    rcases List.mem_cons.1 h with rfl | h
    · exact Nat.zero_le _
    · rw [← Nat.zero_add (ofText text).length]
      exact (bounds_of_mem_offsetsPastNewlines h).2

variable {index : LineIndex} {j k : Nat}

theorem clamp_of_le {offset : Nat} (h : offset ≤ index.length) : index.clamp offset = offset :=
  Nat.min_eq_left h

theorem le_locateFrom (line start offset : Nat) (later : List Nat) :
    line ≤ (locateFrom line start offset later).1 := by
  induction later generalizing line start with
  | nil => exact Nat.le_refl _
  | cons next later ih =>
      rw [locateFrom]
      split
      · exact Nat.le_of_succ_le (ih (line + 1) next)
      · exact Nat.le_refl _

theorem one_le_line (index : LineIndex) (offset : Int) : 1 ≤ (index.point offset).line :=
  le_locateFrom 1 0 _ _

/-- The lines are counted from one. -/
theorem lineStart_succ (index : LineIndex) (k : Nat) :
    index.lineStart (k + 1 : Nat) = (index.starts[k]?).getD index.length := by
  rw [lineStart]
  split
  next h =>
    have hnone : index.starts.length ≤ k := by
      rw [starts, List.length_cons]
      unfold lineCount at h
      omega
    rw [List.getElem?_eq_none hnone]
    rfl
  next h =>
    have hlt : k < index.starts.length := by
      rw [starts, List.length_cons]
      unfold lineCount at h
      omega
    simp [hlt]

theorem lineEnd_eq (index : LineIndex) (k : Nat) :
    index.lineEnd k = (index.starts[k]?).elim index.length (· - 1) := by
  have hlength : index.starts.length = index.lineCount := rfl
  rw [lineEnd, lineEnd?]
  split
  next h =>
    rw [List.getElem?_eq_none (by omega)]
    rfl
  next h =>
    have hlt : k < index.starts.length := by omega
    rw [if_neg (by omega), if_neg (by omega)]
    simp [hlt]

theorem lineEnd_le_lineStart (index : LineIndex) (k : Nat) :
    index.lineEnd k ≤ index.lineStart (k + 1 : Nat) := by
  rw [lineEnd_eq, lineStart_succ]
  cases index.starts[k]? with
  | none => exact Nat.le_refl _
  | some start => exact Nat.sub_le _ _

namespace Ordered

variable (h : index.Ordered)
include h

theorem lineStart_le_length (k : Nat) : index.lineStart (k + 1 : Nat) ≤ index.length := by
  rw [lineStart_succ]
  cases hstart : index.starts[k]? with
  | none => exact Nat.le_refl _
  | some start => exact h.bounded start (List.mem_of_getElem? hstart)

theorem lineEnd_le_length (k : Nat) : index.lineEnd k ≤ index.length :=
  Nat.le_trans (lineEnd_le_lineStart index k) (h.lineStart_le_length k)

/-- A line begins before it or any later line ends. -/
theorem lineStart_le_lineEnd (hjk : j < k) : index.lineStart (j + 1 : Nat) ≤ index.lineEnd k := by
  rw [lineEnd_eq]
  cases hstop : index.starts[k]? with
  | none => exact h.lineStart_le_length j
  | some stop =>
      obtain ⟨hk, rfl⟩ := List.getElem?_eq_some_iff.1 hstop
      have hj : j < index.starts.length := Nat.lt_trans hjk hk
      have hlt := List.pairwise_iff_getElem.1 h.ascending j k hj hk hjk
      rw [lineStart_succ, List.getElem?_eq_getElem hj]
      exact Nat.le_sub_one_of_lt hlt

theorem lineEnd_mono (hjk : j ≤ k) : index.lineEnd j ≤ index.lineEnd k := by
  rcases Nat.eq_or_lt_of_le hjk with rfl | hjk
  · exact Nat.le_refl _
  · exact Nat.le_trans (lineEnd_le_lineStart index j) (h.lineStart_le_lineEnd hjk)

end Ordered

end LineIndex

/-! ## Line feeds before an offset -/

/-- The offset just past the last line feed of a text, or zero if it has none. -/
def pastLastNewline (text : List Char) : Nat := (text.rdropWhile (· != '\n')).length

theorem offsetsPastNewlines_append (offset : Nat) (front rest : List Char) :
    offsetsPastNewlines offset (front ++ rest) =
      offsetsPastNewlines offset front ++ offsetsPastNewlines (offset + front.length) rest := by
  induction front generalizing offset with
  | nil => rfl
  | cons c front ih =>
      rw [List.cons_append, offsetsPastNewlines, offsetsPastNewlines, ih, List.length_cons,
        Nat.add_assoc, Nat.add_comm 1]
      split <;> rfl

theorem length_offsetsPastNewlines (offset : Nat) (text : List Char) :
    (offsetsPastNewlines offset text).length = text.count '\n' := by
  induction text generalizing offset with
  | nil => rfl
  | cons c rest ih =>
      rw [offsetsPastNewlines, List.count_cons]
      split
      · rw [List.length_cons, ih]
      · rw [ih, Nat.add_zero]

theorem getLastD_offsetsPastNewlines (text : List Char) :
    (offsetsPastNewlines 0 text).getLastD 0 = pastLastNewline text := by
  induction text using List.reverseRecOn with
  | nil => rfl
  | append_singleton front c ih =>
      rw [offsetsPastNewlines_append, pastLastNewline, List.rdropWhile_concat]
      by_cases hc : c = '\n'
      · simp [hc, offsetsPastNewlines]
      · simpa [hc, offsetsPastNewlines, pastLastNewline] using ih

/-- The member of a list at which a front of it ends. -/
theorem getElem?_length_cons_append {α : Type} (a : α) (front rest : List α) :
    (a :: (front ++ rest))[front.length]? = some (front.getLastD a) := by
  induction front generalizing a with
  | nil => rfl
  | cons b front ih =>
      rw [List.length_cons, List.cons_append, List.getElem?_cons_succ, ih, List.getLastD_cons]

namespace LineIndex

/-! ## The line of an offset -/

/-- An offset lies on a line with `k` lines above it: the line begins at `start`, no later than the
offset, and the next one begins later. -/
structure LiesOn (index : LineIndex) (k start offset : Nat) : Prop where
  begins : index.starts[k]? = some start
  start_le : start ≤ offset
  lt_next : ∀ next, index.starts[k + 1]? = some next → offset < next

variable {index : LineIndex} {k k' start start' offset offset' : Nat}

/-- As many line feeds stand before an offset as there are lines above it, and its line begins past
the last of them. -/
theorem liesOn_ofText {text : List Char} (h : offset ≤ text.length) :
    (ofText text).LiesOn ((text.take offset).count '\n') (pastLastNewline (text.take offset))
      offset := by
  have hlength : (text.take offset).length = offset := List.length_take_of_le h
  have hstarts : (ofText text).starts = 0 :: (offsetsPastNewlines 0 (text.take offset) ++
      offsetsPastNewlines offset (text.drop offset)) := by
    have happend := offsetsPastNewlines_append 0 (text.take offset) (text.drop offset)
    rw [List.take_append_drop, Nat.zero_add, hlength] at happend
    rw [starts, ofText, happend]
  have hcount := length_offsetsPastNewlines 0 (text.take offset)
  constructor
  · rw [hstarts, ← hcount, getElem?_length_cons_append, getLastD_offsetsPastNewlines]
  · exact Nat.le_trans (List.rdropWhile_prefix _ _).length_le (Nat.le_of_eq hlength)
  · intro next hnext
    rw [hstarts, ← hcount, List.getElem?_cons_succ, List.getElem?_append_right (Nat.le_refl _)]
      at hnext
    exact (bounds_of_mem_offsetsPastNewlines (List.mem_of_getElem? hnext)).1

theorem locateFrom_eq {line first : Nat} {later : List Nat}
    (hascending : (first :: later).Pairwise (· < ·)) (hbegins : (first :: later)[k]? = some start)
    (hstart : start ≤ offset)
    (hnext : ∀ next, (first :: later)[k + 1]? = some next → offset < next) :
    locateFrom line first offset later = (line + k, offset - start + 1) := by
  induction k generalizing line first later with
  | zero =>
      obtain rfl : first = start := Option.some.inj hbegins
      cases later with
      | nil => rfl
      | cons next later =>
          rw [locateFrom, if_neg (Nat.not_le.2 (hnext next rfl))]
          rfl
  | succ k ih =>
      cases later with
      | nil => cases hbegins
      | cons second later =>
          have hrest := hascending.of_cons
          rw [List.getElem?_cons_succ] at hbegins
          -- The second line begins no later than the one that is looked for.
          have hsecond : second ≤ start := by
            rcases List.mem_cons.1 (List.mem_of_getElem? hbegins) with rfl | hmem
            · exact Nat.le_refl _
            · exact Nat.le_of_lt (List.rel_of_pairwise_cons hrest hmem)
          rw [locateFrom, if_pos (Nat.le_trans hsecond hstart), ih hrest hbegins hnext,
            Nat.add_assoc, Nat.add_comm 1]

theorem LiesOn.lt_lineCount (h : index.LiesOn k start offset) : k < index.lineCount :=
  (List.getElem?_eq_some_iff.1 h.begins).1

theorem LiesOn.lineStart_eq (h : index.LiesOn k start offset) :
    index.lineStart (k + 1 : Nat) = start := by
  rw [lineStart_succ, h.begins]
  rfl

theorem LiesOn.le_lineEnd (h : index.LiesOn k start offset) (hlength : offset ≤ index.length) :
    offset ≤ index.lineEnd (k + 1) := by
  rw [lineEnd_eq]
  cases hnext : index.starts[k + 1]? with
  | none => exact hlength
  | some next => exact Nat.le_sub_one_of_lt (h.lt_next next hnext)

namespace Ordered

variable (h : index.Ordered)
include h

theorem locate_eq (hoffset : offset ≤ index.length) (hline : index.LiesOn k start offset) :
    index.locate offset = (k + 1, offset - start + 1) := by
  rw [locate, clamp_of_le hoffset, Nat.add_comm k]
  exact locateFrom_eq h.ascending hline.begins hline.start_le hline.lt_next

/-- The end of a line that is counted from one is never asked for in vain. -/
theorem lineEnd?_eq {line : Nat} (hline : 1 ≤ line) :
    index.lineEnd? line = some (index.lineEnd line : Int) := by
  have hlength : index.starts.length = index.lineCount := rfl
  rw [lineEnd_eq, lineEnd?]
  split
  next hlast =>
    rw [List.getElem?_eq_none (by omega)]
    rfl
  next hlast =>
    have hlt : line < index.starts.length := by omega
    have hpos : 0 < index.starts[line] :=
      List.pairwise_iff_getElem.1 h.ascending 0 line (Nat.succ_pos _) hlt hline
    rw [if_neg (by omega), if_neg (by omega), Int.toNat_natCast, List.getElem?_eq_getElem hlt]
    exact congrArg some (Int.ofNat_sub hpos).symm

/-- The offsets that lie on a line are those from its start to its end. -/
theorem liesOn_iff (hk : k < index.lineCount) :
    index.LiesOn k (index.lineStart (k + 1 : Nat)) offset ∧ offset ≤ index.length ↔
      index.lineStart (k + 1 : Nat) ≤ offset ∧ offset ≤ index.lineEnd (k + 1) := by
  constructor
  · rintro ⟨hline, hoffset⟩
    exact ⟨hline.start_le, hline.le_lineEnd hoffset⟩
  · rintro ⟨hstart, hend⟩
    have hlt : k < index.starts.length := hk
    refine ⟨⟨?_, hstart, fun next hnext => ?_⟩, Nat.le_trans hend (h.lineEnd_le_length _)⟩
    · rw [lineStart_succ, List.getElem?_eq_getElem hlt]
      rfl
    · rw [lineEnd_eq, hnext] at hend
      have hpos : index.starts[k] < next := by
        obtain ⟨hlt', rfl⟩ := List.getElem?_eq_some_iff.1 hnext
        exact List.pairwise_iff_getElem.1 h.ascending k (k + 1) hlt hlt' (Nat.lt_succ_self k)
      exact Nat.lt_of_le_sub_one (Nat.zero_lt_of_lt hpos) hend

/-- The line of a later offset is the same or a later one. -/
theorem line_mono (hline : index.LiesOn k start offset) (hline' : index.LiesOn k' start' offset')
    (hle : offset ≤ offset') : k ≤ k' := by
  by_contra hlt
  have hlater : k' + 1 ≤ k := Nat.lt_of_not_le hlt
  have hk : k < index.starts.length := hline.lt_lineCount
  have hk' : k' + 1 < index.starts.length := Nat.lt_of_le_of_lt hlater hk
  have hstart : index.starts[k' + 1] ≤ index.starts[k] := by
    rcases Nat.eq_or_lt_of_le hlater with heq | hlater
    · exact Nat.le_of_eq (getElem_congr_idx heq)
    · exact Nat.le_of_lt (List.pairwise_iff_getElem.1 h.ascending _ _ hk' hk hlater)
  have hnext := hline'.lt_next _ (List.getElem?_eq_getElem hk')
  have hbegins := (List.getElem?_eq_some_iff.1 hline.begins).2
  have hbegun := hline.start_le
  omega

theorem locate_lt (hline : index.LiesOn k start offset) (hline' : index.LiesOn k' start' offset')
    (hlt : offset < offset') (hoffset' : offset' ≤ index.length) :
    Prod.Lex (· < ·) (· < ·) (index.locate offset) (index.locate offset') := by
  rw [h.locate_eq (by omega) hline, h.locate_eq hoffset' hline']
  rcases Nat.eq_or_lt_of_le (h.line_mono hline hline' (Nat.le_of_lt hlt)) with rfl | hk
  · obtain rfl : start = start' := Option.some.inj (hline.begins.symm.trans hline'.begins)
    have hstart := hline.start_le
    exact .right _ (by omega)
  · exact .left _ _ (Nat.succ_lt_succ hk)

theorem offsetOf_locate (hoffset : offset ≤ index.length) (hline : index.LiesOn k start offset) :
    index.offsetOf (index.locate offset).1 (index.locate offset).2 = offset := by
  have hstart := hline.start_le
  rw [h.locate_eq hoffset hline, offsetOf, hline.lineStart_eq]
  push_cast
  omega

/-- A place on a line of a text has an offset, which lies on that line. -/
theorem locate_offsetOf {j : Nat} (hk : k < index.lineCount)
    (hj : index.lineStart (k + 1 : Nat) + j ≤ index.lineEnd (k + 1)) :
    index.locate (index.offsetOf (k + 1 : Nat) (j + 1 : Nat)) = (k + 1, j + 1) := by
  obtain ⟨hline, hoffset⟩ := (h.liesOn_iff hk).2 ⟨Nat.le_add_right _ j, hj⟩
  have hoffsetOf : index.offsetOf (k + 1 : Nat) (j + 1 : Nat) =
      (index.lineStart (k + 1 : Nat) + j : Nat) := by
    rw [offsetOf]
    omega
  rw [hoffsetOf, h.locate_eq hoffset hline, Nat.add_sub_cancel_left]

theorem locate_line_eq_iff (hk : k < index.lineCount) (hoffset : offset ≤ index.length)
    (hline : index.LiesOn k' start offset) :
    (index.locate offset).1 = k + 1 ↔
      index.lineStart (k + 1 : Nat) ≤ offset ∧ offset ≤ index.lineEnd (k + 1) := by
  rw [h.locate_eq hoffset hline, ← h.liesOn_iff hk]
  constructor
  · intro heq
    obtain rfl : k' = k := Nat.succ.inj heq
    exact ⟨hline.lineStart_eq.symm ▸ hline, hoffset⟩
  · rintro ⟨hline', -⟩
    have hle := h.line_mono hline hline' (Nat.le_refl _)
    exact congrArg Nat.succ (Nat.le_antisymm hle (h.line_mono hline' hline (Nat.le_refl _)))

end Ordered

/-! ## Offsets and places -/

/-- An offset is located by the line feeds before it. -/
theorem locate_ofText {text : List Char} (h : offset ≤ text.length) :
    (ofText text).locate offset =
      ((text.take offset).count '\n' + 1, offset - pastLastNewline (text.take offset) + 1) :=
  (ordered_ofText text).locate_eq h (liesOn_ofText h)

/-- Offsets of a text and places on its lines correspond to each other. -/
structure Corresponds (index : LineIndex) (text : List Char) : Prop where
  locate_eq : ∀ offset : Nat, offset ≤ text.length →
    index.locate offset =
      ((text.take offset).count '\n' + 1, offset - pastLastNewline (text.take offset) + 1)
  offsetOf_locate : ∀ offset : Nat, offset ≤ text.length →
    index.offsetOf (index.locate offset).1 (index.locate offset).2 = offset
  locate_lt : ∀ offset offset' : Nat, offset < offset' → offset' ≤ text.length →
    Prod.Lex (· < ·) (· < ·) (index.locate offset) (index.locate offset')
  /-- The place past the last character of a line is a place on it. -/
  locate_offsetOf : ∀ line column : Nat, 1 ≤ line → line ≤ index.lineCount → 1 ≤ column →
    index.lineStart line + column ≤ index.lineEnd line + 1 →
    index.locate (index.offsetOf line column) = (line, column)
  locate_before : ∀ offset : Int, offset < 0 →
    index.locate offset = index.locate 0 ∧ (index.point offset).offset = 0
  locate_behind : ∀ offset : Int, text.length < offset →
    index.locate offset = index.locate text.length ∧ (index.point offset).offset = text.length
  offsetOf_inside : ∀ line column : Int, 1 ≤ column →
    0 ≤ index.offsetOf line column ∧ index.offsetOf line column ≤ text.length
  line_le : ∀ offset : Nat, offset ≤ text.length → (index.locate offset).1 ≤ index.lineCount
  lineEnd?_eq : ∀ line : Nat, 1 ≤ line →
    index.lineEnd? line = some (index.lineEnd line : Int)
  /-- The offsets on a line are those from its start to its end. -/
  line_eq_iff : ∀ line offset : Nat, 1 ≤ line → line ≤ index.lineCount → offset ≤ text.length →
    ((index.locate offset).1 = line ↔
      index.lineStart line ≤ offset ∧ offset ≤ index.lineEnd line)

theorem locate_congr {offset offset' : Int} (h : index.clamp offset = index.clamp offset') :
    index.locate offset = index.locate offset' := by
  rw [locate, locate, h]

theorem corresponds_ofText (text : List Char) : (ofText text).Corresponds text where
  locate_eq := fun _ h => locate_ofText h
  offsetOf_locate := fun _ h => (ordered_ofText text).offsetOf_locate h (liesOn_ofText h)
  locate_lt := fun _ _ hlt h =>
    (ordered_ofText text).locate_lt (liesOn_ofText (by omega)) (liesOn_ofText h) hlt h
  locate_offsetOf := by
    intro line column hline hlast hcolumn hend
    obtain ⟨k, rfl⟩ := Nat.exists_eq_add_of_le' hline
    obtain ⟨j, rfl⟩ := Nat.exists_eq_add_of_le' hcolumn
    exact (ordered_ofText text).locate_offsetOf hlast (by omega)
  locate_before := by
    intro offset h
    have hclamp : (ofText text).clamp offset = 0 := by
      rw [clamp]
      omega
    exact ⟨locate_congr (hclamp.trans (Nat.zero_min _).symm), hclamp⟩
  locate_behind := by
    intro offset h
    have hlength : (ofText text).length = text.length := rfl
    have hclamp : (ofText text).clamp offset = text.length := by
      rw [clamp]
      omega
    have hclamp' : (ofText text).clamp text.length = text.length := clamp_of_le (Nat.le_refl _)
    exact ⟨locate_congr (hclamp.trans hclamp'.symm), hclamp⟩
  offsetOf_inside := by
    intro line column hcolumn
    have hlength : (ofText text).length = text.length := rfl
    rw [offsetOf]
    omega
  line_le := by
    intro offset h
    rw [locate_ofText h]
    exact (liesOn_ofText h).lt_lineCount
  lineEnd?_eq := fun _ hline => (ordered_ofText text).lineEnd?_eq hline
  line_eq_iff := by
    intro line offset hline hlast h
    obtain ⟨k, rfl⟩ := Nat.exists_eq_add_of_le' hline
    exact (ordered_ofText text).locate_line_eq_iff hlast h (liesOn_ofText h)

-- The line feed of an empty line stands on that line.
example : (ofText ['a', 'b', '\n', '\n', 'c']).locate 3 = (2, 1) := by decide

end LineIndex

end Continuity.Text
