import Mathlib.Data.List.Forall2
import Continuity.Proofs.Text.Word

/-! # Texts with something blanked out

A text may stand for another one of the same length from which characters were blanked out. Where
it shows something, that is what the other one has there.
-/

namespace Continuity.Text

/-- A text is another one, but for characters that are blanked out. -/
def Blurred (written source : List Char) : Prop :=
  List.Forall₂ (fun c original => c = ' ' ∨ c = original) written source

variable {written source cs letters : List Char} {start stop offset : Nat}

theorem take_slice_drop (h : start ≤ stop) (cs : List Char) :
    cs.take start ++ slice start stop cs ++ cs.drop stop = cs := by
  have hdrop : cs.drop stop = (cs.drop start).drop (stop - start) := by
    rw [List.drop_drop, Nat.add_sub_cancel' h]
  rw [hdrop, List.append_assoc, slice, List.take_append_drop, List.take_append_drop]

theorem splice_eq (h : start ≤ stop) (new cs : List Char) :
    splice start stop new cs = cs.take start ++ new ++ cs.drop stop := by
  rw [splice, if_neg (by omega), Int.toNat_natCast, Nat.max_eq_right h]

theorem getElem?_splice_slice {source written : List Char} (hle : start ≤ stop)
    (hstop : stop ≤ source.length) (hlength : written.length = source.length) (i : Nat) :
    (splice start stop (slice start stop source) written)[i]? =
      if start ≤ i ∧ i < stop then source[i]? else written[i]? := by
  have hfront : (written.take start).length = start := by
    rw [List.length_take]
    omega
  have hinside : (written.take start ++ slice start stop source).length = stop := by
    rw [List.length_append, hfront, slice, List.length_take, List.length_drop]
    omega
  rw [splice_eq hle]
  rcases Nat.lt_or_ge i stop with hi | hi
  · rw [List.getElem?_append_left (hinside.symm ▸ hi)]
    rcases Nat.lt_or_ge i start with hstart | hstart
    · rw [List.getElem?_append_left (hfront.symm ▸ hstart), List.getElem?_take_of_lt hstart,
        if_neg (by omega)]
    · rw [List.getElem?_append_right (hfront.symm ▸ hstart), hfront, slice,
        List.getElem?_take_of_lt (Nat.sub_lt_sub_right hstart hi), List.getElem?_drop,
        Nat.add_sub_cancel' hstart, if_pos ⟨hstart, hi⟩]
  · rw [List.getElem?_append_right (hinside.symm ▸ hi), hinside, List.getElem?_drop,
      Nat.add_sub_cancel' hi, if_neg (by omega)]

/-! ## What stands in a stretch -/

theorem slice_eq_iff_prefix_drop :
    slice offset (offset + letters.length) cs = letters ↔ letters <+: cs.drop offset := by
  rw [slice, Nat.add_sub_cancel_left, List.prefix_iff_eq_take, eq_comm]

/-- What is not empty is part of a stretch if it stands at an offset from which on it fits. -/
theorem infix_slice_iff (hne : letters ≠ []) : letters <:+: slice start stop cs ↔
    ∃ offset, start ≤ offset ∧ offset + letters.length ≤ stop ∧ letters <+: cs.drop offset := by
  have hpos := List.length_pos_of_ne_nil hne
  constructor
  · rintro ⟨front, back, heq⟩
    have hlength := congrArg List.length heq
    have hdrop := congrArg (List.drop front.length) heq
    rw [slice, List.append_assoc, List.drop_left, List.drop_take, List.drop_drop] at hdrop
    rw [slice, List.length_append, List.length_append, List.length_take] at hlength
    refine ⟨start + front.length, Nat.le_add_right _ _, by omega, ?_⟩
    have hprefix : letters <+: (cs.drop (start + front.length)).take (stop - start - front.length) :=
      hdrop ▸ List.prefix_append _ _
    exact hprefix.trans (List.take_prefix _ _)
  · rintro ⟨offset, hstart, hstop, hletters⟩
    have hprefix : letters <+: slice offset stop cs :=
      List.prefix_take_iff.2 ⟨hletters, Nat.le_sub_of_add_le' hstop⟩
    have hsuffix : slice offset stop cs = (slice start stop cs).drop (offset - start) := by
      rw [slice, slice, List.drop_take, List.drop_drop, Nat.add_sub_cancel' hstart]
      congr 1
      omega
    exact hprefix.isInfix.trans (hsuffix ▸ (List.drop_suffix _ _).isInfix)

/-! ## Blanking out -/

namespace Blurred

theorem replicate (source : List Char) : Blurred (List.replicate source.length ' ') source := by
  refine List.forall₂_iff_zip.2 ⟨List.length_replicate, fun hmem => .inl ?_⟩
  exact List.eq_of_mem_replicate (List.of_mem_zip hmem).1

theorem refl (source : List Char) : Blurred source source :=
  List.forall₂_same.2 fun _ _ => .inr rfl

/-- A stretch of the source may be written over what stands there. -/
theorem splice (h : Blurred written source) (hle : start ≤ stop) :
    Blurred (splice start stop (slice start stop source) written) source := by
  rw [splice_eq hle]
  nth_rewrite 2 [← take_slice_drop hle source]
  exact List.rel_append (List.rel_append (List.forall₂_take start h) (refl _)) (List.forall₂_drop stop h)

/-- What is not blanked out stands in the source. -/
theorem prefix_source {letters : List Char} (h : Blurred written source)
    (hletters : letters <+: written) (hvisible : ∀ c ∈ letters, c ≠ ' ') : letters <+: source := by
  induction h generalizing letters with
  | nil => exact hletters
  | @cons c original written source hc hrest ih =>
      cases letters with
      | nil => exact List.nil_prefix
      | cons a letters =>
          obtain ⟨rfl, hlater⟩ := List.cons_prefix_cons.1 hletters
          obtain ⟨ha, hvisible⟩ := List.forall_mem_cons.1 hvisible
          obtain rfl := hc.resolve_left ha
          exact List.cons_prefix_cons.2 ⟨rfl, ih hlater hvisible⟩

/-- The words of a text stand in what it is made from. -/
theorem standsIn {w : Word} (h : Blurred written (slice offset stop cs)) (hw : w.StandsIn written) :
    Word.StandsIn cs ⟨offset + w.start, w.letters⟩ := by
  refine ⟨?_, hw.nonempty, hw.isWordLetter⟩
  have hvisible : ∀ c ∈ w.letters, c ≠ ' ' := by
    rintro c hc rfl
    exact absurd (hw.isWordLetter _ hc) (by decide +kernel)
  have hprefix := prefix_source (List.forall₂_drop w.start h) hw.letters hvisible
  rw [slice, List.drop_take, List.drop_drop] at hprefix
  exact hprefix.trans (List.take_prefix _ _)

end Blurred

end Continuity.Text
