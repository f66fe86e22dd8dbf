import Mathlib.Data.List.Chain
import Mathlib.Data.List.Induction
import Continuity.Text.Sentence
import Continuity.Proofs.Text.Property
import Continuity.Proofs.Text.Word

/-! # Where sentences and quotations stand

The sentences of a text leave no gaps. They end where a mark is followed by blank space or by the end
of the text, and nowhere else but at the end of the text. The quotations are the stretches from an
opening quote to the next quote that closes them.
-/

namespace Continuity.Text

variable {text cs : List Char} {offset start stop : Nat}

/-! ## Ends of sentences -/

theorem bounds_of_mem_sentenceEnds {ending : Bool} (h : stop ∈ sentenceEnds ending offset cs) :
    offset < stop ∧ stop ≤ offset + cs.length := by
  induction cs generalizing ending offset with
  | nil => cases h
  | cons c rest ih =>
      rw [sentenceEnds] at h
      rw [List.length_cons]
      have hlater (h : stop ∈ sentenceEnds (endsAfter ending c) (offset + 1) rest) :
          offset < stop ∧ stop ≤ offset + (rest.length + 1) := by
        have := ih h
        omega
      split at h
      · rcases List.mem_cons.1 h with rfl | h
        · omega
        · exact hlater h
      · exact hlater h

theorem pairwise_sentenceEnds (ending : Bool) (offset : Nat) (cs : List Char) :
    (sentenceEnds ending offset cs).Pairwise (· < ·) := by
  induction cs generalizing ending offset with
  | nil => exact .nil
  | cons c rest ih =>
      rw [sentenceEnds]
      split
      · exact .cons (fun _ h => (bounds_of_mem_sentenceEnds h).1) (ih _ _)
      · exact ih _ _

/-- A text ends with marks that end a sentence, and quotes or brackets that close after them. -/
def EndsWithMarks (cs : List Char) : Prop :=
  ∃ front marks closers, cs = front ++ marks ++ closers ∧ marks ≠ [] ∧
    (∀ c ∈ marks, isTerminator c = true) ∧ ∀ c ∈ closers, isCloser c = true

theorem endsWithMarks_concat_iff {c : Char} :
    EndsWithMarks (cs ++ [c]) ↔ isTerminator c = true ∨ EndsWithMarks cs ∧ isCloser c = true := by
  constructor
  · rintro ⟨front, marks, closers, heq, hne, hmarks, hclosers⟩
    rcases List.eq_nil_or_concat' closers with rfl | ⟨closers, d, rfl⟩
    · obtain ⟨marks, d, rfl⟩ := (List.eq_nil_or_concat' marks).resolve_left hne
      rw [List.append_nil, ← List.append_assoc] at heq
      obtain ⟨-, hlast⟩ := List.append_inj' heq rfl
      obtain rfl := List.singleton_inj.1 hlast
      exact .inl (hmarks c (by simp))
    · rw [← List.append_assoc] at heq
      obtain ⟨hfront, hlast⟩ := List.append_inj' heq rfl
      obtain rfl := List.singleton_inj.1 hlast
      rw [List.forall_mem_append] at hclosers
      exact .inr ⟨⟨front, marks, closers, hfront, hne, hmarks, hclosers.1⟩, hclosers.2 c (by simp)⟩
  · rintro (hc | ⟨⟨front, marks, closers, rfl, hne, hmarks, hclosers⟩, hc⟩)
    · exact ⟨cs, [c], [], by simp, by simp, by simpa using hc, by simp⟩
    · refine ⟨front, marks, closers ++ [c], by simp, hne, hmarks, ?_⟩
      rw [List.forall_mem_append]
      exact ⟨hclosers, by simpa using hc⟩

/-- Whether a sentence may end is found out character by character. -/
theorem foldl_endsAfter_iff : cs.foldl endsAfter false = true ↔ EndsWithMarks cs := by
  induction cs using List.reverseRecOn with
  | nil => simp [EndsWithMarks]
  | append_singleton cs c ih =>
      rw [List.foldl_concat, endsWithMarks_concat_iff, ← ih, endsAfter, Bool.or_eq_true,
        Bool.and_eq_true]

/-- A sentence ends at an offset with a mark, where blank space or the end of the text follows. -/
structure EndsSentence (text : List Char) (stop : Nat) : Prop where
  marks : EndsWithMarks (text.take stop)
  border : stop = text.length ∨ ∃ c ∈ text[stop]?, isBlank c = true

theorem mem_sentenceEnds_cons {ending : Bool} {c : Char} :
    stop ∈ sentenceEnds ending offset (c :: cs) ↔
      stop = offset + 1 ∧ endsAfter ending c = true ∧ cs.head?.all isBlank = true ∨
        stop ∈ sentenceEnds (endsAfter ending c) (offset + 1) cs := by
  rw [sentenceEnds, ← Bool.and_eq_true]
  split
  next hends => rw [List.mem_cons, hends, eq_self, and_true]
  next hends =>
    rw [iff_or_self]
    rintro ⟨-, h⟩
    exact absurd h hends

/-- The scan finds the offsets after which the characters before may end a sentence and the one
behind is blank. -/
theorem mem_sentenceEnds {ending : Bool} :
    stop ∈ sentenceEnds ending offset cs ↔
      ∃ n, 0 < n ∧ n ≤ cs.length ∧ stop = offset + n ∧
        (cs.take n).foldl endsAfter ending = true ∧ (cs.drop n).head?.all isBlank = true := by
  induction cs generalizing ending offset with
  | nil =>
      rw [sentenceEnds]
      constructor
      · intro h
        cases h
      · rintro ⟨n, hpos, hle, -⟩
        exact absurd hpos (Nat.not_lt.2 hle)
  | cons c rest ih =>
      rw [mem_sentenceEnds_cons, ih]
      constructor
      · rintro (⟨rfl, hends, hblank⟩ | ⟨n, hpos, hle, rfl, hends, hblank⟩)
        · exact ⟨1, Nat.one_pos, by simp, rfl, hends, hblank⟩
        · exact ⟨n + 1, by omega, by simpa using hle, by omega, hends, hblank⟩
      · rintro ⟨n, hpos, hle, rfl, hends, hblank⟩
        rcases n with _ | _ | n
        · cases hpos
        · exact .inl ⟨rfl, hends, hblank⟩
        · exact .inr ⟨n + 1, Nat.succ_pos n, Nat.le_of_succ_le_succ hle, by omega, hends, hblank⟩

theorem mem_sentenceEnds_iff : stop ∈ sentenceEnds false 0 text ↔ EndsSentence text stop := by
  rw [mem_sentenceEnds]
  constructor
  · rintro ⟨n, -, hle, hstop, hends, hblank⟩
    rw [Nat.zero_add] at hstop
    subst hstop
    refine ⟨foldl_endsAfter_iff.1 hends, ?_⟩
    rw [List.head?_drop] at hblank
    rcases Nat.lt_or_eq_of_le hle with hlt | heq
    · rw [List.getElem?_eq_getElem hlt] at hblank
      exact .inr ⟨_, List.getElem?_eq_getElem hlt, hblank⟩
    · exact .inl heq
  · rintro ⟨hmarks, hborder⟩
    refine ⟨stop, ?_, ?_, (Nat.zero_add stop).symm, foldl_endsAfter_iff.2 hmarks, ?_⟩
    · rw [Nat.pos_iff_ne_zero]
      rintro rfl
      have hnone : EndsWithMarks [] := hmarks
      cases foldl_endsAfter_iff.2 hnone
    · rcases hborder with rfl | ⟨c, hc, -⟩
      · exact Nat.le_refl _
      · exact Nat.le_of_lt (List.getElem?_eq_some_iff.1 hc).1
    · rw [List.head?_drop]
      rcases hborder with rfl | ⟨c, hc, hblank⟩
      · rw [List.getElem?_length, Option.all_none]
      · rw [Option.mem_def.1 hc]
        exact hblank

/-! ## Stretches -/

@[simp] theorem map_snd_stretches (start : Nat) (ends : List Nat) :
    (stretches start ends).map (·.2) = ends := by
  induction ends generalizing start with
  | nil => rfl
  | cons stop rest ih => rw [stretches, List.map_cons, ih]

theorem fst_of_mem_head?_stretches {ends : List Nat} {s : Nat × Nat}
    (h : s ∈ (stretches start ends).head?) : s.1 = start := by
  cases ends with
  | nil => cases h
  | cons stop rest =>
      obtain rfl := Option.mem_some.1 h
      rfl

/-- Each stretch begins where the one before it ends. -/
theorem isChain_stretches (start : Nat) (ends : List Nat) :
    (stretches start ends).IsChain fun a b => b.1 = a.2 := by
  induction ends generalizing start with
  | nil => exact .nil
  | cons stop rest ih =>
      refine List.isChain_cons.2 ⟨?_, ih stop⟩
      intro s hs
      exact fst_of_mem_head?_stretches hs

theorem lt_of_mem_stretches {ends : List Nat} (h : (start :: ends).Pairwise (· < ·)) :
    ∀ s ∈ stretches start ends, s.1 < s.2 := by
  induction ends generalizing start with
  | nil => exact List.forall_mem_nil _
  | cons stop rest ih =>
      obtain ⟨hstart, hrest⟩ := List.pairwise_cons.1 h
      exact List.forall_mem_cons.2 ⟨hstart stop List.mem_cons_self, ih hrest⟩

theorem pairwise_stretches {ends : List Nat} (h : (start :: ends).Pairwise (· ≤ ·)) :
    (stretches start ends).Pairwise (fun a b => a.2 ≤ b.1) ∧
      ∀ s ∈ stretches start ends, start ≤ s.1 := by
  induction ends generalizing start with
  | nil => exact ⟨.nil, List.forall_mem_nil _⟩
  | cons stop rest ih =>
      obtain ⟨hstart, hrest⟩ := List.pairwise_cons.1 h
      obtain ⟨hpairwise, hafter⟩ := ih hrest
      have hle := hstart stop List.mem_cons_self
      exact ⟨.cons hafter hpairwise, List.forall_mem_cons.2
        ⟨Nat.le_refl _, fun s hs => Nat.le_trans hle (hafter s hs)⟩⟩

/-! ## Sentences -/

/-- Sentences follow one another. -/
theorem pairwise_sentences (text : List Char) :
    (sentences text).Pairwise fun a b => a.2 ≤ b.1 := by
  have hends : (0 :: sentenceEnds false 0 text).Pairwise (· ≤ ·) :=
    .cons (fun _ _ => Nat.zero_le _) ((pairwise_sentenceEnds false 0 text).imp Nat.le_of_lt)
  rw [sentences]
  split
  · exact (pairwise_stretches hends).1
  · refine (pairwise_stretches (List.pairwise_append.2 ⟨hends, List.pairwise_singleton _ _, ?_⟩)).1
    intro stop hstop last hlast
    obtain rfl := List.mem_singleton.1 hlast
    rcases List.mem_cons.1 hstop with rfl | hstop
    · exact Nat.zero_le _
    · exact (Nat.zero_add text.length) ▸ (bounds_of_mem_sentenceEnds hstop).2

theorem endsSentence_or_of_mem_sentences {s : Nat × Nat} (h : s ∈ sentences text) :
    EndsSentence text s.2 ∨ s.2 = text.length := by
  have hstop : s.2 ∈ (sentences text).map (·.2) := List.mem_map_of_mem h
  rw [sentences, map_snd_stretches] at hstop
  split at hstop
  · exact .inl (mem_sentenceEnds_iff.1 hstop)
  · rcases List.mem_append.1 hstop with hmark | hlast
    · exact .inl (mem_sentenceEnds_iff.1 hmark)
    · exact .inr (List.mem_singleton.1 hlast)

/-- No word goes on beyond the sentence in which it begins. -/
theorem not_letterAt_of_mem_sentences {s : Nat × Nat} (h : s ∈ sentences text) :
    ¬LetterAt text s.2 := by
  rintro ⟨c, hc, hletter⟩
  have hlt : s.2 < text.length := (List.getElem?_eq_some_iff.1 hc).1
  rcases endsSentence_or_of_mem_sentences h with ⟨-, hlast | ⟨d, hd, hblank⟩⟩ | hlast
  · omega
  · obtain rfl := Option.some.inj (hc.symm.trans hd)
    rw [isWordLetter, Bool.and_eq_true, Bool.and_eq_true] at hletter
    rw [isBlank_of_isWord hletter.1.1] at hblank
    cases hblank
  · omega

/-- No letter follows a word of a sentence. -/
theorem not_letterAt_stop_of_mem_sentences {s : Nat × Nat} {w : Word} (hs : s ∈ sentences text)
    (hw : w ∈ wordsBetween s.1 s.2 text) : ¬LetterAt text w.stop := by
  obtain ⟨-, -, hhi, -, hafter⟩ := mem_wordsBetween_iff.1 hw
  rcases Nat.lt_or_eq_of_le hhi with hlt | heq
  · exact hafter hlt
  · rw [heq]
    exact not_letterAt_of_mem_sentences hs

/-- Where the last of some stretches ends. -/
def lastStop (stretches : List (Nat × Nat)) : Nat := (stretches.map (·.2)).getLastD 0

theorem lastStop_filter {s : List (Nat × Nat)} :
    lastStop (s.filter (·.2 < stop)) = ((s.map (·.2)).filter (· < stop)).getLastD 0 := by
  rw [lastStop, List.filter_map]
  rfl

/-- Sentences as stretches of a text that leave no gaps. All but blank space is part of one, and
only the last one may end without a mark. -/
structure IsSentencePartition (text : List Char) (sentences : List (Nat × Nat)) : Prop where
  nonempty : ∀ s ∈ sentences, s.1 < s.2
  first : ∀ s ∈ sentences.head?, s.1 = 0
  adjacent : sentences.IsChain fun a b => b.1 = a.2
  rest : ∀ c ∈ text.drop (lastStop sentences), isBlank c = true
  stops : ∀ stop, (∃ start, (start, stop) ∈ sentences) ↔ EndsSentence text stop ∨
    stop = text.length ∧
      ∃ c ∈ text.drop (lastStop (sentences.filter (·.2 < stop))), isBlank c = false

theorem isSentencePartition_stretches {ends : List Nat} (hsorted : (0 :: ends).Pairwise (· < ·))
    (hrest : ∀ c ∈ text.drop (ends.getLastD 0), isBlank c = true)
    (hstops : ∀ stop, stop ∈ ends ↔ EndsSentence text stop ∨ stop = text.length ∧
      ∃ c ∈ text.drop ((ends.filter (· < stop)).getLastD 0), isBlank c = false) :
    IsSentencePartition text (stretches 0 ends) where
  nonempty := lt_of_mem_stretches hsorted
  first _ hs := fst_of_mem_head?_stretches hs
  adjacent := isChain_stretches 0 ends
  rest := by
    rw [lastStop, map_snd_stretches]
    exact hrest
  stops stop := by
    have hmem : (∃ start, (start, stop) ∈ stretches 0 ends) ↔ stop ∈ ends := by
      nth_rewrite 2 [← map_snd_stretches 0 ends]
      rw [List.mem_map, Prod.exists]
      simp only [exists_eq_right]
    rw [hmem, lastStop_filter, map_snd_stretches]
    exact hstops stop

theorem le_getLastD {ends : List Nat} (h : ends.Pairwise (· < ·)) (hstop : stop ∈ ends) :
    stop ≤ ends.getLastD 0 := by
  rcases List.eq_nil_or_concat' ends with rfl | ⟨front, last, rfl⟩
  · cases hstop
  · rw [List.getLastD_concat]
    rcases List.mem_append.1 hstop with hfront | hlast
    · exact Nat.le_of_lt ((List.pairwise_append.1 h).2.2 stop hfront last (by simp))
    · exact Nat.le_of_eq (List.mem_singleton.1 hlast)

theorem filter_lt_eq_self {ends : List Nat} {length : Nat} (h : ∀ stop ∈ ends, stop < length) :
    ends.filter (· < length) = ends :=
  List.filter_eq_self.2 fun stop hstop => decide_eq_true (h stop hstop)

/-- The sentences of a text leave no gaps: each begins where the one before it ends, and only blank
space is left over. They end at marks, and at the end of the text if there is more than blank space
after the sentence before. -/
theorem sentences_partition (text : List Char) : IsSentencePartition text (sentences text) := by
  have hbounds {stop : Nat} (h : stop ∈ sentenceEnds false 0 text) :
      0 < stop ∧ stop ≤ text.length := by
    simpa using bounds_of_mem_sentenceEnds h
  have hsorted := pairwise_sentenceEnds false 0 text
  have hmem (stop : Nat) : stop ∈ sentenceEnds false 0 text ↔ EndsSentence text stop :=
    mem_sentenceEnds_iff
  rw [sentences]
  generalize sentenceEnds false 0 text = ends at *
  have hpositive : (0 :: ends).Pairwise (· < ·) := .cons (fun _ h => (hbounds h).1) hsorted
  split
  next hblank =>
    rw [List.all_eq_true] at hblank
    refine isSentencePartition_stretches hpositive hblank fun stop => ?_
    rw [hmem, iff_self_or]
    rintro ⟨rfl, c, hc, hvisible⟩
    rw [← hmem]
    by_contra hnot
    -- Were the end of the text no such end, the last one before it would be the last of all.
    have hbefore : ∀ stop ∈ ends, stop < text.length := fun stop hstop =>
      Nat.lt_of_le_of_ne (hbounds hstop).2 (fun heq => hnot (heq ▸ hstop))
    rw [filter_lt_eq_self hbefore] at hc
    rw [hblank c hc] at hvisible
    cases hvisible
  next hblank =>
    obtain ⟨c, hc, hvisible⟩ : ∃ c ∈ text.drop (ends.getLastD 0), isBlank c = false := by
      simpa using hblank
    have hlast : ends.getLastD 0 < text.length := by
      by_contra hle
      rw [List.drop_eq_nil_of_le (Nat.le_of_not_lt hle)] at hc
      cases hc
    have hbefore : ∀ stop ∈ ends, stop < text.length := fun stop hstop =>
      Nat.lt_of_le_of_lt (le_getLastD hsorted hstop) hlast
    refine isSentencePartition_stretches ?_ ?_ fun stop => ?_
    · refine List.pairwise_append.2 ⟨hpositive, List.pairwise_singleton _ _, ?_⟩
      intro stop hstop last hmem
      obtain rfl := List.mem_singleton.1 hmem
      rcases List.mem_cons.1 hstop with rfl | hstop
      · omega
      · exact hbefore stop hstop
    · rw [List.getLastD_concat, List.drop_length]
      exact List.forall_mem_nil _
    · rw [List.mem_append, List.mem_singleton, hmem, or_congr_right]
      rw [iff_self_and]
      rintro rfl
      refine ⟨c, ?_, hvisible⟩
      rwa [List.filter_append, filter_lt_eq_self hbefore, List.filter_cons_of_neg (by simp),
        List.filter_nil, List.append_nil]

/-! ## Quotations -/

/-- From `start` on there is a mark that can open a quotation, and no other quote up to `stop`. -/
structure OpensUpTo (text : List Char) (start stop : Nat) : Prop where
  lt : start < stop
  opens : ∃ c ∈ text[start]?, opensQuotation c = true
  inside : ∀ i, start < i → i < stop →
    ∀ c ∈ text[i]?, opensQuotation c = false ∧ closesQuotation c = false

/-- A quotation runs from a mark that can open it to the next quote, which must be able to close
it. The mark that opens it closes no other quotation. -/
def IsQuotation (text : List Char) (start stop : Nat) : Prop :=
  (∃ last, stop = last + 1 ∧ OpensUpTo text start last ∧
    ∃ c ∈ text[last]?, closesQuotation c = true) ∧
  ∀ earlier, earlier < start → ¬IsQuotation text earlier (start + 1)
termination_by start

/-- A quotation has been opened at `start`, and up to `stop` it has not been closed. -/
structure IsOpen (text : List Char) (start stop : Nat) : Prop extends OpensUpTo text start stop where
  fresh : ∀ earlier, ¬IsQuotation text earlier (start + 1)

theorem IsQuotation.lt (h : IsQuotation text start stop) : start + 1 < stop := by
  rw [IsQuotation] at h
  obtain ⟨⟨last, rfl, hopens, -⟩, -⟩ := h
  exact Nat.succ_lt_succ hopens.lt

theorem isQuotation_iff : IsQuotation text start (stop + 1) ↔
    IsOpen text start stop ∧ ∃ c ∈ text[stop]?, closesQuotation c = true := by
  rw [IsQuotation]
  constructor
  · rintro ⟨⟨last, hlast, hopens, hcloses⟩, hfresh⟩
    obtain rfl := Nat.succ.inj hlast
    refine ⟨⟨hopens, fun earlier h => hfresh earlier ?_ h⟩, hcloses⟩
    exact Nat.lt_of_succ_lt_succ h.lt
  · rintro ⟨⟨hopens, hfresh⟩, hcloses⟩
    exact ⟨⟨stop, rfl, hopens, hcloses⟩, fun earlier _ => hfresh earlier⟩

/-- At the next character what is open stays so unless there is a quote, and a mark opens a
quotation if it closes none. -/
theorem isOpen_succ_iff {c : Char} (hc : text[stop]? = some c) (start : Nat) :
    IsOpen text start (stop + 1) ↔
      IsOpen text start stop ∧ opensQuotation c = false ∧ closesQuotation c = false ∨
        start = stop ∧ opensQuotation c = true ∧
          ∀ earlier, ¬IsQuotation text earlier (stop + 1) := by
  constructor
  · rintro ⟨⟨hlt, hopens, hinside⟩, hfresh⟩
    rcases Nat.lt_or_eq_of_le (Nat.le_of_lt_succ hlt) with hbefore | rfl
    · refine .inl ⟨⟨⟨hbefore, hopens, fun i hi hstop => ?_⟩, hfresh⟩, ?_⟩
      · exact hinside i hi (Nat.lt_succ_of_lt hstop)
      · exact hinside stop hbefore (Nat.lt_succ_self stop) c hc
    · obtain ⟨c', hc', hopens⟩ := hopens
      obtain rfl := Option.some.inj (hc.symm.trans hc')
      exact .inr ⟨rfl, hopens, hfresh⟩
  · rintro (⟨⟨⟨hlt, hopens, hinside⟩, hfresh⟩, hquiet⟩ | ⟨rfl, hopens, hfresh⟩)
    · refine ⟨⟨Nat.lt_succ_of_lt hlt, hopens, fun i hi hstop => ?_⟩, hfresh⟩
      rcases Nat.lt_or_eq_of_le (Nat.le_of_lt_succ hstop) with hbefore | rfl
      · exact hinside i hi hbefore
      · intro c' hc'
        obtain rfl := Option.some.inj (hc.symm.trans hc')
        exact hquiet
    · exact ⟨⟨Nat.lt_succ_self _, ⟨c, hc, hopens⟩, fun i hi hstop => by omega⟩, hfresh⟩

theorem IsQuotation.stop_le_length (h : IsQuotation text start stop) : stop ≤ text.length := by
  rw [IsQuotation] at h
  obtain ⟨⟨last, rfl, -, c, hc, -⟩, -⟩ := h
  exact (List.getElem?_eq_some_iff.1 hc).1

/-- The scan finds the quotations that are closed from an offset on, if it knows which one is open
there. -/
theorem mem_quotationsFrom {opened : Option Nat} (hcs : cs = text.drop offset)
    (hopened : ∀ start, IsOpen text start offset ↔ opened = some start) :
    (start, stop) ∈ quotationsFrom opened offset cs ↔
      IsQuotation text start stop ∧ offset < stop := by
  induction cs generalizing opened offset with
  | nil =>
      have hlength : text.length ≤ offset := List.drop_eq_nil_iff.1 hcs.symm
      rw [quotationsFrom]
      constructor
      · intro h
        cases h
      · rintro ⟨h, hlt⟩
        exact absurd (Nat.lt_of_lt_of_le hlt h.stop_le_length) (Nat.not_lt.2 hlength)
  | cons c rest ih =>
      have hc : text[offset]? = some c := by
        rw [← List.head?_drop, ← hcs, List.head?_cons]
      have hrest : rest = text.drop (offset + 1) := by
        rw [← List.tail_drop, ← hcs, List.tail_cons]
      have hclosed (start : Nat) : IsQuotation text start (offset + 1) ↔
          opened = some start ∧ closesQuotation c = true := by
        rw [isQuotation_iff, hopened, hc]
        simp
      have hnext (start : Nat) := isOpen_succ_iff hc start
      simp only [hopened, hclosed] at hnext
      -- What is closed later is closed by this character or after it.
      have hlater : IsQuotation text start stop ∧ offset < stop ↔
          (opened = some start ∧ closesQuotation c = true) ∧ stop = offset + 1 ∨
            IsQuotation text start stop ∧ offset + 1 < stop := by
        rw [← hclosed]
        constructor
        · rintro ⟨h, hlt⟩
          rcases Nat.lt_or_eq_of_le (Nat.succ_le_of_lt hlt) with hlt | rfl
          · exact .inr ⟨h, hlt⟩
          · exact .inl ⟨h, rfl⟩
        · rintro (⟨h, rfl⟩ | ⟨h, hlt⟩)
          · exact ⟨h, Nat.lt_succ_self _⟩
          · exact ⟨h, Nat.lt_of_succ_lt hlt⟩
      rw [hlater]
      cases opened with
      | none =>
          rw [quotationsFrom, ih hrest]
          · simp
          · intro s
            rw [hnext]
            by_cases hopens : opensQuotation c = true
            · simpa [hopens] using eq_comm
            · simp [hopens]
      | some first =>
          rw [quotationsFrom]
          split
          next hcloses =>
            rw [List.mem_cons, ih hrest]
            · simp [hcloses, eq_comm (a := first)]
            · intro s
              simp [hnext, hcloses]
          next hcloses =>
            rw [ih hrest]
            · simp [hcloses]
            · intro s
              rw [hnext]
              by_cases hopens : opensQuotation c = true
              · simpa [hopens, hcloses] using eq_comm
              · simp [hopens, hcloses]

/-- The quotations of a text are found, and nothing else. -/
theorem mem_quotations : (start, stop) ∈ quotations text ↔ IsQuotation text start stop := by
  rw [quotations, mem_quotationsFrom List.drop_zero.symm]
  · exact and_iff_left_of_imp fun h => Nat.lt_of_le_of_lt (Nat.zero_le _) h.lt
  · intro s
    constructor
    · intro h
      exact absurd h.lt (Nat.not_lt_zero s)
    · intro h
      cases h

theorem liesIn_quotations_iff : liesIn (quotations text) offset = true ↔
    ∃ start stop, IsQuotation text start stop ∧ start ≤ offset ∧ offset < stop := by
  simp [liesIn, mem_quotations]

end Continuity.Text
