import Continuity.Markdown.Inline.Parser
import Continuity.Proofs.Text.Property
import Continuity.Proofs.Web.Percent

/-! # Reading plain content

What stands at a position is read as it is written where nothing in it begins or ends a construct:
runs of plain characters, and the label, destination and title of a link.
-/

namespace Continuity.Markdown

open Text (graphic_of_isLetter isLetter ne_of_isLetter)
open Web (Url)

variable {src : Array Char} {pos stop fuel : Nat} {c : Char} {cs run rest word title : List Char}

/-! ## What stands at a position -/

/-- The source from a position on. -/
def Stands (src : Array Char) (pos : Nat) (cs : List Char) : Prop := src.toList.drop pos = cs

namespace Stands

theorem head?_eq (h : Stands src pos cs) : src[pos]? = cs.head? := by
  have hhead := congrArg List.head? h
  rwa [List.head?_drop, Array.getElem?_toList] at hhead

theorem add (h : Stands src pos (run ++ rest)) : Stands src (pos + run.length) rest := by
  rw [Stands, ← List.drop_drop, h, List.drop_left]

theorem succ (h : Stands src pos (c :: rest)) : Stands src (pos + 1) rest :=
  have h : Stands src pos ([c] ++ rest) := h
  h.add

theorem of_eq (h : Stands src pos cs) {pos' : Nat} (heq : pos = pos') : Stands src pos' cs :=
  heq ▸ h

theorem slice_eq (h : Stands src pos (run ++ rest)) : slice src pos (pos + run.length) = run := by
  rw [slice, Array.toList_extract, List.extract_eq_take_drop, h, Nat.add_sub_cancel_left,
    List.take_left]

theorem skipWhileFor_eq {accepts : Char → Bool} (h : Stands src pos (run ++ rest))
    (hrun : ∀ c ∈ run, accepts c = true) (hrest : ∀ c ∈ rest.head?, accepts c = false)
    (hfuel : run.length ≤ fuel) : skipWhileFor accepts src fuel pos = pos + run.length := by
  induction run generalizing pos fuel with
  | nil =>
      cases fuel with
      | zero => rfl
      | succ fuel =>
          have hhead : src[pos]? = rest.head? := h.head?_eq
          rw [skipWhileFor, hhead]
          cases hnext : rest.head? with
          | none => rfl
          | some c => exact if_neg (by rw [hrest c hnext]; exact Bool.false_ne_true)
  | cons c run ih =>
      rw [List.length_cons] at hfuel ⊢
      obtain ⟨fuel, rfl⟩ := Nat.exists_eq_add_one.2 (Nat.lt_of_lt_of_le (Nat.succ_pos _) hfuel)
      rw [List.forall_mem_cons] at hrun
      rw [skipWhileFor, h.head?_eq, List.cons_append, List.head?_cons]
      dsimp only
      rw [if_pos hrun.1, ih h.succ hrun.2 (Nat.le_of_succ_le_succ hfuel)]
      omega

/-- A run of accepted characters is skipped. -/
theorem skipWhile_eq {accepts : Char → Bool} (h : Stands src pos (run ++ rest))
    (hrun : ∀ c ∈ run, accepts c = true) (hrest : ∀ c ∈ rest.head?, accepts c = false)
    (hstop : pos + run.length ≤ stop) : skipWhile accepts src pos stop = pos + run.length :=
  h.skipWhileFor_eq hrun hrest (Nat.le_sub_of_add_le' hstop)

theorem skipWhile_eq_self {accepts : Char → Bool} (h : Stands src pos (c :: rest))
    (hc : accepts c = false) (stop : Nat) : skipWhile accepts src pos stop = pos := by
  rw [skipWhile]
  cases stop - pos with
  | zero => rfl
  | succ fuel =>
      rw [skipWhileFor, h.head?_eq, List.head?_cons]
      exact if_neg (by rw [hc]; exact Bool.false_ne_true)

end Stands

/-! ## The parts of a link -/

/-- A text without escapes and references stands for itself. -/
theorem unescape_eq_self (h : ∀ c ∈ cs, c ≠ '\\' ∧ c ≠ '&') : unescape cs = cs := by
  rw [unescape]
  induction cs with
  | nil => rfl
  | cons c rest ih =>
      rw [List.forall_mem_cons] at h
      rw [unescapeFrom, ih h.2]
      · exact h.1.2
      · exact fun _ _ heq _ => h.1.1 heq

theorem bareEnd?_word (h : Stands src pos (word ++ ' ' :: rest))
    (hword : ∀ c ∈ word, isLetter c = true) (hfuel : word.length ≤ fuel)
    (hstop : pos + word.length < stop) :
    bareEnd? src stop fuel 0 pos = some (pos + word.length) := by
  induction word generalizing pos fuel with
  | nil =>
      cases fuel with
      | zero => rfl
      | succ fuel =>
          have hspace : src[pos]? = some ' ' := h.head?_eq
          have hbefore : ¬stop ≤ pos := Nat.not_le_of_lt hstop
          rw [bareEnd?, if_neg hbefore, hspace]
          rfl
  | cons c word ih =>
      rw [List.length_cons] at hfuel hstop ⊢
      obtain ⟨fuel, rfl⟩ := Nat.exists_eq_add_one.2 (Nat.lt_of_lt_of_le (Nat.succ_pos _) hfuel)
      rw [List.forall_mem_cons] at hword
      have hhead : src[pos]? = some c := h.head?_eq
      have hgraphic := graphic_of_isLetter hword.1
      have hescape := ne_of_isLetter hword.1 (d := '\\') (by decide)
      have hopen := ne_of_isLetter hword.1 (d := '(') (by decide)
      have hclose := ne_of_isLetter hword.1 (d := ')') (by decide)
      have hrest := ih h.succ hword.2 (Nat.le_of_succ_le_succ hfuel) (by omega)
      rw [bareEnd?, if_neg (by omega), hhead]
      simp only [hrest, hescape, hopen, hclose, hgraphic, Bool.or_eq_true, decide_eq_true_eq,
        beq_iff_eq, Bool.and_eq_true, false_and, if_false]
      congr 1
      omega

theorem destination?_word (h : Stands src pos (word ++ ' ' :: rest)) (hne : word ≠ [])
    (hword : ∀ c ∈ word, isLetter c = true) (hstop : pos + word.length < stop) :
    destination? src pos stop = some ⟨word, pos + word.length⟩ := by
  have hopen : src[pos]? ≠ some '<' := by
    obtain ⟨c, more, rfl⟩ := List.exists_cons_of_ne_nil hne
    rw [h.head?_eq]
    exact fun heq => ne_of_isLetter (hword c List.mem_cons_self) (by decide) (Option.some.inj heq)
  have hend : bareEnd? src stop (stop - pos) 0 pos = some (pos + word.length) :=
    bareEnd?_word h hword (by omega) hstop
  have hplain : ∀ c ∈ word, c ≠ '\\' ∧ c ≠ '&' := fun c hc =>
    ⟨ne_of_isLetter (hword c hc) (by decide), ne_of_isLetter (hword c hc) (by decide)⟩
  have hpos := List.length_pos_iff.2 hne
  rw [destination?, if_neg (by simpa using hopen), hend]
  dsimp only
  rw [if_neg (by omega), h.slice_eq, unescape_eq_self hplain]

theorem titleEnd?_plain (h : Stands src pos (title ++ '"' :: rest))
    (htitle : ∀ c ∈ title, c ≠ '"' ∧ c ≠ '\\') (hfuel : title.length < fuel)
    (hstop : pos + title.length < stop) :
    titleEnd? src '"' stop fuel pos = some (pos + title.length) := by
  induction title generalizing pos fuel with
  | nil =>
      obtain ⟨fuel, rfl⟩ := Nat.exists_eq_add_one.2 hfuel
      have hquote : src[pos]? = some '"' := h.head?_eq
      have hbefore : ¬stop ≤ pos := Nat.not_le_of_lt hstop
      rw [titleEnd?, if_neg hbefore, hquote]
      rfl
  | cons c title ih =>
      rw [List.length_cons] at hfuel hstop ⊢
      obtain ⟨fuel, rfl⟩ := Nat.exists_eq_add_one.2 (Nat.lt_of_le_of_lt (Nat.zero_le _) hfuel)
      rw [List.forall_mem_cons] at htitle
      have hhead : src[pos]? = some c := h.head?_eq
      have hrest := ih h.succ htitle.2 (Nat.lt_of_succ_lt_succ hfuel) (by omega)
      rw [titleEnd?, if_neg (by omega), hhead]
      have hmark : ¬(c = '(' ∧ '"' = ')') := fun hboth => absurd hboth.2 (by decide)
      simp only [hrest, htitle.1, hmark, beq_iff_eq, Bool.and_eq_true, false_and, if_false]
      congr 1
      omega

/-- A title without quotation marks, escapes and references is read as it is written. -/
theorem readTitle_plain (h : Stands src pos ('"' :: (title ++ '"' :: rest)))
    (htitle : ∀ c ∈ title, c ≠ '"' ∧ c ≠ '\\' ∧ c ≠ '&') (hstop : pos + title.length + 1 < stop) :
    readTitle src pos stop = .closed ⟨title, pos + title.length + 2⟩ := by
  have hquote : src[pos]? = some '"' := h.head?_eq
  have hend : titleEnd? src '"' stop (stop - (pos + 1)) (pos + 1) =
      some (pos + 1 + title.length) :=
    titleEnd?_plain h.succ (fun c hc => ⟨(htitle c hc).1, (htitle c hc).2.1⟩) (by omega) (by omega)
  rw [readTitle, if_neg (by omega), hquote]
  change continueTitle src '"' [] (pos + 1) stop = _
  rw [continueTitle, hend]
  dsimp only
  rw [if_pos (by omega), h.succ.slice_eq, unescape_eq_self fun c hc => (htitle c hc).2,
    List.nil_append]
  congr 2
  omega

/-- Destination and title of a link are read as they are written. -/
theorem target?_titled (hne : word ≠ []) (hword : ∀ c ∈ word, isLetter c = true)
    (htitle : ∀ c ∈ title, c ≠ '"' ∧ c ≠ '\\' ∧ c ≠ '&')
    (h : Stands src pos (word ++ ' ' :: '"' :: (title ++ '"' :: ')' :: rest)))
    (hstop : pos + word.length + title.length + 3 < stop) :
    InlineReader.target? src stop pos =
      some ⟨Url.normalize word, title, pos + word.length + title.length + 3⟩ := by
  obtain ⟨c, more, rfl⟩ := List.exists_cons_of_ne_nil hne
  have hc : isGapOrNewline c = false := by
    have hletter := hword c List.mem_cons_self
    have hspace := ne_of_isLetter hletter (d := ' ') (by decide)
    have htab := ne_of_isLetter hletter (d := '\t') (by decide)
    have hnewline := ne_of_isLetter hletter (d := '\n') (by decide)
    simp [isGapOrNewline, isGap, hspace, htab, hnewline]
  have hgap : Stands src (pos + (c :: more).length)
      ([' '] ++ '"' :: (title ++ '"' :: ')' :: rest)) := h.add
  have hclose : Stands src (pos + (c :: more).length + 1 + title.length + 2) (')' :: rest) :=
    hgap.succ.succ.add.succ.of_eq (by omega)
  have hbetween : skipWhile isGapOrNewline src (pos + (c :: more).length) stop =
      pos + (c :: more).length + 1 :=
    hgap.skipWhile_eq (List.forall_mem_singleton.2 rfl) (by rintro _ ⟨⟩; rfl) (by
      rw [List.length_singleton]; omega)
  have hread : readTitle src (pos + (c :: more).length + 1) stop =
      .closed ⟨title, pos + (c :: more).length + 1 + title.length + 2⟩ :=
    readTitle_plain hgap.succ htitle (by omega)
  rw [InlineReader.target?, h.skipWhile_eq_self hc, if_neg (by omega),
    destination?_word h hne hword (by omega)]
  dsimp only
  rw [if_pos (Url.isAllowed_normalize_word hword), hbetween, hread]
  dsimp only
  have hapart : pos + (c :: more).length + 1 < stop ∧
      pos + (c :: more).length + 1 ≠ pos + (c :: more).length := by omega
  rw [if_pos (by simpa only [Bool.and_eq_true, decide_eq_true_eq, bne_iff_ne] using hapart),
    hclose.skipWhile_eq_self rfl]
  congr 2
  omega

/-! ## Content -/

/-- A letter or a space. -/
def isProse (c : Char) : Bool := isLetter c || c == ' '

namespace InlineReader

variable {definitions : Definitions} {budget : Nat} {readLabel : ReadLabel} {memo : Memo}
  {d : Draft} {label : List Char}

theorem isTerminator_of_isLetter (h : isLetter c = true) : isTerminator c = false := by
  rw [← Bool.not_eq_true, isTerminator, List.contains_iff_mem]
  intro hmark
  have hnone : ("\n!#$%&*+-:<=>@[\\]^_\x60\x7b\x7d~".toList.all (!isLetter ·)) = true := by
    decide +kernel
  have hmark := List.all_eq_true.1 hnone c hmark
  rw [h] at hmark
  cases hmark

theorem isTerminator_of_isProse (h : isProse c = true) : isTerminator c = false := by
  rw [isProse, Bool.or_eq_true, beq_iff_eq] at h
  rcases h with h | rfl
  · exact isTerminator_of_isLetter h
  · decide

/-- A run of plain characters is read at once. -/
theorem readFrom_plain (h : Stands src pos (run ++ rest)) (hne : run ≠ [])
    (hrun : ∀ c ∈ run, isTerminator c = false) (hrest : ∀ c ∈ rest.head?, isTerminator c = true)
    (hstop : pos + run.length ≤ stop) (hfuel : 0 < fuel) :
    readFrom src definitions stop budget readLabel fuel memo pos d =
      readFrom src definitions stop budget readLabel (fuel - 1) memo (pos + run.length)
        (d.append run) := by
  obtain ⟨fuel, rfl⟩ := Nat.exists_eq_add_one.2 hfuel
  have hskip : skipWhile (!isTerminator ·) src pos stop = pos + run.length :=
    h.skipWhile_eq (fun c hc => by rw [hrun c hc]; rfl) (fun c hc => by rw [hrest c hc]; rfl) hstop
  have hpos := List.length_pos_iff.2 hne
  obtain ⟨c, more, rfl⟩ := List.exists_cons_of_ne_nil hne
  rw [readFrom, if_neg (by omega), h.head?_eq, List.cons_append, List.head?_cons]
  dsimp only
  rw [readOne, hrun c List.mem_cons_self, Bool.not_false, if_pos rfl, hskip]
  dsimp only
  rw [h.slice_eq, Nat.add_sub_cancel]

theorem readFrom_end (h : stop ≤ pos) :
    readFrom src definitions stop budget readLabel fuel memo pos d = (memo, d) := by
  cases fuel with
  | zero => rfl
  | succ fuel => rw [readFrom, if_pos h]

theorem flush_append (hne : run ≠ []) (hpending : d.pending = []) :
    (d.append run).flush = d.push (.text run) := by
  have hreverse : (run.reverse ++ []).isEmpty = false := by simp [hne]
  rw [Draft.flush, Draft.append, hpending, hreverse]
  simp [Draft.push, hpending]

theorem content_plain (h : Stands src pos (run ++ rest)) (hne : run ≠ [])
    (hrun : ∀ c ∈ run, isTerminator c = false) (hrest : ∀ c ∈ rest.head?, isTerminator c = true) :
    content src definitions (budget + 1) memo pos (pos + run.length) = (memo, [.text run]) := by
  rw [content, Nat.add_sub_cancel_left, readFrom_plain h hne hrun hrest (Nat.le_refl _)
    (List.length_pos_iff.2 hne), readFrom_end (Nat.le_refl _)]
  dsimp only
  rw [Draft.finish, flush_append hne rfl]
  rfl

theorem passed?_ofText (src : Array Char) (pos : Nat) : (Memo.ofText src).passed? pos = none := by
  rw [Memo.passed?, Memo.ofText, Array.getElem?_replicate]
  split <;> rfl

theorem label?_plain (h : Stands src pos ('[' :: (label ++ ']' :: rest))) (hne : label ≠ [])
    (hlabel : ∀ c ∈ label, isTerminator c = false) (hstop : pos + 1 + label.length < stop)
    (hmemo : memo.passed? (pos + 1) = none) :
    ∃ memo', label? src stop (pass src definitions stop (budget + 1)) true memo pos =
      (memo', some (pos + 1 + label.length)) := by
  have hinside : Stands src (pos + 1) (label ++ ']' :: rest) := h.succ
  have hskip : skipWhile (!isTerminator ·) src (pos + 1) stop = pos + 1 + label.length :=
    hinside.skipWhile_eq (fun c hc => by rw [hlabel c hc]; rfl) (by rintro _ ⟨⟩; decide)
      (Nat.le_of_lt hstop)
  have hclose : src[pos + 1 + label.length]? = some ']' := hinside.add.head?_eq
  obtain ⟨fuel, hfuel⟩ : ∃ fuel, stop - pos = fuel + 2 := ⟨stop - pos - 2, by omega⟩
  obtain ⟨c, more, rfl⟩ := List.exists_cons_of_ne_nil hne
  have hc := hlabel c List.mem_cons_self
  have hhead : src[pos + 1]? = some c := hinside.head?_eq
  have hpass : ∃ memo', pass src definitions stop (budget + 1) memo (pos + 1) =
      (memo', pos + 1 + (c :: more).length) := by
    rw [pass, hmemo, constructEnd?, hhead]
    simp [hc, hskip]
  obtain ⟨memo', hpass⟩ := hpass
  refine ⟨memo', ?_⟩
  have hopen : c ≠ '[' := by
    rintro rfl
    exact absurd hc (by decide)
  have hshut : c ≠ ']' := by
    rintro rfl
    exact absurd hc (by decide)
  have hend : labelEnd? src stop (pass src definitions stop (budget + 1)) true (fuel + 1) 1 memo'
      (pos + 1 + (c :: more).length) = (memo', some (pos + 1 + (c :: more).length)) := by
    rw [labelEnd?, if_neg (by omega), hclose]
    rfl
  rw [label?, hfuel, labelEnd?, if_neg (by omega), hhead, hpass]
  simpa [hopen, hshut] using hend

end InlineReader

end Continuity.Markdown
