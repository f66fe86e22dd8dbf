import Mathlib.Data.List.Basic
import Continuity.Proofs.Data.Lists
import Continuity.Text.Marker
import Continuity.Text.Word

/-! # Where words and markers stand

The words of a text are the longest stretches of it that hold letters only. A marker stands where
there is a border between a word and something else at either end; it is found wherever it stands
between blanks if it begins and ends with characters of words, and only then.
-/

namespace Continuity.Text

/-! ## Words -/

/-- A word stands in a text where it says that it does. -/
structure Word.StandsIn (text : List Char) (w : Word) : Prop where
  letters : w.letters <+: text.drop w.start
  nonempty : w.letters ≠ []
  isWordLetter : ∀ c ∈ w.letters, isWordLetter c = true

variable {text cs : List Char} {offset start stop i : Nat} {w : Word}

namespace Word.StandsIn

theorem start_lt_stop (h : w.StandsIn text) : w.start < w.stop :=
  Nat.lt_add_of_pos_right (List.length_pos_iff.2 h.nonempty)

theorem stop_le_length (h : w.StandsIn text) : w.stop ≤ text.length := by
  have hlength := h.letters.length_le
  have hpos := List.length_pos_iff.2 h.nonempty
  rw [List.length_drop] at hlength
  rw [Word.stop]
  omega

theorem slice_eq (h : w.StandsIn text) : slice w.start w.stop text = w.letters := by
  rw [slice, Word.stop, Nat.add_sub_cancel_left]
  exact (List.prefix_iff_eq_take.1 h.letters).symm

end Word.StandsIn

theorem Word.of_mem_joinLetter {c : Char} {later : List Word}
    (h : w ∈ Word.joinLetter offset c later) :
    w ∈ later ∨ w = ⟨offset, [c]⟩ ∨
      ∃ v ∈ later, v.start = offset + 1 ∧ w = ⟨offset, c :: v.letters⟩ := by
  cases later with
  | nil => exact .inr (.inl (List.mem_singleton.1 h))
  | cons v later =>
      rw [joinLetter] at h
      split at h
      next hv =>
        rcases List.mem_cons.1 h with rfl | h
        · exact .inr (.inr ⟨v, List.mem_cons_self, hv, rfl⟩)
        · exact .inl (List.mem_cons_of_mem _ h)
      next =>
        rcases List.mem_cons.1 h with rfl | h
        · exact .inr (.inl rfl)
        · exact .inl h

theorem prefix_drop_succ {c : Char} (h : c :: cs <+: text.drop offset) :
    cs <+: text.drop (offset + 1) := by
  obtain ⟨after, hafter⟩ := h
  rw [← List.drop_drop, ← hafter]
  exact List.prefix_append cs after

theorem cons_prefix_drop {c : Char} {letters : List Char} (h : c :: cs <+: text.drop offset)
    (hletters : letters <+: text.drop (offset + 1)) : c :: letters <+: text.drop offset := by
  obtain ⟨after, hafter⟩ := h
  rw [← List.drop_drop, ← hafter] at hletters
  rw [← hafter]
  exact List.cons_prefix_cons.2 ⟨rfl, hletters⟩

theorem standsIn_of_mem_wordsFrom (hcs : cs <+: text.drop offset) (hw : w ∈ wordsFrom offset cs) :
    w.StandsIn text ∧ offset ≤ w.start ∧ w.stop ≤ offset + cs.length := by
  induction cs generalizing offset w with
  | nil => cases hw
  | cons c rest ih =>
      have hrest := prefix_drop_succ hcs
      rw [List.length_cons]
      rw [wordsFrom] at hw
      split at hw
      next hc =>
        -- A letter is a word of its own, or it begins the word that follows it.
        rcases Word.of_mem_joinLetter hw with hw | rfl | ⟨v, hv, hstart, rfl⟩
        · obtain ⟨hstands, hlo, hhi⟩ := ih hrest hw
          exact ⟨hstands, by omega, by omega⟩
        · refine ⟨⟨?_, List.cons_ne_nil _ _, ?_⟩, Nat.le_refl _, ?_⟩
          · exact (List.prefix_append [c] rest).trans hcs
          · simpa using hc
          · exact Nat.add_le_add_left (Nat.le_add_left _ _) _
        · obtain ⟨hstands, -, hhi⟩ := ih hrest hv
          refine ⟨⟨?_, List.cons_ne_nil _ _, ?_⟩, Nat.le_refl _, ?_⟩
          · exact cons_prefix_drop hcs (hstart ▸ hstands.letters)
          · exact List.forall_mem_cons.2 ⟨hc, hstands.isWordLetter⟩
          · rw [Word.stop, hstart] at hhi
            show offset + (v.letters.length + 1) ≤ _
            omega
      next =>
        obtain ⟨hstands, hlo, hhi⟩ := ih hrest hw
        exact ⟨hstands, by omega, by omega⟩

/-- No word begins where another one ends. -/
theorem pairwise_wordsFrom (hcs : cs <+: text.drop offset) :
    (wordsFrom offset cs).Pairwise fun a b => a.stop < b.start := by
  induction cs generalizing offset with
  | nil => exact .nil
  | cons c rest ih =>
      have hrest := prefix_drop_succ hcs
      have hlater := ih hrest
      have hstart {w : Word} (hw : w ∈ wordsFrom (offset + 1) rest) : offset + 1 ≤ w.start :=
        (standsIn_of_mem_wordsFrom hrest hw).2.1
      rw [wordsFrom]
      split
      next hc =>
        generalize wordsFrom (offset + 1) rest = later at hlater hstart
        cases later with
        | nil => exact List.pairwise_singleton _ _
        | cons w later =>
            rw [Word.joinLetter]
            split
            next hw =>
              obtain ⟨hafter, hlater⟩ := List.pairwise_cons.1 hlater
              refine .cons (fun v hv => ?_) hlater
              have hv := hafter v hv
              rw [Word.stop, hw] at hv
              show offset + (w.letters.length + 1) < v.start
              omega
            next hw =>
              refine .cons (fun v hv => ?_) hlater
              have hapart : offset + 1 < w.start :=
                Nat.lt_of_le_of_ne (hstart List.mem_cons_self) (Ne.symm hw)
              rcases List.mem_cons.1 hv with rfl | hv
              · exact hapart
              · have hlast : w.stop < v.start := List.rel_of_pairwise_cons hlater hv
                exact Nat.lt_trans (Nat.lt_of_lt_of_le hapart (Nat.le_add_right _ _)) hlast
      next => exact hlater

theorem of_mem_wordsBetween (hw : w ∈ wordsBetween start stop text) :
    w.StandsIn text ∧ start ≤ w.start ∧ w.stop ≤ stop := by
  obtain ⟨hstands, hstart, hstop⟩ := standsIn_of_mem_wordsFrom (List.take_prefix _ _) hw
  have hlength := List.length_take_le (stop - start) (text.drop start)
  have hlt := hstands.start_lt_stop
  exact ⟨hstands, hstart, by omega⟩

theorem pairwise_wordsBetween (start stop : Nat) (text : List Char) :
    (wordsBetween start stop text).Pairwise fun a b => a.stop < b.start :=
  pairwise_wordsFrom (List.take_prefix _ _)

/-! ## Whole words -/

/-- A character of a word stands at an offset. -/
def LetterAt (text : List Char) (offset : Nat) : Prop := ∃ c ∈ text[offset]?, isWordLetter c = true

/-- A word that is no part of a longer one. -/
structure Word.IsWhole (text : List Char) (w : Word) : Prop extends w.StandsIn text where
  before : ∀ i, i + 1 = w.start → ¬LetterAt text i
  after : ¬LetterAt text w.stop

theorem Word.StandsIn.letterAt (h : w.StandsIn text) (hstart : w.start ≤ i) (hstop : i < w.stop) :
    LetterAt text i := by
  obtain ⟨back, hback⟩ := h.letters
  have hlt : i - w.start < w.letters.length := by
    rw [Word.stop] at hstop
    omega
  have hletter : text[i]? = some (w.letters.get ⟨i - w.start, hlt⟩) := by
    rw [List.get_eq_getElem]
    rw [← List.getElem?_eq_getElem hlt, ← List.getElem?_append_left hlt, hback, List.getElem?_drop,
      Nat.add_sub_cancel' hstart]
  exact ⟨_, hletter, h.isWordLetter _ (List.getElem_mem hlt)⟩

/-- Words that begin and end at the same places are the same. -/
theorem Word.StandsIn.eq_of_bounds {v : Word} (hv : v.StandsIn text) (hw : w.StandsIn text)
    (hstart : v.start = w.start) (hstop : v.stop = w.stop) : v = w := by
  have hletters : v.letters = w.letters := by
    rw [← hv.slice_eq, ← hw.slice_eq, hstart, hstop]
  cases v
  cases w
  simp_all

/-- A letter belongs to the word that it begins. -/
theorem Word.exists_mem_joinLetter (offset : Nat) (c : Char) (later : List Word) :
    ∃ w ∈ joinLetter offset c later, w.start ≤ offset ∧ offset < w.stop := by
  cases later with
  | nil => exact ⟨_, List.mem_singleton_self _, by simp [stop]⟩
  | cons v later =>
      rw [joinLetter]
      split
      · exact ⟨_, List.mem_cons_self, by simp [stop]⟩
      · exact ⟨_, List.mem_cons_self, by simp [stop]⟩

/-- What belongs to a word still does with a letter put in front. -/
theorem Word.exists_mem_joinLetter_of_mem {later : List Word} (hw : w ∈ later)
    (hstart : w.start ≤ i) (hstop : i < w.stop) (offset : Nat) (c : Char) :
    ∃ v ∈ joinLetter offset c later, v.start ≤ i ∧ i < v.stop := by
  cases later with
  | nil => cases hw
  | cons v later =>
      rw [joinLetter]
      split
      next hv =>
        rcases List.mem_cons.1 hw with rfl | hw
        · refine ⟨_, List.mem_cons_self, ?_⟩
          rw [stop] at hstop ⊢
          simp only [List.length_cons]
          omega
        · exact ⟨w, List.mem_cons_of_mem _ hw, hstart, hstop⟩
      next => exact ⟨w, List.mem_cons_of_mem _ hw, hstart, hstop⟩

/-- Every letter belongs to a word. -/
theorem exists_mem_wordsFrom (offset : Nat) (h : LetterAt cs i) :
    ∃ w ∈ wordsFrom offset cs, w.start ≤ offset + i ∧ offset + i < w.stop := by
  induction cs generalizing offset i with
  | nil =>
      obtain ⟨c, hc, -⟩ := h
      cases hc
  | cons c rest ih =>
      obtain ⟨d, hd, hletter⟩ := h
      rw [wordsFrom]
      cases i with
      | zero =>
          obtain rfl := Option.some.inj hd
          rw [if_pos hletter]
          exact Word.exists_mem_joinLetter offset c _
      | succ i =>
          obtain ⟨w, hw, hstart, hstop⟩ := ih (offset + 1) ⟨d, hd, hletter⟩
          rw [Nat.add_assoc, Nat.add_comm 1 i] at hstart hstop
          split
          · exact Word.exists_mem_joinLetter_of_mem hw hstart hstop offset c
          · exact ⟨w, hw, hstart, hstop⟩

theorem exists_mem_wordsBetween (h : LetterAt text i) (hstart : start ≤ i) (hstop : i < stop) :
    ∃ w ∈ wordsBetween start stop text, w.start ≤ i ∧ i < w.stop := by
  have hslice : LetterAt (slice start stop text) (i - start) := by
    obtain ⟨c, hc, hletter⟩ := h
    refine ⟨c, ?_, hletter⟩
    rw [slice, List.getElem?_take_of_lt (by omega), List.getElem?_drop, Nat.add_sub_cancel' hstart]
    exact hc
  have hword := exists_mem_wordsFrom start hslice
  rwa [Nat.add_sub_cancel' hstart] at hword

theorem apart_of_mem_wordsBetween {v : Word} (hv : v ∈ wordsBetween start stop text)
    (hw : w ∈ wordsBetween start stop text) (hne : v ≠ w) : v.stop < w.start ∨ w.stop < v.start :=
  Lists.rel_or_rel_of_pairwise (pairwise_wordsBetween start stop text) hv hw hne

/-- No letter stands next to a word: it would be in a word of its own, but words are apart. -/
theorem not_letterAt_of_mem_wordsBetween (hw : w ∈ wordsBetween start stop text) (hstart : start ≤ i)
    (hstop : i < stop) (hnext : i + 1 = w.start ∨ i = w.stop) : ¬LetterAt text i := by
  intro hletter
  obtain ⟨v, hv, hlo, hhi⟩ := exists_mem_wordsBetween hletter hstart hstop
  have hlt := (of_mem_wordsBetween hw).1.start_lt_stop
  have hne : v ≠ w := by
    rintro rfl
    omega
  have := apart_of_mem_wordsBetween hv hw hne
  omega

/-- The words between two offsets are the stretches of letters there that cannot be extended. -/
theorem mem_wordsBetween_iff : w ∈ wordsBetween start stop text ↔
    w.StandsIn text ∧ start ≤ w.start ∧ w.stop ≤ stop ∧
      (∀ i, start ≤ i → i + 1 = w.start → ¬LetterAt text i) ∧
        (w.stop < stop → ¬LetterAt text w.stop) := by
  constructor
  · intro hw
    obtain ⟨hstands, hstart, hstop⟩ := of_mem_wordsBetween hw
    have hlt := hstands.start_lt_stop
    refine ⟨hstands, hstart, hstop, fun i hi hbefore => ?_, fun hbound => ?_⟩
    · exact not_letterAt_of_mem_wordsBetween hw hi (by omega) (.inl hbefore)
    · exact not_letterAt_of_mem_wordsBetween hw (by omega) hbound (.inr rfl)
  · rintro ⟨hstands, hstart, hstop, hbefore, hafter⟩
    have hlt := hstands.start_lt_stop
    -- The word that the first letter belongs to has the same bounds.
    obtain ⟨v, hv, hlo, hhi⟩ := exists_mem_wordsBetween (hstands.letterAt (Nat.le_refl _) hlt)
      hstart (Nat.lt_of_lt_of_le hlt hstop)
    obtain ⟨hvstands, hvstart, hvstop⟩ := of_mem_wordsBetween hv
    have heqstart : v.start = w.start := by
      by_contra hne
      have hletter := hvstands.letterAt (i := w.start - 1) (by omega) (by omega)
      exact hbefore _ (by omega) (by omega) hletter
    have heqstop : v.stop = w.stop := by
      rcases Nat.lt_trichotomy v.stop w.stop with hless | heq | hmore
      · have hletter := hstands.letterAt (i := v.stop) (by omega) hless
        exact absurd hletter
          (not_letterAt_of_mem_wordsBetween hv (by omega) (by omega) (.inr rfl))
      · exact heq
      · exact absurd (hvstands.letterAt (by omega) hmore) (hafter (by omega))
    exact hvstands.eq_of_bounds hstands heqstart heqstop ▸ hv

/-- Between two places with no letters only whole words stand. -/
theorem mem_wordsBetween_iff_isWhole (hstart : ¬LetterAt text start) (hstop : ¬LetterAt text stop) :
    w ∈ wordsBetween start stop text ↔ w.IsWhole text ∧ start ≤ w.start ∧ w.stop ≤ stop := by
  rw [mem_wordsBetween_iff]
  constructor
  · rintro ⟨hstands, hlo, hhi, hbefore, hafter⟩
    have hletter := hstands.letterAt (Nat.le_refl _) hstands.start_lt_stop
    have hne : start ≠ w.start := by
      rintro rfl
      exact hstart hletter
    refine ⟨⟨hstands, fun i hi => hbefore i (by omega) hi, ?_⟩, hlo, hhi⟩
    rcases Nat.lt_or_eq_of_le hhi with hlt | heq
    · exact hafter hlt
    · rwa [heq]
  · rintro ⟨hwhole, hlo, hhi⟩
    exact ⟨hwhole.toStandsIn, hlo, hhi, fun i _ => hwhole.before i, fun _ => hwhole.after⟩

/-! ## Markers -/

section Markers

variable {phrase text : List Char}

theorem startsWithFolded_iff : startsWithFolded phrase text = true ↔
    phrase.map patternKey <+: text.map patternKey := by
  induction phrase generalizing text with
  | nil => simp [startsWithFolded]
  | cons p ps ih =>
      cases text with
      | nil => simp [startsWithFolded]
      | cons c cs =>
          rw [startsWithFolded, Bool.and_eq_true, beq_iff_eq, ih, List.map_cons, List.map_cons,
            List.cons_prefix_cons]

/-- A phrase stands in a text, apart from case, with a border at either end. -/
def StandsWhole (phrase text : List Char) : Prop :=
  ∃ front found back, text = front ++ (found ++ back) ∧
    found.map patternKey = phrase.map patternKey ∧
    isBorder front.getLast? (found ++ back).head? = true ∧
    isBorder (front ++ found).getLast? back.head? = true

theorem standsAt_iff {front rest : List Char} : standsAt front.getLast? phrase rest = true ↔
    ∃ found back, rest = found ++ back ∧ found.map patternKey = phrase.map patternKey ∧
      isBorder front.getLast? (found ++ back).head? = true ∧
      isBorder (front ++ found).getLast? back.head? = true := by
  rw [standsAt, Bool.and_eq_true, Bool.and_eq_true, startsWithFolded_iff, ← List.getLast?_append]
  constructor
  · rintro ⟨⟨hbegins, hfound⟩, hends⟩
    refine ⟨rest.take phrase.length, rest.drop phrase.length,
      (List.take_append_drop _ _).symm, ?_, ?_, hends⟩
    · rw [List.prefix_iff_eq_take, List.length_map, ← List.map_take] at hfound
      exact hfound.symm
    · rwa [List.take_append_drop]
  · rintro ⟨found, back, rfl, hfound, hbegins, hends⟩
    have hlength : phrase.length = found.length := by
      simpa using (congrArg List.length hfound).symm
    rw [hlength, List.take_left, List.drop_left, List.map_append, ← hfound]
    exact ⟨⟨hbegins, List.prefix_append _ _⟩, hends⟩

namespace Markers

variable {m : Markers}

/-- Nothing is found if no phrase stands at the front of what follows anywhere in the text. -/
theorem findFrom_eq_nil_iff {before : Option Char} {offset : Nat} :
    m.findFrom before offset 0 text = [] ↔
      ∀ front rest, text = front ++ rest → rest ≠ [] →
        m.at? (front.getLast?.or before) rest = none := by
  induction text generalizing before offset with
  | nil =>
      refine iff_of_true rfl fun front rest heq hne => ?_
      exact absurd (List.append_eq_nil_iff.1 heq.symm).2 hne
  | cons c cs ih =>
      have hlast (front : List Char) :
          (c :: front).getLast?.or before = front.getLast?.or (some c) := by
        rw [List.getLast?_cons]
        cases front.getLast? <;> rfl
      have hsplit : (∀ front rest, c :: cs = front ++ rest → rest ≠ [] →
          m.at? (front.getLast?.or before) rest = none) ↔
          m.at? before (c :: cs) = none ∧ ∀ front rest, cs = front ++ rest → rest ≠ [] →
            m.at? (front.getLast?.or (some c)) rest = none := by
        constructor
        · intro h
          refine ⟨h [] _ rfl (by simp), fun front rest heq hne => ?_⟩
          rw [← hlast]
          exact h (c :: front) rest (by rw [heq, List.cons_append]) hne
        · rintro ⟨hhere, hlater⟩ front rest heq hne
          cases front with
          | nil =>
              obtain rfl : c :: cs = rest := heq
              exact hhere
          | cons d front =>
              obtain ⟨rfl, hcs⟩ := List.cons.inj heq
              rw [hlast]
              exact hlater front rest hcs hne
      rw [hsplit, findFrom]
      split
      next hnone => rw [ih, hnone, eq_self, true_and]
      next phrase hsome => simp [hsome]

/-- Phrases are found in a text in which one of them stands. -/
theorem occursIn_iff (hphrases : [] ∉ m.phrases) :
    m.occursIn text = true ↔ ∃ phrase ∈ m.phrases, StandsWhole phrase text := by
  have hnone (front rest : List Char) : m.at? front.getLast? rest = none ↔
      ∀ phrase ∈ m.phrases, ¬standsAt front.getLast? phrase rest = true :=
    List.find?_eq_none
  rw [occursIn, Bool.not_eq_true', ← Bool.not_eq_true, List.isEmpty_iff, find, findFrom_eq_nil_iff]
  simp only [Option.or_none, hnone, standsAt_iff]
  push Not
  constructor
  · rintro ⟨front, rest, rfl, -, phrase, hphrase, found, back, rfl, hstands⟩
    exact ⟨phrase, hphrase, front, found, back, rfl, hstands⟩
  · rintro ⟨phrase, hphrase, front, found, back, rfl, hfound, hborders⟩
    refine ⟨front, found ++ back, rfl, ?_, phrase, hphrase, found, back, rfl, hfound, hborders⟩
    intro hempty
    rw [(List.append_eq_nil_iff.1 hempty).1, List.map_nil, eq_comm, List.map_eq_nil_iff] at hfound
    exact hphrases (hfound ▸ hphrase)

theorem mem_ofStrings {phrases : List String} : phrase ∈ (ofStrings phrases).phrases ↔
    (∃ p ∈ phrases, trim p.toList = phrase) ∧ phrase ≠ [] := by
  simp [ofStrings]

theorem occursIn_ofStrings_iff {phrases : List String} : (ofStrings phrases).occursIn text = true ↔
    ∃ p ∈ phrases, trim p.toList ≠ [] ∧ StandsWhole (trim p.toList) text := by
  rw [occursIn_iff fun h => (mem_ofStrings.1 h).2 rfl]
  simp only [mem_ofStrings]
  constructor
  · rintro ⟨_, ⟨⟨p, hp, rfl⟩, hne⟩, hstands⟩
    exact ⟨p, hp, hne, hstands⟩
  · rintro ⟨p, hp, hne, hstands⟩
    exact ⟨_, ⟨⟨p, hp, rfl⟩, hne⟩, hstands⟩

end Markers

/-- A text begins and ends with characters of words. -/
def EndsInWords (phrase : List Char) : Prop :=
  phrase.head?.any isWord = true ∧ phrase.getLast?.any isWord = true

theorem EndsInWords.standsWhole (h : EndsInWords phrase) (u v : List Char) :
    StandsWhole phrase (u ++ ' ' :: (phrase ++ ' ' :: v)) := by
  have hspace : isWord ' ' = false := by decide +kernel
  obtain ⟨hfirst, hlast⟩ := h
  refine ⟨u ++ [' '], phrase, ' ' :: v, by simp, rfl, ?_, ?_⟩
  · rw [List.getLast?_concat, List.head?_append, isBorder, Option.any_some, hspace]
    cases hhead : phrase.head? <;> simp_all
  · rw [List.getLast?_append, List.head?_cons, isBorder, Option.any_some, hspace]
    cases hhead : phrase.getLast? <;> simp_all

/-- Blanks make a border only with a character of a word. -/
theorem endsInWords_of_standsWhole (hne : phrase ≠ [])
    (h : StandsWhole phrase (' ' :: (phrase ++ [' ']))) : EndsInWords phrase := by
  have hspace : isWord ' ' = false := by decide +kernel
  obtain ⟨front, found, back, htext, hfound, hbegins, hends⟩ := h
  have hlength : found.length = phrase.length := by
    simpa using congrArg List.length hfound
  -- There is no border at either end of the whole text, so the phrase stands between the blanks.
  rcases front with _ | ⟨c, front⟩
  · rw [← List.nil_append (found ++ back), ← htext] at hbegins
    simp [isBorder, hspace] at hbegins
  rcases List.eq_nil_or_concat' back with rfl | ⟨back, b, rfl⟩
  · rw [← List.append_nil (c :: front ++ found), List.append_assoc, ← htext, ← List.cons_append,
      List.getLast?_concat] at hends
    simp [isBorder, hspace] at hends
  obtain ⟨rfl, htail⟩ := List.cons.inj htext
  rw [List.append_eq, ← List.append_assoc, ← List.append_assoc] at htail
  obtain ⟨hphrase, hb⟩ := List.append_inj' htail rfl
  obtain rfl := List.singleton_inj.1 hb
  have hsum := congrArg List.length hphrase
  rw [List.length_append, List.length_append] at hsum
  obtain rfl : front = [] := List.length_eq_zero_iff.1 (by omega)
  obtain rfl : back = [] := List.length_eq_zero_iff.1 (by omega)
  obtain rfl : phrase = found := by simpa using hphrase
  constructor
  · rw [List.getLast?_singleton, List.head?_append_of_ne_nil _ hne, isBorder, Option.any_some,
      hspace] at hbegins
    simpa using hbegins
  · rw [List.getLast?_append_of_ne_nil _ hne, isBorder, List.nil_append, List.head?_cons,
      Option.any_some, hspace] at hends
    simpa using hends

/-- A marker is found wherever it stands between blanks, among whatever other markers, exactly if
it begins and ends with characters of words. -/
theorem marker_found_between_blanks_iff (marker : String) :
    (∀ phrases, marker ∈ phrases → ∀ u v, (Markers.ofStrings phrases).occursIn
      (u ++ ' ' :: (trim marker.toList ++ ' ' :: v)) = true) ↔
    EndsInWords (trim marker.toList) := by
  constructor
  · intro h
    have halone := h [marker] (List.mem_singleton_self _) [] []
    rw [Markers.occursIn_ofStrings_iff] at halone
    obtain ⟨p, hp, hne, hstands⟩ := halone
    obtain rfl := List.mem_singleton.1 hp
    exact endsInWords_of_standsWhole hne hstands
  · intro h phrases hmarker u v
    rw [Markers.occursIn_ofStrings_iff]
    refine ⟨marker, hmarker, ?_, h.standsWhole u v⟩
    intro hempty
    rw [hempty] at h
    cases h.1

/-- No border lies between a full stop and a blank. -/
theorem abbreviation_not_found :
    "a.k.a." ∈ ["a.k.a."] ∧ trim "a.k.a.".toList ≠ [] ∧
      (Markers.ofStrings ["a.k.a."]).occursIn
        ("Ann".toList ++ ' ' :: (trim "a.k.a.".toList ++ ' ' :: "Bo".toList)) = false := by
  decide +kernel

end Markers

end Continuity.Text
