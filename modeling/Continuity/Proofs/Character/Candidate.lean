import Mathlib.Data.List.Infix
import Continuity.Character.Candidate
import Continuity.Proofs.Text.Sentence

/-! # How names are put together of words

A list of words is gone through from its front. Words that belong to no name are passed over, and
the others are gathered into runs, each as long as it can be: a run ends only before a word that
cannot be added to it. What the runs have in common with the words follows from this division alone,
and with it what candidates are made of: words of their paragraph with nothing but blanks between
them. The candidates of a paragraph stand in it one after another.
-/

namespace Continuity.Character

open Text (Word slice)

variable {text : List Char} {words : List Word}

/-! ## Runs -/

section Run

/-- Between two words there are blanks and nothing else. -/
def Follows (text : List Char) (a b : Word) : Prop :=
  Text.isBlankRun (slice a.stop b.start text) = true

variable {rest run a b : List Word} {runs : List (List Word)}

/-- Words that may be one name. -/
structure IsRun (text : List Char) (run : List Word) : Prop where
  named : ∀ w ∈ run, isNameWord w = true
  ne_nil : run ≠ []
  length_le : run.length ≤ maxNameWords
  follow : run.IsChain (Follows text)

/-- The first of the words behind a run cannot be added to it. -/
def EndsBefore (text : List Char) (run rest : List Word) : Prop :=
  ∀ w ∈ rest.head?, isNameWord w = true →
    run.length = maxNameWords ∨ ∃ last ∈ run.getLast?, ¬Follows text last w

/-- Words divided into runs that end only where they have to; words between them belong to none. -/
inductive Divided (text : List Char) : List Word → List (List Word) → Prop
  | nil : Divided text [] []
  | skip {w : Word} {rest : List Word} {runs : List (List Word)} (hw : isNameWord w = false)
      (h : Divided text rest runs) : Divided text (w :: rest) runs
  | run {run rest : List Word} {runs : List (List Word)} (hrun : IsRun text run)
      (hends : EndsBefore text run rest) (h : Divided text rest runs) :
      Divided text (run ++ rest) (run :: runs)

theorem IsRun.singleton {w : Word} (hw : isNameWord w = true) : IsRun text [w] :=
  ⟨by simpa using hw, List.cons_ne_nil _ _, Nat.succ_le_succ (Nat.zero_le 2), .singleton w⟩

/-- A run goes on with a word that follows its last one. -/
theorem IsRun.concat {last w : Word} (h : IsRun text run) (hlast : last ∈ run.getLast?)
    (hw : isNameWord w = true) (hlength : run.length ≠ maxNameWords) (hfollow : Follows text last w) :
    IsRun text (run ++ [w]) where
  named := by
    intro v hv
    rcases List.mem_append.1 hv with hv | hv
    · exact h.named v hv
    · exact List.mem_singleton.1 hv ▸ hw
  ne_nil := List.append_ne_nil_of_right_ne_nil _ (List.cons_ne_nil _ _)
  length_le := by
    rw [List.length_append]
    exact Nat.lt_of_le_of_ne h.length_le hlength
  follow := by
    refine List.isChain_append.2 ⟨h.follow, .singleton w, ?_⟩
    intro x hx y hy
    obtain rfl := Option.mem_unique hx hlast
    obtain rfl := Option.some.inj hy
    exact hfollow

/-! ## The division -/

namespace Divided

/-- Closing the run at hand, if there is one, before words that cannot be added to it. -/
theorem close {current : List Word} (hcurrent : current = [] ∨ IsRun text current.reverse)
    (hends : EndsBefore text current.reverse rest) (h : Divided text rest runs) :
    Divided text (current.reverse ++ rest) (closeRun current ++ runs) := by
  rcases hcurrent with rfl | hrun
  · exact h
  · have hne : current ≠ [] := fun hnil => hrun.ne_nil (by rw [hnil, List.reverse_nil])
    rw [closeRun, if_neg (by simpa using hne)]
    exact .run hrun hends h

/-- The words gathered so far and those to come are divided as they should be. -/
theorem of_nameRuns {current : List Word} (hcurrent : current = [] ∨ IsRun text current.reverse) :
    Divided text (current.reverse ++ words) (nameRuns text current words) := by
  fun_induction nameRuns text current words with
  | case1 current =>
      have hclosed : Divided text (current.reverse ++ []) (closeRun current ++ []) :=
        close hcurrent (fun _ hw => nomatch hw) .nil
      rwa [List.append_nil (closeRun current)] at hclosed
  | case2 w rest hname ih => exact ih (.inr (.singleton hname))
  | case3 w rest hname last more hcut ih =>
      rw [if_pos hcut]
      refine close hcurrent ?_ (ih (.inr (.singleton hname)))
      intro v hv _
      obtain rfl := Option.some.inj hv
      rw [Bool.or_eq_true, decide_eq_true_iff, Bool.not_eq_true'] at hcut
      rw [List.length_reverse, List.getLast?_reverse]
      exact hcut.imp_right fun hgap => ⟨last, rfl, by rw [Follows, hgap]; exact Bool.false_ne_true⟩
  | case4 w rest hname last more hjoin ih =>
      rw [if_neg hjoin]
      rw [Bool.or_eq_true, not_or, decide_eq_true_iff, Bool.not_eq_true', Bool.not_eq_false] at hjoin
      have hrun : IsRun text (last :: more).reverse :=
        hcurrent.resolve_left (List.cons_ne_nil _ _)
      have hlonger : IsRun text (w :: last :: more).reverse := by
        rw [List.reverse_cons]
        exact hrun.concat (by rw [List.getLast?_reverse]; rfl) hname
          (by rw [List.length_reverse]; exact hjoin.1) hjoin.2
      have hdivided := ih (.inr hlonger)
      rwa [List.reverse_cons, List.append_assoc] at hdivided
  | case5 current w rest hname ih =>
      refine close hcurrent ?_ (.skip (Bool.eq_false_iff.2 hname) (ih (.inl rfl)))
      intro v hv hw
      obtain rfl := Option.some.inj hv
      exact absurd hw hname

theorem nameRuns_nil (text : List Char) (words : List Word) :
    Divided text words (nameRuns text [] words) :=
  of_nameRuns (.inl rfl)

/-! ## What a division comes to -/

/-- No word of a name is lost, and none is in two runs. -/
theorem flatten_eq (h : Divided text words runs) : runs.flatten = words.filter isNameWord := by
  induction h with
  | nil => rfl
  | skip hw _ ih => rw [ih, List.filter_cons_of_neg (Bool.not_eq_true _ ▸ hw)]
  | run hrun _ _ ih =>
      rw [List.flatten_cons, ih, List.filter_append, List.filter_eq_self.2 hrun.named]

theorem isRun_of_mem (h : Divided text words runs) (hrun : run ∈ runs) :
    IsRun text run ∧ run <:+: words := by
  induction h with
  | nil => cases hrun
  | skip _ _ ih => exact ⟨(ih hrun).1, (ih hrun).2.trans (List.suffix_cons _ _).isInfix⟩
  | run hfirst _ _ ih =>
      rcases List.mem_cons.1 hrun with rfl | hrun
      · exact ⟨hfirst, (List.prefix_append _ _).isInfix⟩
      · exact ⟨(ih hrun).1, (ih hrun).2.trans (List.suffix_append _ _).isInfix⟩

/-- Before the first run only words that belong to no name are passed over. -/
theorem exists_first (h : Divided text words (b :: runs)) :
    ∃ between rest, words = between ++ (b ++ rest) ∧ IsRun text b ∧
      ∀ w ∈ between, isNameWord w = false := by
  generalize hfound : b :: runs = found at h
  induction h with
  | nil => cases hfound
  | @skip w _ _ hw _ ih =>
      obtain ⟨between, rest, rfl, hrun, hbetween⟩ := ih hfound
      exact ⟨w :: between, rest, rfl, hrun, List.forall_mem_cons.2 ⟨hw, hbetween⟩⟩
  | run hrun _ _ _ =>
      cases hfound
      exact ⟨[], _, rfl, hrun, List.forall_mem_nil _⟩

/-- Two neighbouring runs are kept apart by a word that belongs to no name, by what stands between
them in the text, or by the length of the former one. -/
theorem exists_between (h : Divided text words runs) (hab : [a, b] <:+: runs) :
    ∃ between, a ++ between ++ b <:+: words ∧ (∀ w ∈ between, isNameWord w = false) ∧
      (between ≠ [] ∨ (∃ last ∈ a.getLast?, ∃ first ∈ b.head?, ¬Follows text last first) ∨
        a.length = maxNameWords) := by
  induction h with
  | nil => exact absurd (List.eq_nil_of_infix_nil hab) (List.cons_ne_nil _ _)
  | skip _ _ ih =>
      obtain ⟨between, hinfix, hskipped⟩ := ih hab
      exact ⟨between, hinfix.trans (List.suffix_cons _ _).isInfix, hskipped⟩
  | @run run rest later hrun hends hlater ih =>
      rcases List.infix_cons_iff.1 hab with hfirst | hab
      · obtain ⟨runs, heq⟩ := hfirst
        obtain ⟨rfl, rfl⟩ := List.cons.inj heq
        obtain ⟨between, back, rfl, hnext, hbetween⟩ := exists_first hlater
        refine ⟨between, ⟨[], back, by simp⟩, hbetween, ?_⟩
        cases between with
        | cons w _ => exact .inl (List.cons_ne_nil _ _)
        | nil =>
            obtain ⟨first, more, rfl⟩ := List.exists_cons_of_ne_nil hnext.ne_nil
            right
            rcases hends first rfl (hnext.named first List.mem_cons_self) with
              hlength | ⟨last, hlast, hgap⟩
            · exact .inr hlength
            · exact .inl ⟨last, hlast, first, rfl, hgap⟩
      · obtain ⟨between, hinfix, hskipped⟩ := ih hab
        exact ⟨between, hinfix.trans (List.suffix_append _ _).isInfix, hskipped⟩

end Divided

/-- Runs are a partition of the words that belong to names: each has up to three words, one behind
the other with blanks and nothing else between them, and neighbouring runs are apart for a reason. -/
structure IsNamePartition (text : List Char) (words : List Word) (runs : List (List Word)) :
    Prop where
  flatten_eq : runs.flatten = words.filter isNameWord
  length : ∀ run ∈ runs, 1 ≤ run.length ∧ run.length ≤ 3
  consecutive : ∀ run ∈ runs, run <:+: words ∧ run.IsChain (Follows text)
  apart : ∀ a b, [a, b] <:+: runs → ∃ between, a ++ between ++ b <:+: words ∧
    (∀ w ∈ between, isNameWord w = false) ∧
      (between ≠ [] ∨ (∃ last ∈ a.getLast?, ∃ first ∈ b.head?, ¬Follows text last first) ∨
        a.length = 3)

/-- The words in any part of a text are divided into names as a partition. -/
theorem nameRuns_partition (text : List Char) (start stop : Nat) :
    IsNamePartition text (Text.wordsBetween start stop text)
      (nameRuns text [] (Text.wordsBetween start stop text)) := by
  have hdivided := Divided.nameRuns_nil text (Text.wordsBetween start stop text)
  refine ⟨hdivided.flatten_eq, fun run hrun => ?_, fun run hrun => ?_, fun a b hab => ?_⟩
  · have hrun := (hdivided.isRun_of_mem hrun).1
    exact ⟨List.length_pos_iff.2 hrun.ne_nil, hrun.length_le⟩
  · have hrun := hdivided.isRun_of_mem hrun
    exact ⟨hrun.2, hrun.1.follow⟩
  · exact hdivided.exists_between hab

/-- A fourth word is a name of its own, and a comma parts two names. -/
example :
    let text := "Ann Bea Cy Dan and Eve, Flo".toList
    (nameRuns text [] (Text.wordsBetween 0 text.length text)).map (·.map (·.text)) =
      [["Ann", "Bea", "Cy"], ["Dan"], ["Eve"], ["Flo"]] := by
  decide +kernel

end Run

/-! ## Candidates -/

/-- A candidate is made of words of a text, each following the one before it. -/
structure Candidate.MadeOf (text : List Char) (c : Candidate) (words : List Word) : Prop where
  name : c.name = " ".intercalate (words.map (·.text))
  first : ∃ w ∈ words.head?, w.start = c.start
  last : ∃ w ∈ words.getLast?, w.stop = c.stop
  standIn : ∀ w ∈ words, w.StandsIn text
  follow : words.IsChain (Follows text)

theorem Candidate.MadeOf.start_lt_length {c : Candidate} {words : List Word}
    (h : c.MadeOf text words) : c.start < text.length := by
  obtain ⟨w, hw, hstart⟩ := h.first
  have hstands := h.standIn w (List.mem_of_mem_head? hw)
  exact hstart ▸ Nat.lt_of_lt_of_le hstands.start_lt_stop hstands.stop_le_length

/-- A candidate is made of its run or, where the front of the sentence shows no name, of the words
behind. If only the front of the sentence shows it, its first word is nowhere in lowercase. -/
theorem exists_words_of_candidateOf? {v : Vocabulary} {sentence : Nat} {opens : Bool}
    {run : List Word} {c : Candidate} (h : candidateOf? v sentence opens run = some c) :
    ∃ words, words <:+ run ∧ c.name = " ".intercalate (words.map (·.text)) ∧
      (∃ w ∈ words.head?, w.start = c.start ∧
        (c.initial = true → Text.lowerChars w.letters ∉ v.lowercase)) ∧
      (∃ w ∈ words.getLast?, w.stop = c.stop) ∧ c.sentence = sentence := by
  rw [candidateOf?] at h
  simp only [Option.bind_eq_bind, Option.bind_eq_some_iff, Option.pure_def, Option.some.injEq] at h
  obtain ⟨opening, hopening, first, hfirst, last, hlast, rfl⟩ := h
  refine ⟨_, ?_, rfl, ⟨first, hfirst, rfl, fun hinitial => ?_⟩, ⟨last, hlast, rfl⟩, rfl⟩
  · split
    · exact List.drop_suffix _ _
    · exact List.suffix_refl _
  · obtain ⟨hkept, hcapital⟩ := (Bool.and_eq_true _ _).mp hinitial
    obtain ⟨hopens, hkeeps⟩ := (Bool.and_eq_true _ _).mp hkept
    rw [hopens, hkeeps] at hfirst
    obtain rfl := Option.some.inj (hopening.symm.trans hfirst)
    rw [Vocabulary.keepsInitial] at hkeeps
    simp_all

variable {v : Vocabulary} {ignored : List String} {sentence : Nat} {c : Candidate}

theorem exists_run_of_mem_sentenceCandidates
    (hc : c ∈ sentenceCandidates v ignored text sentence words) :
    ∃ run ∈ nameRuns text [] words, ∃ opens, candidateOf? v sentence opens run = some c := by
  rw [sentenceCandidates] at hc
  obtain ⟨run, hrun, hmade⟩ := List.mem_filterMap.1 (List.mem_of_mem_filter hc)
  exact ⟨run, hrun, _, hmade⟩

theorem sentence_eq_of_mem_sentenceCandidates
    (hc : c ∈ sentenceCandidates v ignored text sentence words) : c.sentence = sentence := by
  obtain ⟨run, -, opens, hmade⟩ := exists_run_of_mem_sentenceCandidates hc
  obtain ⟨-, -, -, -, -, hsentence⟩ := exists_words_of_candidateOf? hmade
  exact hsentence

theorem exists_madeOf_of_mem_sentenceCandidates (hwords : ∀ w ∈ words, w.StandsIn text)
    (hc : c ∈ sentenceCandidates v ignored text sentence words) :
    ∃ made, c.MadeOf text made ∧ ∀ w ∈ made, w ∈ words := by
  obtain ⟨run, hrun, opens, hmade⟩ := exists_run_of_mem_sentenceCandidates hc
  obtain ⟨made, hmade, hname, ⟨first, hfirst, hstart, -⟩, hlast, -⟩ :=
    exists_words_of_candidateOf? hmade
  obtain ⟨hisRun, hinfix⟩ := (Divided.nameRuns_nil text words).isRun_of_mem hrun
  have hmem {w : Word} (hw : w ∈ made) : w ∈ words := hinfix.subset (hmade.subset hw)
  exact ⟨made, ⟨hname, ⟨first, hfirst, hstart⟩, hlast, fun w hw => hwords w (hmem hw),
    hisRun.follow.suffix hmade⟩, fun w => hmem⟩

theorem pairwise_sentenceCandidates (hwords : words.Pairwise fun a b => a.stop < b.start) :
    (sentenceCandidates v ignored text sentence words).Pairwise fun a b => a.start < b.start := by
  have hruns : (nameRuns text [] words).Pairwise fun former latter =>
      ∀ a ∈ former, ∀ b ∈ latter, a.stop < b.start := by
    refine (List.pairwise_flatten.1 ?_).2
    rw [(Divided.nameRuns_nil text words).flatten_eq]
    exact hwords.filter _
  refine (List.pairwise_filterMap.2 (hruns.imp ?_)).filter _
  intro former latter hapart a ha b hb
  obtain ⟨_, hformer, -, ⟨w, hw, hstart, -⟩, -⟩ := exists_words_of_candidateOf? ha
  obtain ⟨_, hlatter, -, ⟨w', hw', hstart', -⟩, -⟩ := exists_words_of_candidateOf? hb
  rw [← hstart, ← hstart']
  exact Nat.lt_of_le_of_lt (Nat.le_add_right _ _)
    (hapart w (hformer.subset (List.mem_of_mem_head? hw)) w'
      (hlatter.subset (List.mem_of_mem_head? hw')))

namespace Paragraph

variable {p : Paragraph}

theorem exists_madeOf_of_mem_sentenceCandidates {s : Nat × Nat}
    (hc : c ∈ sentenceCandidates v ignored p.text sentence (p.words s)) :
    ∃ made, c.MadeOf p.text made ∧ ∀ w ∈ made, w ∈ p.words s :=
  Character.exists_madeOf_of_mem_sentenceCandidates
    (fun _ hw => (Text.of_mem_wordsBetween hw).1) hc

/-- A candidate begins in its sentence. -/
theorem bounds_of_mem_sentenceCandidates {s : Nat × Nat}
    (hc : c ∈ sentenceCandidates v ignored p.text sentence (p.words s)) :
    s.1 ≤ c.start ∧ c.start < s.2 := by
  obtain ⟨made, hmade, hwords⟩ := exists_madeOf_of_mem_sentenceCandidates hc
  obtain ⟨w, hw, hstart⟩ := hmade.first
  obtain ⟨hstands, hlo, hhi⟩ := Text.of_mem_wordsBetween (hwords w (List.mem_of_mem_head? hw))
  have hlt := hstands.start_lt_stop
  exact ⟨by omega, by omega⟩

/-- Every candidate of a paragraph is made of words of one sentence. -/
theorem exists_sentence_of_mem_candidates (hc : c ∈ p.candidates v ignored) :
    ∃ s, p.sentences[c.sentence]? = some s ∧
      c ∈ sentenceCandidates v ignored p.text c.sentence (p.words s) := by
  obtain ⟨⟨s, n⟩, hs, hc⟩ := List.mem_flatMap.1 hc
  obtain rfl := sentence_eq_of_mem_sentenceCandidates hc
  exact ⟨s, List.mem_zipIdx_iff_getElem?.1 hs, hc⟩

theorem exists_madeOf_of_mem_candidates (hc : c ∈ p.candidates v ignored) :
    ∃ made, c.MadeOf p.text made := by
  obtain ⟨s, -, hc⟩ := exists_sentence_of_mem_candidates hc
  obtain ⟨made, hmade, -⟩ := exists_madeOf_of_mem_sentenceCandidates hc
  exact ⟨made, hmade⟩

/-- The candidates of a paragraph stand one after another. -/
theorem pairwise_candidates (hsentences : p.sentences = Text.sentences p.text) :
    (p.candidates v ignored).Pairwise fun a b => a.start < b.start := by
  have hordered : p.sentences.zipIdx.Pairwise fun a b => a.1.2 ≤ b.1.1 := by
    have hpairwise := Text.pairwise_sentences p.text
    rw [← hsentences, ← List.zipIdx_map_fst 0 p.sentences] at hpairwise
    exact List.pairwise_map.1 hpairwise
  refine List.pairwise_flatMap.2 ⟨fun s _ => ?_, hordered.imp fun hle a ha b hb => ?_⟩
  · exact pairwise_sentenceCandidates (Text.pairwise_wordsBetween _ _ _)
  · have hformer := bounds_of_mem_sentenceCandidates ha
    have hlatter := bounds_of_mem_sentenceCandidates hb
    omega

end Paragraph

end Continuity.Character
