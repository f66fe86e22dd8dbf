import Continuity.Proofs.Character.Mention
import Continuity.Proofs.Character.Place

/-! # What the notes on a file tell

The notes tell of a mention the pronouns that stand after it in its sentence, and of no other one.
A state of the notes on one file keeps all its mentions: a word that the front of a sentence shows
as a name is nowhere in lowercase in the file.
-/

namespace Continuity.Character

open Text (Word LetterAt IsQuotation)

/-! ## Pronouns in a stretch of a text -/

/-- A form of a set of pronouns stands as a word between two offsets of a text, and no quotation
holds its first letter. -/
structure IsEvidence (text : List Char) (start stop : Nat) (set : String) (w : Word) : Prop where
  whole : w.IsWhole text
  after : start ≤ w.start
  before : w.stop ≤ stop
  form : (String.ofList (Text.lowerChars w.letters), set) ∈ evidenceForms
  unquoted : ∀ first last, IsQuotation text first last → ¬(first ≤ w.start ∧ w.start < last)

section Evidence

variable {text : List Char} {start stop : Nat} {set : String} {w : Word}

theorem isEvidence_iff (hstart : ¬LetterAt text start) (hstop : ¬LetterAt text stop) :
    IsEvidence text start stop set w ↔
      w ∈ (Text.wordsBetween start stop text).filter
        (fun w => !Text.liesIn (Text.quotations text) w.start) ∧
      evidenceForms.lookup (String.ofList (Text.lowerChars w.letters)) = some set := by
  have hforms : (evidenceForms.map (·.1)).Nodup := by decide +kernel
  rw [List.mem_filter, Text.mem_wordsBetween_iff_isWhole hstart hstop, Bool.not_eq_true',
    ← Bool.not_eq_true, Text.liesIn_quotations_iff, Lists.lookup_eq_some_iff hforms]
  constructor
  · rintro ⟨hwhole, hafter, hbefore, hform, hunquoted⟩
    refine ⟨⟨⟨hwhole, hafter, hbefore⟩, ?_⟩, hform⟩
    rintro ⟨first, last, hquotation, hinside⟩
    exact hunquoted first last hquotation hinside
  · rintro ⟨⟨⟨hwhole, hafter, hbefore⟩, hunquoted⟩, hform⟩
    refine ⟨hwhole, hafter, hbefore, hform, fun first last hquotation hinside => ?_⟩
    exact hunquoted ⟨first, last, hquotation, hinside⟩

theorem mem_evidenceBetween (hstart : ¬LetterAt text start) (hstop : ¬LetterAt text stop) :
    set ∈ evidenceBetween text start stop ↔ ∃ w, IsEvidence text start stop set w := by
  rw [evidenceBetween, List.mem_eraseDups, List.mem_filterMap]
  exact exists_congr fun w => (isEvidence_iff hstart hstop).symm

/-- The sets come in the order in which their first forms come. -/
theorem pairwise_evidenceBetween (hstart : ¬LetterAt text start) (hstop : ¬LetterAt text stop) :
    (evidenceBetween text start stop).Pairwise fun a b =>
      ∃ w, IsEvidence text start stop a w ∧
        ∀ w', IsEvidence text start stop b w' → w.start < w'.start := by
  have hwords : ((Text.wordsBetween start stop text).filter fun w =>
      !Text.liesIn (Text.quotations text) w.start).Pairwise fun a b => a.start < b.start := by
    refine ((Text.pairwise_wordsBetween start stop text).imp fun hlt => ?_).filter _
    exact Nat.lt_of_le_of_lt (Nat.le_add_right _ _) hlt
  refine (Lists.pairwise_eraseDups_filterMap hwords _).imp ?_
  rintro a b ⟨w, hw, ha, hlater⟩
  refine ⟨w, (isEvidence_iff hstart hstop).2 ⟨hw, ha⟩, fun w' hw' => ?_⟩
  obtain ⟨hmem, hb⟩ := (isEvidence_iff hstart hstop).1 hw'
  exact hlater w' hmem hb

end Evidence

/-! ## Names in a sentence -/

namespace Paragraph

variable {p : Paragraph} {v : Vocabulary} {ignored : List String} {c c' : Candidate}
  {s : Nat × Nat}

theorem sentences_of_mem_all {content : List Char} {root : Markdown.Node}
    (hp : p ∈ all content root) : p.sentences = Text.sentences p.text := by
  obtain ⟨⟨node, quoted⟩, -, hp⟩ := List.mem_filterMap.1 hp
  dsimp only [ofNode?] at hp
  split at hp
  · obtain rfl := Option.some.inj hp
    rfl
  · cases hp

/-- A candidate stands in a sentence of the paragraph's text. -/
structure BeginsIn (p : Paragraph) (c : Candidate) (s : Nat × Nat) : Prop where
  mem : s ∈ Text.sentences p.text
  after : s.1 ≤ c.start
  before : c.start < s.2

/-- Sentences do not overlap. -/
theorem BeginsIn.unique {s' : Nat × Nat} (h : p.BeginsIn c s) (h' : p.BeginsIn c s') : s = s' := by
  obtain ⟨hmem, hafter, hbefore⟩ := h
  obtain ⟨hmem', hafter', hbefore'⟩ := h'
  by_contra hne
  have hapart := Lists.rel_or_rel_of_pairwise (Text.pairwise_sentences p.text) hmem hmem' hne
  omega

theorem getElem?_sentence_iff (hp : p.sentences = Text.sentences p.text)
    (hc : c ∈ p.candidates v ignored) : p.sentences[c.sentence]? = some s ↔ p.BeginsIn c s := by
  obtain ⟨s', hs', hc⟩ := exists_sentence_of_mem_candidates hc
  obtain ⟨hafter, hbefore⟩ := bounds_of_mem_sentenceCandidates hc
  have hbegins : p.BeginsIn c s' := ⟨hp ▸ List.mem_of_getElem? hs', hafter, hbefore⟩
  rw [hs', Option.some_inj]
  constructor
  · rintro rfl
    exact hbegins
  · exact hbegins.unique

theorem sentence_eq_iff (hp : p.sentences = Text.sentences p.text)
    (hc : c ∈ p.candidates v ignored) (hc' : c' ∈ p.candidates v ignored) (hs : p.BeginsIn c s) :
    c'.sentence = c.sentence ↔ p.BeginsIn c' s := by
  have hpairwise := Text.pairwise_sentences p.text
  have hne : ¬s.2 ≤ s.1 := Nat.not_le.2 (Nat.lt_of_le_of_lt hs.after hs.before)
  rw [← hp] at hpairwise
  rw [← getElem?_sentence_iff hp hc] at hs
  rw [← getElem?_sentence_iff hp hc']
  constructor
  · intro heq
    rw [heq, hs]
  · intro hs'
    exact Lists.eq_of_getElem?_of_pairwise hpairwise hne hs' hs

/-- All names in the sentence are the same, and the candidate is the first of them. -/
structure IsSoleName (p : Paragraph) (candidates : List Candidate) (c : Candidate)
    (s : Nat × Nat) : Prop where
  same : ∀ c' ∈ candidates, p.BeginsIn c' s → c'.name = c.name
  first : ∀ c' ∈ candidates, p.BeginsIn c' s → c.start ≤ c'.start

theorem isSoleName_iff (hp : p.sentences = Text.sentences p.text) (hc : c ∈ p.candidates v ignored)
    (hs : p.BeginsIn c s) {siblings : List Candidate}
    (hsiblings : siblings = (p.candidates v ignored).filter (·.sentence == c.sentence)) :
    (siblings.all (·.name == c.name) && siblings.head? == some c) = true ↔
      p.IsSoleName (p.candidates v ignored) c s := by
  have hsentence {c' : Candidate} (hc' : c' ∈ p.candidates v ignored) :
      (c'.sentence == c.sentence) = true ↔ p.BeginsIn c' s := by
    rw [beq_iff_eq]
    exact sentence_eq_iff hp hc hc' hs
  have hsame : (∀ c' ∈ siblings, c'.name = c.name) ↔
      ∀ c' ∈ p.candidates v ignored, p.BeginsIn c' s → c'.name = c.name := by
    rw [hsiblings]
    simp only [List.mem_filter, and_imp]
    exact forall₂_congr fun c' hc' => imp_congr (hsentence hc') Iff.rfl
  have hfirst : siblings.head? = some c ↔
      ∀ c' ∈ p.candidates v ignored, p.BeginsIn c' s → c.start ≤ c'.start := by
    rw [hsiblings, List.head?_filter, Lists.find?_eq_some_iff_of_pairwise
      (fun _ _ => Nat.lt_asymm) (pairwise_candidates hp)]
    simp only [hc, beq_self_eq_true, true_and, Nat.not_lt]
    exact forall₂_congr fun c' hc' => imp_congr (hsentence hc') Iff.rfl
  simp only [Bool.and_eq_true, List.all_eq_true, beq_iff_eq, hsame, hfirst]
  constructor
  · rintro ⟨hsame, hfirst⟩
    exact ⟨hsame, hfirst⟩
  · rintro ⟨hsame, hfirst⟩
    exact ⟨hsame, hfirst⟩

/-- What follows a name counts if it is the first of a sentence with no other name. -/
theorem evidenceFor_cases (hp : p.sentences = Text.sentences p.text)
    (hc : c ∈ p.candidates v ignored) (hs : p.BeginsIn c s) :
    p.IsSoleName (p.candidates v ignored) c s ∧
        p.evidenceFor (p.candidates v ignored) c = evidenceBetween p.text c.stop s.2 ∨
      ¬p.IsSoleName (p.candidates v ignored) c s ∧
        p.evidenceFor (p.candidates v ignored) c = [] := by
  have hsole := isSoleName_iff hp hc hs rfl
  rw [evidenceFor, (getElem?_sentence_iff hp hc).2 hs, Option.elim_some]
  by_cases h : p.IsSoleName (p.candidates v ignored) c s
  · exact .inl ⟨h, if_pos (hsole.2 h)⟩
  · exact .inr ⟨h, if_neg (mt hsole.1 h)⟩

/-- No letter follows a candidate. -/
theorem not_letterAt_stop (hp : p.sentences = Text.sentences p.text)
    (hc : c ∈ p.candidates v ignored) : ¬LetterAt p.text c.stop := by
  obtain ⟨s, hs, hc⟩ := exists_sentence_of_mem_candidates hc
  obtain ⟨made, hmade, hwords⟩ := exists_madeOf_of_mem_sentenceCandidates hc
  obtain ⟨w, hw, hstop⟩ := hmade.last
  rw [← hstop]
  rw [hp] at hs
  exact Text.not_letterAt_stop_of_mem_sentences (List.mem_of_getElem? hs)
    (hwords w (List.mem_of_mem_getLast? hw))

/-- The sets of pronouns that speak of a candidate are told if all names in its sentence are the
same and it is the first of them. They are those of the forms behind it in the sentence, without
repetition, in the order in which their first forms stand there. -/
structure TellsPronouns (p : Paragraph) (candidates : List Candidate) (c : Candidate)
    (s : Nat × Nat) (pronouns : List String) : Prop where
  told_iff : pronouns ≠ [] ↔
    p.IsSoleName candidates c s ∧ ∃ set w, IsEvidence p.text c.stop s.2 set w
  mem_iff : p.IsSoleName candidates c s →
    ∀ set, set ∈ pronouns ↔ ∃ w, IsEvidence p.text c.stop s.2 set w
  nodup : pronouns.Nodup
  ordered : pronouns.Pairwise fun a b => ∃ w, IsEvidence p.text c.stop s.2 a w ∧
    ∀ w', IsEvidence p.text c.stop s.2 b w' → w.start < w'.start

theorem tellsPronouns_evidenceFor (hp : p.sentences = Text.sentences p.text)
    (hc : c ∈ p.candidates v ignored) (hs : p.BeginsIn c s) :
    p.TellsPronouns (p.candidates v ignored) c s (p.evidenceFor (p.candidates v ignored) c) := by
  have hstart := not_letterAt_stop hp hc
  have hstop := Text.not_letterAt_of_mem_sentences hs.mem
  obtain ⟨hsole, heq⟩ | ⟨hother, heq⟩ := evidenceFor_cases hp hc hs
  · rw [heq]
    refine ⟨?_, fun _ set => mem_evidenceBetween hstart hstop, Lists.nodup_eraseDups _,
      pairwise_evidenceBetween hstart hstop⟩
    rw [Ne, List.eq_nil_iff_forall_not_mem, not_forall_not]
    simp only [hsole, true_and, mem_evidenceBetween hstart hstop]
  · rw [heq]
    refine ⟨?_, fun hsole => absurd hsole hother, List.nodup_nil, .nil⟩
    simp [hother]

end Paragraph

/-- A mention is that of a candidate, with the pronouns that speak of it. -/
structure Mention.TellsOf (m : Mention) (p : Paragraph) (candidates : List Candidate)
    (c : Candidate) : Prop where
  name : m.name = c.name
  offset : m.location.offset = ((p.offset + c.start : Nat) : Int)
  pronouns : ∃ s, p.BeginsIn c s ∧ p.TellsPronouns candidates c s m.pronouns

/-- The mentions of a file are those of its candidates, and each tells the pronouns that speak of
the name where it stands. -/
theorem mentions_tell_pronouns {e : Extractor} {d : Document} {notes : FileNotes}
    (h : FileNotes.ofDocument e d = .ok notes) :
    List.Forall₂ (fun found m =>
        m.TellsOf found.1 (found.1.candidates (vocabularyOf d) e.ignored) found.2)
      (candidatesOf e d) notes.mentions := by
  have hsentence : ∀ found ∈ candidatesOf e d, ∃ s, found.1.BeginsIn found.2 s ∧
      found.1.TellsPronouns (found.1.candidates (vocabularyOf d) e.ignored) found.2 s
        (found.1.evidenceFor (found.1.candidates (vocabularyOf d) e.ignored) found.2) := by
    rintro ⟨p, c⟩ hfound
    obtain ⟨hmem, hc⟩ := mem_candidatesOf.1 hfound
    have hp := Paragraph.sentences_of_mem_all hmem
    obtain ⟨s, hs, -⟩ := Paragraph.exists_sentence_of_mem_candidates hc
    have hbegins := (Paragraph.getElem?_sentence_iff hp hc).1 hs
    exact ⟨s, hbegins, Paragraph.tellsPronouns_evidenceFor hp hc hbegins⟩
  refine ((List.forall₂_and_left _ _).2 ⟨hsentence, FileNotes.forall₂_ofDocument h⟩).imp ?_
  rintro found m ⟨htells, isNew, rfl⟩
  exact ⟨rfl, rfl, htells⟩

/-- Two names in one sentence, and one that is alone in its sentence, with a quotation. -/
def rumour : List Char := "Ann said \"she\", but he and they knew he did. Bob met Cyd; he left.\n".toList

theorem rumour_mentions_tell_pronouns :
    ∃ d notes, (Document.ofContent {} ⟨.absolute, ["a.md"]⟩ "a.md" rumour).1 = .ok d ∧
      FileNotes.ofDocument ⟨⟨[]⟩, ⟨[]⟩, []⟩ d = .ok notes ∧
      notes.mentions.map (·.pronouns) = [["he", "they"], [], []] ∧
      List.Forall₂ (fun found m =>
          m.TellsOf found.1 (found.1.candidates (vocabularyOf d) []) found.2)
        (candidatesOf ⟨⟨[]⟩, ⟨[]⟩, []⟩ d) notes.mentions := by
  have hreads : (FileNotes.ofContent? ⟨⟨[]⟩, ⟨[]⟩, []⟩ rumour).any (fun notes =>
      notes.mentions.map (·.pronouns) == [["he", "they"], [], []]) = true := by decide +kernel
  obtain ⟨d, notes, hd, hnotes, hpronouns⟩ := FileNotes.exists_of_any_ofContent? hreads
  exact ⟨d, notes, hd, hnotes, eq_of_beq hpronouns, mentions_tell_pronouns hnotes⟩

/-! ## Words at the front of sentences -/

/-- A name with no blank in it is its first word. -/
theorem text_eq_of_single {words : List Word} {w : Word} (hw : w ∈ words.head?)
    (hsingle : ' ' ∉ (" ".intercalate (words.map (·.text))).toList) :
    " ".intercalate (words.map (·.text)) = w.text := by
  cases words with
  | nil => cases hw
  | cons first rest =>
      obtain rfl := Option.some.inj hw
      cases rest with
      | nil => rfl
      | cons second rest =>
          rw [String.toList_intercalate] at hsingle
          simp [List.intercalate] at hsingle

/-- A name of one word that only the front of a sentence shows is nowhere in lowercase. -/
theorem Paragraph.lower_name_not_mem {p : Paragraph} {v : Vocabulary} {ignored : List String}
    {c : Candidate} (hc : c ∈ p.candidates v ignored) (hinitial : c.initial = true)
    (hsingle : ' ' ∉ c.name.toList) : Text.lower c.name ∉ v.lowercase.map String.ofList := by
  obtain ⟨s, -, hc⟩ := exists_sentence_of_mem_candidates hc
  obtain ⟨run, -, opens, hmade⟩ := exists_run_of_mem_sentenceCandidates hc
  obtain ⟨words, -, hname, ⟨first, hfirst, -, hlower⟩, -⟩ := exists_words_of_candidateOf? hmade
  rw [hname] at hsingle
  rw [hname, text_eq_of_single hfirst hsingle, Text.lower, Word.text, String.toList_ofList]
  intro hmem
  obtain ⟨word, hword, heq⟩ := List.mem_map.1 hmem
  rw [String.ofList_inj] at heq
  exact hlower hinitial (heq ▸ hword)

section Kept

variable {e : Extractor} {d : Document} {notes : FileNotes} {all : List FileNotes} {m : Mention}

theorem FileNotes.lower_name_not_mem (h : ofDocument e d = .ok notes) (hm : m ∈ notes.mentions)
    (hinitial : m.sentenceInitial = true) (hsingle : ' ' ∉ m.name.toList) :
    Text.lower m.name ∉ notes.lowercaseWords := by
  obtain ⟨⟨p, c⟩, hfound, isNew, rfl⟩ := Lists.exists_of_mem_forall₂ (forall₂_ofDocument h) hm
  obtain ⟨-, hc⟩ := mem_candidatesOf.1 hfound
  obtain ⟨described, -, -, hwords, rfl⟩ := exists_of_ofDocument h
  rw [lowercaseWords_addParagraphs, hwords]
  exact Paragraph.lower_name_not_mem hc hinitial hsingle

/-- A name in a file is an ordinary word only on account of another file. -/
theorem IsOrdinary.exists_other (hordinary : IsOrdinary all m.name)
    (h : FileNotes.ofDocument e d = .ok notes) (hnotes : notes ∈ all) (hm : m ∈ notes.mentions) :
    ∃ g ∈ all, g ≠ notes ∧ Text.lower m.name ∈ g.lowercaseWords := by
  obtain ⟨g, hg, hlower⟩ := hordinary.lowercase
  refine ⟨g, hg, ?_, hlower⟩
  rintro rfl
  have hinitial := hordinary.sentenceInitial g hnotes m hm rfl
  exact FileNotes.lower_name_not_mem h hm hinitial hordinary.single hlower

theorem not_isOrdinary_of_ofDocument (h : FileNotes.ofDocument e d = .ok notes)
    (hm : m ∈ notes.mentions) : ¬IsOrdinary [notes] m.name := by
  intro hordinary
  obtain ⟨g, hg, hne, -⟩ := hordinary.exists_other h List.mem_cons_self hm
  exact hne (List.mem_singleton.1 hg)

/-- A state has a mention with its file, and its place with the character that its name resolves
to. -/
structure State.Keeps (s : State) (path : String) (m : Mention) : Prop where
  ofFile : m ∈ (s.mentions.lookup path).getD []
  ofCharacter : ∃ p, s.find? (s.canonical m.name) = some p ∧ m.location ∈ p.appearances

/-- The mentions that are kept are those that count. -/
theorem keeps_iff (settings : Settings) {f : FileNotes} (hf : f ∈ all) (hm : m ∈ f.mentions) :
    (State.ofNotes settings all).Keeps f.path m ↔ ¬IsOrdinary all m.name := by
  have hledger := ledger_ofNotes settings all
  constructor
  · intro h
    obtain ⟨g, -, -, -, hcounts⟩ := mem_entriesOf.1 (hledger.mem_mentions.1 h.ofFile)
    exact hcounts
  · intro hcounts
    have hentry : (f.path, m) ∈ entriesOf all := mem_entriesOf.2 ⟨f, hf, rfl, hm, hcounts⟩
    obtain ⟨p, hp, hname⟩ := hledger.known _ hentry
    exact ⟨hledger.mem_mentions.2 hentry, p, hledger.find?_eq_some_iff.2 ⟨hp, hname⟩,
      (hledger.mem_appearances hp).2 ⟨_, hentry, hname.symm, rfl⟩⟩

/-- The state of notes in which no name is an ordinary word has all mentions. -/
theorem mentions_ofNotes_singleton (settings : Settings) {f : FileNotes}
    (hcounts : ∀ m ∈ f.mentions, ¬IsOrdinary [f] m.name) :
    ((State.ofNotes settings [f]).mentions.lookup f.path).getD [] =
      State.sortMentions f.mentions := by
  have hsorted : State.sortNotes [f] = [f] := List.mergeSort_singleton f
  have hkept : keptMentions (State.ordinaryWords [f]) f = State.sortMentions f.mentions := by
    refine List.filter_eq_self.2 fun m hm => ?_
    have hm := hcounts m (State.mem_sortMentions.1 hm)
    simpa [State.mem_ordinaryWords] using hm
  have hfile : ∀ entry ∈ (State.sortMentions f.mentions).map (f.path, ·),
      (entry.1 == f.path) = true := by
    simp
  rw [(ledger_ofNotes settings [f]).mentions, entriesOf, hsorted, List.flatMap_singleton,
    keptEntries, hkept, List.filter_eq_self.2 hfile, List.map_map]
  exact List.map_id _

/-- The state of the notes on one file keeps all its mentions. In a state of more files a mention
is dropped only if another file has the name in lowercase. -/
theorem mentions_kept (settings : Settings) (h : FileNotes.ofDocument e d = .ok notes) :
    (((State.ofNotes settings [notes]).mentions.lookup notes.path).getD []).Perm notes.mentions ∧
    (∀ m ∈ notes.mentions, (State.ofNotes settings [notes]).Keeps notes.path m) ∧
    ∀ all, notes ∈ all → ∀ m ∈ notes.mentions,
      (State.ofNotes settings all).Keeps notes.path m ∨
        ∃ g ∈ all, g ≠ notes ∧ Text.lower m.name ∈ g.lowercaseWords := by
  have hcounts : ∀ m ∈ notes.mentions, ¬IsOrdinary [notes] m.name := fun m hm =>
    not_isOrdinary_of_ofDocument h hm
  refine ⟨?_, fun m hm => ?_, fun all hnotes m hm => ?_⟩
  · rw [mentions_ofNotes_singleton settings hcounts]
    exact List.mergeSort_perm _ _
  · exact (keeps_iff settings List.mem_cons_self hm).2 (hcounts m hm)
  · by_cases hordinary : IsOrdinary all m.name
    · exact .inr (hordinary.exists_other h hnotes hm)
    · exact .inl ((keeps_iff settings hnotes hm).2 hordinary)

end Kept

/-- Names at the front of sentences, one of which is also a word. -/
def weather : List Char := "Rain fell. Ann slept.\n".toList

/-- "Rain" is kept, but not if another file has it in lowercase. -/
theorem weather_mentions_kept :
    let other : FileNotes := { path := "b.md", lowercaseWords := ["rain"] }
    ∃ d notes, (Document.ofContent {} ⟨.absolute, ["a.md"]⟩ "a.md" weather).1 = .ok d ∧
      FileNotes.ofDocument ⟨⟨[]⟩, ⟨[]⟩, []⟩ d = .ok notes ∧
      ((((State.ofNotes {} [notes]).mentions.lookup notes.path).getD []).map (·.name)).Perm
        ["Rain", "Ann"] ∧
      (∀ m ∈ notes.mentions, (State.ofNotes {} [notes]).Keeps notes.path m) ∧
      ∃ m ∈ notes.mentions, ¬(State.ofNotes {} [notes, other]).Keeps notes.path m := by
  intro other
  have hreads : (FileNotes.ofContent? ⟨⟨[]⟩, ⟨[]⟩, []⟩ weather).any (fun notes =>
      notes.mentions.map (·.name) == ["Rain", "Ann"] &&
        notes.mentions.any fun m => IsOrdinary [notes, other] m.name) = true := by decide +kernel
  obtain ⟨d, notes, hd, hnotes, hcheck⟩ := FileNotes.exists_of_any_ofContent? hreads
  obtain ⟨hnames, hordinary⟩ := (Bool.and_eq_true _ _).mp hcheck
  obtain ⟨hperm, hkept, -⟩ := mentions_kept {} hnotes
  refine ⟨d, notes, hd, hnotes, eq_of_beq hnames ▸ hperm.map _, hkept, ?_⟩
  obtain ⟨m, hm, hordinary⟩ := List.any_eq_true.1 hordinary
  refine ⟨m, hm, fun hkeeps => ?_⟩
  exact (keeps_iff {} List.mem_cons_self hm).1 hkeeps (of_decide_eq_true hordinary)

end Continuity.Character
