import Continuity.Character.Notes
import Continuity.Proofs.Character.Candidate
import Continuity.Proofs.Character.Paragraph
import Continuity.Proofs.Character.Rules
import Continuity.Proofs.Data.Lists
import Continuity.Proofs.Document.Content

/-! # Where mentions stand

Every mention of a name in a file points at the words of the name in the source, and the mentions of
a file stand in it one after another.
-/

namespace Continuity.Character

open Text (Word slice)

/-- A mention is made of words of the source, which stand in a paragraph one after another, with
nothing but blanks between them in its text. The mention gives the place of the first word, and the
end of the last one if that is on the same line. -/
structure Mention.PointsAt (content : List Char) (p : Paragraph) (m : Mention)
    (words : List Word) : Prop where
  name : m.name = " ".intercalate (words.map (·.text))
  letters : ∀ w ∈ words, w.letters ≠ [] ∧ ∀ c ∈ w.letters, Text.isWordLetter c = true
  source : ∀ w ∈ words, slice w.start w.stop content = w.letters
  inside : ∀ w ∈ words, p.offset ≤ w.start ∧ w.stop ≤ p.offset + p.text.length
  follow : words.IsChain fun a b => a.stop < b.start ∧
    (slice (a.stop - p.offset) (b.start - p.offset) p.text).all Text.isBlank = true
  first : ∃ w ∈ words.head?, m.location.offset = w.start ∧
    m.location.line = ((Text.LineIndex.ofText content).locate w.start).1 ∧
    m.location.column = ((Text.LineIndex.ofText content).locate w.start).2
  last : ∃ w ∈ words.getLast?, m.endColumn =
    let stop := (Text.LineIndex.ofText content).locate w.stop
    if (stop.1 : Int) = m.location.line then some (stop.2 : Int) else none

namespace Paragraph

variable {content : List Char} {p : Paragraph} {e : Extractor} {d : Document}
  {candidates : List Candidate} {c : Candidate} {made : List Word}

/-- A word of the paragraph's text, as a word of the source. -/
def inSource (p : Paragraph) (w : Word) : Word := ⟨p.offset + w.start, w.letters⟩

theorem stop_inSource (p : Paragraph) (w : Word) : (p.inSource w).stop = p.offset + w.stop :=
  Nat.add_assoc _ _ _

theorem apart_of_follows {text : List Char} {a b : Word} (h : Follows text a b) :
    a.stop < b.start ∧ (slice a.stop b.start text).all Text.isBlank = true := by
  rw [Follows, Text.isBlankRun, Bool.and_eq_true] at h
  refine ⟨Nat.lt_of_not_le fun hle => ?_, h.2⟩
  rw [slice, Nat.sub_eq_zero_of_le hle] at h
  cases h.1

/-- The mention that a candidate is points at the candidate's words. -/
theorem pointsAt_mentionOf (hp : p.Faithful content) (hindex : d.index = .ofText content)
    (hc : c.MadeOf p.text made) (isNew : Bool) :
    (p.mentionOf e d candidates isNew c).PointsAt content p (made.map p.inSource) := by
  have hstands : ∀ w ∈ made.map p.inSource, w.StandsIn content := by
    intro w hw
    obtain ⟨v, hv, rfl⟩ := List.mem_map.1 hw
    exact hp.text.standsIn (hc.standIn v hv)
  refine ⟨?_, fun w hw => ⟨(hstands w hw).nonempty, (hstands w hw).isWordLetter⟩,
    fun w hw => (hstands w hw).slice_eq, fun w hw => ?_, ?_, ?_, ?_⟩
  · rw [List.map_map]
    exact hc.name
  · obtain ⟨v, hv, rfl⟩ := List.mem_map.1 hw
    rw [stop_inSource]
    exact ⟨Nat.le_add_right _ _, Nat.add_le_add_left (hc.standIn v hv).stop_le_length _⟩
  · refine (List.isChain_map _).2 (hc.follow.imp fun a b hfollows => ?_)
    obtain ⟨hlt, hblank⟩ := apart_of_follows hfollows
    rw [stop_inSource]
    refine ⟨Nat.add_lt_add_left hlt _, ?_⟩
    rwa [Nat.add_sub_cancel_left, inSource, Nat.add_sub_cancel_left]
  · obtain ⟨w, hw, hstart⟩ := hc.first
    refine ⟨p.inSource w, by rw [List.head?_map, hw]; rfl, ?_⟩
    rw [mentionOf, Location.of, ← hstart, hindex]
    exact ⟨rfl, rfl, rfl⟩
  · obtain ⟨w, hw, hstop⟩ := hc.last
    refine ⟨p.inSource w, by rw [List.getLast?_map, hw]; rfl, ?_⟩
    rw [stop_inSource, mentionOf, Location.of, Location.of, hstop, hindex]
    simp only [beq_iff_eq]

/-! ## Mentions of a paragraph -/

/-- Each candidate makes one mention. -/
theorem forall₂_mentions (seen : List String) (cs : List Candidate) :
    List.Forall₂ (fun c m => ∃ isNew, m = p.mentionOf e d candidates isNew c) cs
      (p.mentions e d candidates seen cs) := by
  induction cs generalizing seen with
  | nil => exact .nil
  | cons c rest ih => exact .cons ⟨_, rfl⟩ (ih _)

end Paragraph

/-! ## Mentions of a file -/

/-- The vocabulary of a document. -/
def vocabularyOf (d : Document) : Vocabulary := .ofParagraphs (Paragraph.all d.content d.root)

/-- The candidates of a document, each with its paragraph, in the order of the text. -/
def candidatesOf (e : Extractor) (d : Document) : List (Paragraph × Candidate) :=
  (Paragraph.all d.content d.root).flatMap fun p =>
    (p.candidates (vocabularyOf d) e.ignored).map (p, ·)

theorem mem_candidatesOf {e : Extractor} {d : Document} {p : Paragraph} {c : Candidate} :
    (p, c) ∈ candidatesOf e d ↔
      p ∈ Paragraph.all d.content d.root ∧ c ∈ p.candidates (vocabularyOf d) e.ignored := by
  simp [candidatesOf]

namespace FileNotes

variable {notes notes' : FileNotes} {e : Extractor} {d : Document}

@[simp] theorem path_addParagraphs (previous : List Candidate)
    (ps : List (Paragraph × List Candidate)) :
    (notes.addParagraphs e d previous ps).path = notes.path := by
  induction ps generalizing notes previous with
  | nil => rfl
  | cons found rest ih => rw [addParagraphs, ih, addParagraph]

@[simp] theorem lowercaseWords_addParagraphs (previous : List Candidate)
    (ps : List (Paragraph × List Candidate)) :
    (notes.addParagraphs e d previous ps).lowercaseWords = notes.lowercaseWords := by
  induction ps generalizing notes previous with
  | nil => rfl
  | cons found rest ih => rw [addParagraphs, ih, addParagraph]

/-- The candidates of each paragraph make the mentions that it adds. -/
theorem forall₂_addParagraphs (notes : FileNotes) (candidates : Paragraph → List Candidate)
    (previous : List Candidate) (ps : List Paragraph) :
    ∃ mentions, (notes.addParagraphs e d previous (ps.map fun p => (p, candidates p))).mentions =
        notes.mentions ++ mentions ∧
      List.Forall₂ (fun (found : Paragraph × Candidate) m => ∃ isNew,
          m = found.1.mentionOf e d (candidates found.1) isNew found.2)
        (ps.flatMap fun p => (candidates p).map (p, ·)) mentions := by
  induction ps generalizing notes previous with
  | nil => exact ⟨[], (List.append_nil _).symm, .nil⟩
  | cons p rest ih =>
      obtain ⟨later, hlater, hrest⟩ := ih (notes.addParagraph e d previous p (candidates p))
        (previous ++ candidates p)
      refine ⟨p.mentions e d (candidates p) (previous.map (·.name)) (candidates p) ++ later, ?_, ?_⟩
      · rw [List.map_cons, addParagraphs, hlater, addParagraph, List.append_assoc]
      · rw [List.flatMap_cons]
        refine List.rel_append (List.forall₂_map_left_iff.2 ?_) hrest
        dsimp only
        exact Paragraph.forall₂_mentions _ _

/-- What front matter describes says nothing of mentions and words. -/
theorem described_eq {described : List (String × List (Value × Value))}
    (h : described.foldlM (fun notes (name, entries) => notes.addDescription name entries) notes =
      .ok notes') : ∃ aliases declaredPronouns relationships,
        notes' = { notes with aliases, declaredPronouns, relationships } := by
  induction described generalizing notes with
  | nil =>
      cases h
      exact ⟨_, _, _, rfl⟩
  | cons found rest ih =>
      rw [List.foldlM_cons] at h
      obtain ⟨first, hfirst, h⟩ := bind_eq_ok_iff.1 h
      obtain ⟨others, -, hfirst⟩ := bind_eq_ok_iff.1 hfirst
      cases hfirst
      obtain ⟨aliases, declaredPronouns, relationships, rfl⟩ := ih h
      exact ⟨_, _, _, rfl⟩

/-- The notes on a document are those on its front matter with those on its paragraphs. -/
theorem exists_of_ofDocument (h : ofDocument e d = .ok notes) :
    ∃ described : FileNotes, described.path = d.name ∧ described.mentions = [] ∧
      described.lowercaseWords = (vocabularyOf d).lowercase.map String.ofList ∧
      notes = described.addParagraphs e d [] ((Paragraph.all d.content d.root).map fun p =>
        (p, p.candidates (vocabularyOf d) e.ignored)) := by
  obtain ⟨described, hdescribed, h⟩ := bind_eq_ok_iff.1 h
  obtain ⟨aliases, declaredPronouns, relationships, rfl⟩ := described_eq hdescribed
  cases h
  exact ⟨_, rfl, rfl, rfl, rfl⟩

/-- Each candidate of a document makes one mention in the notes on it. -/
theorem forall₂_ofDocument (h : ofDocument e d = .ok notes) :
    List.Forall₂ (fun (found : Paragraph × Candidate) m => ∃ isNew, m = found.1.mentionOf e d
      (found.1.candidates (vocabularyOf d) e.ignored) isNew found.2) (candidatesOf e d)
      notes.mentions := by
  obtain ⟨described, -, hnone, -, rfl⟩ := exists_of_ofDocument h
  obtain ⟨mentions, hmentions, hmade⟩ := forall₂_addParagraphs (e := e) (d := d) described
    (fun p => p.candidates (vocabularyOf d) e.ignored) [] (Paragraph.all d.content d.root)
  rw [hmentions, hnone]
  exact hmade

end FileNotes

/-- Every mention in a file points at its source, and the mentions stand there one after another,
if the lines of the file's blocks lie one inside another and one after another. -/
theorem mentions_point_at_source {session : Yaml.Session} {path : Path} {name : String}
    {content : List Char} {d : Document} {e : Extractor} {notes : FileNotes} {stop : Nat}
    (hd : (Document.ofContent session path name content).1 = .ok d)
    (hblocks : Markdown.Block.AllNested 0 stop (Markdown.parseBlocks
      (Document.blankUpTo (Document.splitFrontMatter content).2 content)))
    (hnotes : FileNotes.ofDocument e d = .ok notes) :
    (∀ m ∈ notes.mentions, ∃ p ∈ Paragraph.all d.content d.root, ∃ words,
      m.PointsAt content p words) ∧
    notes.mentions.Pairwise fun a b => a.location.offset < b.location.offset := by
  obtain ⟨rfl, hindex, hroot⟩ := Document.content_of_ofContent hd
  have hmentions := FileNotes.forall₂_ofDocument hnotes
  have hordered := Paragraph.ordered_all (Document.index_blankUpTo _ d.content) hblocks
  rw [← hroot] at hordered
  refine ⟨fun m hm => ?_, ?_⟩
  · obtain ⟨⟨p, c⟩, hfound, isNew, rfl⟩ := Lists.exists_of_mem_forall₂ hmentions hm
    obtain ⟨hp, hc⟩ := mem_candidatesOf.1 hfound
    obtain ⟨made, hmade⟩ := Paragraph.exists_madeOf_of_mem_candidates hc
    exact ⟨p, hp, _, Paragraph.pointsAt_mentionOf (hordered.between p hp).toFaithful hindex
      hmade isNew⟩
  · have hoffsets : notes.mentions.map (·.location.offset) =
        (candidatesOf e d).map fun found => ((found.1.offset + found.2.start : Nat) : Int) := by
      refine (Lists.map_eq_of_forall₂ hmentions ?_).symm
      rintro ⟨p, c⟩ m ⟨isNew, rfl⟩
      rfl
    rw [← List.pairwise_map, hoffsets, candidatesOf, List.map_flatMap]
    simp only [List.map_map]
    refine List.pairwise_flatMap.2 ⟨fun p hp => List.pairwise_map.2 ?_, hordered.pairwise.imp ?_⟩
    · refine (Paragraph.pairwise_candidates (hordered.between p hp).sentences).imp fun hlt => ?_
      exact Int.ofNat_lt.2 (Nat.add_lt_add_left hlt _)
    · intro p q hapart a ha b hb
      obtain ⟨c, hc, rfl⟩ := List.mem_map.1 ha
      obtain ⟨c', -, rfl⟩ := List.mem_map.1 hb
      obtain ⟨made, hmade⟩ := Paragraph.exists_madeOf_of_mem_candidates hc
      have hlength := hmade.start_lt_length
      dsimp only [Function.comp_apply]
      omega

/-- The notes on a file of its own, if it can be read. -/
def FileNotes.ofContent? (e : Extractor) (content : List Char) : Option FileNotes :=
  match (Document.ofContent {} ⟨.absolute, ["a.md"]⟩ "a.md" content).1 with
  | .ok d => (ofDocument e d).toOption
  | .error _ => none

theorem FileNotes.exists_of_any_ofContent? {e : Extractor} {content : List Char}
    {check : FileNotes → Bool} (h : (ofContent? e content).any check = true) :
    ∃ d notes, (Document.ofContent {} ⟨.absolute, ["a.md"]⟩ "a.md" content).1 = .ok d ∧
      ofDocument e d = .ok notes ∧ check notes = true := by
  obtain ⟨notes, hnotes, hcheck⟩ := (Option.any_eq_true _ _).mp h
  rw [ofContent?] at hnotes
  split at hnotes
  next d hd =>
    cases hfound : ofDocument e d with
    | error e => simp [hfound, Except.toOption] at hnotes
    | ok found =>
        rw [hfound] at hnotes
        obtain rfl := Option.some.inj hnotes
        exact ⟨d, found, hd, hfound, hcheck⟩
  next => cases hnotes

/-- A file with front matter and a name that goes on in the next line of a quotation. -/
def letter : List Char := "---\ntitle: Post\n---\n\n> Then *Ann\n> Smith* met Bob.\n".toList

theorem letter_mentions_point_at_source :
    Markdown.Block.AllNested 0 6 (Markdown.parseBlocks
      (Document.blankUpTo (Document.splitFrontMatter letter).2 letter)) ∧
    ∃ d notes, (Document.ofContent {} ⟨.absolute, ["a.md"]⟩ "a.md" letter).1 = .ok d ∧
      FileNotes.ofDocument ⟨⟨[]⟩, ⟨[]⟩, []⟩ d = .ok notes ∧
      notes.mentions.map (·.name) = ["Ann Smith", "Bob"] ∧
      (∀ m ∈ notes.mentions, ∃ p ∈ Paragraph.all d.content d.root, ∃ words,
        m.PointsAt letter p words) ∧
      notes.mentions.Pairwise fun a b => a.location.offset < b.location.offset := by
  have hblocks : Markdown.Block.AllNested 0 6 (Markdown.parseBlocks
      (Document.blankUpTo (Document.splitFrontMatter letter).2 letter)) := by decide +kernel
  have hreads : (FileNotes.ofContent? ⟨⟨[]⟩, ⟨[]⟩, []⟩ letter).any (fun notes =>
      notes.mentions.map (·.name) == ["Ann Smith", "Bob"]) = true := by decide +kernel
  obtain ⟨d, notes, hd, hnotes, hnames⟩ := FileNotes.exists_of_any_ofContent? hreads
  exact ⟨hblocks, d, notes, hd, hnotes, eq_of_beq hnames,
    mentions_point_at_source hd hblocks hnotes⟩

end Continuity.Character
