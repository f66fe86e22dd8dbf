import Continuity.Link.Page
import Continuity.Proofs.Character.Place

/-! # What front matter costs a file

Whatever the shape of its front matter, the notes on a file tell the same of its text as they do
without front matter, and its page has the same links and headings. Only other names that are given
by one number, truth value or time cost the file its notes: that is no text and has no members.
-/

namespace Continuity.Character

variable {frontMatter entries : List (Value × Value)} {name : String}

/-! ## What front matter describes -/

/-- Front matter describes a character by entries, under its name or among others. -/
inductive IsDescribed (frontMatter : List (Value × Value)) :
    String → List (Value × Value) → Prop
  | under {characters entries : List (Value × Value)} {key : Value}
      (found : Value.lookup (.text "characters") frontMatter = some (.map characters))
      (mem : (key, .map entries) ∈ characters) : IsDescribed frontMatter key.display entries
  | among {items : List Value} {entries : List (Value × Value)} {name : Value}
      (found : Value.lookup (.text "characters") frontMatter = some (.list items))
      (mem : .map entries ∈ items) (named : Value.lookup (.text "name") entries = some name)
      (nonempty : name.isEmpty = false) : IsDescribed frontMatter name.display entries

/-- A value that is present, but neither is a text nor has members. -/
inductive IsLone : Value → Prop
  | bool : IsLone (.bool true)
  | int {n : Int} (nonzero : n ≠ 0) : IsLone (.int n)
  | float {x : Float} (nonzero : (x == 0.0) = false) : IsLone (.float x)
  | date (d : Date) : IsLone (.date d)
  | moment (m : Moment) : IsLone (.moment m)

theorem isLone_iff {v : Value} :
    IsLone v ↔ v.isEmpty = false ∧ v.members? = none ∧ ∀ s, v ≠ .text s := by
  constructor
  · rintro (_ | hnonzero | hnonzero | _ | _) <;> simp_all [Value.isEmpty, Value.members?]
  · rintro ⟨hpresent, hnone, htext⟩
    cases v with
    | bool b =>
        obtain rfl : b = true := by simpa [Value.isEmpty] using hpresent
        exact .bool
    | int n => exact .int (by simpa [Value.isEmpty] using hpresent)
    | float x => exact .float hpresent
    | text s => exact absurd rfl (htext s)
    | date d => exact .date d
    | moment m => exact .moment m
    | _ => simp_all [Value.isEmpty, Value.members?]

namespace FileNotes

theorem mem_describedCharacters_iff :
    (name, entries) ∈ describedCharacters frontMatter ↔ IsDescribed frontMatter name entries := by
  constructor
  · intro h
    unfold describedCharacters at h
    split at h
    next characters hfound =>
      obtain ⟨⟨key, v⟩, hmem, hentry⟩ := List.mem_filterMap.1 h
      cases v with
      | map below =>
          obtain ⟨rfl, rfl⟩ := Prod.mk.inj (Option.some.inj hentry)
          exact .under hfound hmem
      | _ => cases hentry
    next items hfound =>
      obtain ⟨v, hmem, hentry⟩ := List.mem_filterMap.1 h
      cases v with
      | map below =>
          cases hnamed : Value.lookup (.text "name") below with
          | none => simp [hnamed] at hentry
          | some found =>
              cases hempty : found.isEmpty with
              | true => simp [hnamed, hempty] at hentry
              | false =>
                  obtain ⟨rfl, rfl⟩ : found.display = name ∧ below = entries := by
                    simpa [hnamed, hempty] using hentry
                  exact .among hfound hmem hnamed hempty
      | _ => cases hentry
    next => cases h
  · rintro (⟨hfound, hmem⟩ | ⟨hfound, hmem, hnamed, hnonempty⟩)
    · rw [describedCharacters, hfound]
      exact List.mem_filterMap.2 ⟨_, hmem, rfl⟩
    · rw [describedCharacters, hfound]
      exact List.mem_filterMap.2 ⟨_, hmem, by simp [hnamed, hnonempty]⟩

/-- Other names cannot be told where they are given by a value that stands alone. -/
theorem describedAliases_eq_error_iff {fault : NotesFault} :
    describedAliases entries = .error fault ↔
      ∃ v, Value.lookup (.text "aliases") entries = some v ∧ IsLone v ∧
        fault = .notIterable v.kindName := by
  rw [describedAliases]
  cases Value.lookup (.text "aliases") entries with
  | none => simp
  | some v =>
      simp only [Option.some_inj, exists_eq_left', isLone_iff]
      split
      next hempty => simp [hempty]
      next hpresent =>
        split
        next s => simp
        next _ htext =>
          have hlone : (v.isEmpty = false ∧ v.members? = none ∧ ∀ s, v ≠ .text s) ↔
              v.members? = none := by
            simpa [hpresent] using fun _ => htext
          rw [hlone]
          cases v.members? with
          | none => simp [@eq_comm _ fault]
          | some members => simp

/-- Why the other names that a description gives cannot be told. -/
def aliasesFault? (entries : List (Value × Value)) : Option NotesFault :=
  match describedAliases entries with
  | .ok _ => none
  | .error fault => some fault

theorem aliasesFault?_eq_some_iff {fault : NotesFault} :
    aliasesFault? entries = some fault ↔ describedAliases entries = .error fault := by
  rw [aliasesFault?]
  split
  next hok => simp [hok]
  next herror => simp [herror]

theorem addDescription_eq_error_iff {notes : FileNotes} {fault : NotesFault} :
    notes.addDescription name entries = .error fault ↔ aliasesFault? entries = some fault := by
  rw [aliasesFault?_eq_some_iff, addDescription, bind_eq_error_iff]
  simp [pure, Except.pure]

variable {e : Extractor} {d : Document} {notes : FileNotes} {fault : NotesFault}

/-- The first character with other names that cannot be told costs a document its notes. -/
theorem ofDocument_eq_error_iff : ofDocument e d = .error fault ↔
    ((describedCharacters d.frontMatter).filter fun found =>
      !e.ignored.contains (Text.fold found.1)).findSome? (fun found => aliasesFault? found.2) =
        some fault := by
  have hstep (notes : FileNotes) (found : String × List (Value × Value)) (fault : NotesFault) :
      notes.addDescription found.1 found.2 = .error fault ↔
        aliasesFault? found.2 = some fault :=
    addDescription_eq_error_iff
  rw [ofDocument, bind_eq_error_iff, or_iff_left]
  · exact foldlM_eq_error_iff hstep
  · rintro ⟨_, -, hnone⟩
    cases hnone

/-- A character that is not ignored has other names given by a value that stands alone. -/
def HasLoneAliases (e : Extractor) (d : Document) (v : Value) : Prop :=
  ∃ name entries, IsDescribed d.frontMatter name entries ∧ Text.fold name ∉ e.ignored ∧
    Value.lookup (.text "aliases") entries = some v ∧ IsLone v

theorem exists_lone_of_error (h : ofDocument e d = .error fault) :
    ∃ v, HasLoneAliases e d v ∧ fault = .notIterable v.kindName := by
  obtain ⟨⟨name, entries⟩, hfound, hfault⟩ :=
    List.exists_of_findSome?_eq_some (ofDocument_eq_error_iff.1 h)
  obtain ⟨hmem, hkept⟩ := List.mem_filter.1 hfound
  rw [aliasesFault?_eq_some_iff, describedAliases_eq_error_iff] at hfault
  obtain ⟨v, hlookup, hlone, rfl⟩ := hfault
  have hdescribed := mem_describedCharacters_iff.1 hmem
  exact ⟨v, ⟨name, entries, hdescribed, by simpa using hkept, hlookup, hlone⟩, rfl⟩

theorem exists_error_of_lone {v : Value} (h : HasLoneAliases e d v) :
    ∃ fault, ofDocument e d = .error fault := by
  obtain ⟨name, entries, hdescribed, hkept, hlookup, hlone⟩ := h
  have herror : describedAliases entries = .error (.notIterable v.kindName) :=
    describedAliases_eq_error_iff.2 ⟨v, hlookup, hlone, rfl⟩
  simp only [ofDocument_eq_error_iff, ← Option.isSome_iff_exists, List.findSome?_isSome_iff]
  refine ⟨(name, entries), List.mem_filter.2 ⟨?_, by simpa using hkept⟩, ?_⟩
  · exact mem_describedCharacters_iff.2 hdescribed
  · rw [aliasesFault?_eq_some_iff.2 herror]
    rfl

/-- Notes can be taken on a document unless a character has other names that stand alone. -/
theorem exists_ofDocument_iff :
    (∃ notes, ofDocument e d = .ok notes) ↔ ∀ v, ¬HasLoneAliases e d v := by
  constructor
  · rintro ⟨notes, hnotes⟩ v hv
    obtain ⟨fault, hfault⟩ := exists_error_of_lone hv
    rw [hnotes] at hfault
    cases hfault
  · intro hnone
    cases hnotes : ofDocument e d with
    | ok notes => exact ⟨notes, rfl⟩
    | error fault =>
        obtain ⟨v, hv, -⟩ := exists_lone_of_error hnotes
        exact absurd hv (hnone v)

end FileNotes

/-! ## What the text says -/

variable {e : Extractor} {d : Document} {notes : FileNotes}

/-- A document without its front matter. -/
def bare (d : Document) : Document := { d with frontMatter := [] }

theorem Paragraph.mentions_bare (p : Paragraph) (candidates : List Candidate) (seen : List String)
    (cs : List Candidate) :
    p.mentions e (bare d) candidates seen cs = p.mentions e d candidates seen cs := by
  induction cs generalizing seen with
  | nil => rfl
  | cons c rest ih => exact congrArg _ (ih _)

namespace FileNotes

theorem addParagraphs_bare (notes : FileNotes) (previous : List Candidate)
    (ps : List (Paragraph × List Candidate)) :
    notes.addParagraphs e (bare d) previous ps = notes.addParagraphs e d previous ps := by
  induction ps generalizing notes previous with
  | nil => rfl
  | cons found rest ih =>
      have hfirst : notes.addParagraph e (bare d) previous found.1 found.2 =
          notes.addParagraph e d previous found.1 found.2 := by
        rw [addParagraph, Paragraph.mentions_bare]
        rfl
      rw [addParagraphs, hfirst, ih, addParagraphs]

/-- What paragraphs add does not depend on what has been noted before. -/
theorem exists_addParagraphs (e : Extractor) (d : Document) (previous : List Candidate)
    (ps : List (Paragraph × List Candidate)) :
    ∃ mentions aliases changes, ∀ notes : FileNotes,
      notes.addParagraphs e d previous ps = { notes with
        mentions := notes.mentions ++ mentions
        aliases := notes.aliases ++ aliases
        pronounChanges := notes.pronounChanges ++ changes } := by
  induction ps generalizing previous with
  | nil => exact ⟨[], [], [], fun notes => by simp [addParagraphs]⟩
  | cons found rest ih =>
      obtain ⟨p, candidates⟩ := found
      obtain ⟨mentions, aliases, changes, hrest⟩ := ih (previous ++ candidates)
      refine ⟨p.mentions e d candidates (previous.map (·.name)) candidates ++ mentions,
        p.joinedAliases d candidates ++ p.claimedAliases d candidates previous ++ aliases,
        p.pronounChanges d candidates previous ++ changes, fun notes => ?_⟩
      rw [addParagraphs, hrest, addParagraph]
      simp only [List.append_assoc]

/-- Notes tell of a text what other notes tell of it, perhaps with further names in front. -/
structure TellsTextOf (notes plain : FileNotes) : Prop where
  path : notes.path = plain.path
  mentions : notes.mentions = plain.mentions
  aliases : plain.aliases <:+ notes.aliases
  pronounChanges : notes.pronounChanges = plain.pronounChanges
  lowercaseWords : notes.lowercaseWords = plain.lowercaseWords

theorem exists_tellsTextOf (h : ofDocument e d = .ok notes) :
    ∃ plain, ofDocument e (bare d) = .ok plain ∧ notes.TellsTextOf plain := by
  obtain ⟨described, hdescribed, h⟩ := bind_eq_ok_iff.1 h
  obtain ⟨aliases, declaredPronouns, relationships, rfl⟩ := described_eq hdescribed
  let blank : FileNotes :=
    { path := d.name, lowercaseWords := (vocabularyOf d).lowercase.map String.ofList }
  let ps := (Paragraph.all d.content d.root).map fun p =>
    (p, p.candidates (vocabularyOf d) e.ignored)
  have hnotes : { blank with aliases, declaredPronouns, relationships }.addParagraphs e d [] ps =
      notes :=
    Except.ok.inj h
  have hplain : ofDocument e (bare d) = .ok (blank.addParagraphs e d [] ps) :=
    congrArg Except.ok (addParagraphs_bare blank [] ps)
  obtain ⟨mentions, others, changes, hadded⟩ := exists_addParagraphs e d [] ps
  rw [hadded] at hplain hnotes
  refine ⟨_, hplain, ?_⟩
  rw [← hnotes]
  exact ⟨rfl, rfl, List.suffix_append _ _, rfl, rfl⟩

end FileNotes

/-! ## Titles -/

/-- A value that can be a title. -/
inductive IsTitle : Value → Prop
  | text (s : String) : IsTitle (.text s)
  | bool (b : Bool) : IsTitle (.bool b)
  | int (n : Int) : IsTitle (.int n)
  | float (x : Float) : IsTitle (.float x)

theorem titleOfMatter?_eq_none_iff : Link.titleOfMatter? frontMatter = none ↔
    ∀ v, Value.lookup (.text "title") frontMatter = some v → ¬IsTitle v := by
  rw [Link.titleOfMatter?]
  cases Value.lookup (.text "title") frontMatter with
  | none => simp
  | some v =>
      simp only [Option.some_inj, forall_eq']
      cases v with
      | text s => simpa using IsTitle.text s
      | bool b => simpa using IsTitle.bool b
      | int n => simpa using IsTitle.int n
      | float x => simpa using IsTitle.float x
      | _ => exact ⟨fun _ => nofun, fun _ => rfl⟩

/-- Without a title in its front matter, a document has the page of its text. -/
theorem page_eq_of_untitled (h : Link.titleOfMatter? d.frontMatter = none) :
    Link.Page.ofDocument d = Link.Page.ofDocument (bare d) := by
  rw [Link.Page.ofDocument, Link.titleOf, h]
  rfl

/-! ## What is lost -/

/-- Front matter costs a file its notes exactly where a character that is not ignored has other
names that stand alone. Otherwise the notes tell the same of the text as without front matter. The
page has the same links and headings in any case, and the same title too unless front matter has a
value that can be one. -/
theorem notes_kept_iff (e : Extractor) (d : Document) :
    ((∃ notes, FileNotes.ofDocument e d = .ok notes) ↔
      ∀ v, ¬FileNotes.HasLoneAliases e d v) ∧
    (∀ fault, FileNotes.ofDocument e d = .error fault →
      ∃ v, FileNotes.HasLoneAliases e d v ∧ fault = .notIterable v.kindName) ∧
    (∃ plain, FileNotes.ofDocument e (bare d) = .ok plain ∧
      ∀ notes, FileNotes.ofDocument e d = .ok notes → notes.TellsTextOf plain) ∧
    (Link.Page.ofDocument d).links = (Link.Page.ofDocument (bare d)).links ∧
    (Link.Page.ofDocument d).headings = (Link.Page.ofDocument (bare d)).headings ∧
    ((∀ v, Value.lookup (.text "title") d.frontMatter = some v → ¬IsTitle v) →
      Link.Page.ofDocument d = Link.Page.ofDocument (bare d)) := by
  refine ⟨FileNotes.exists_ofDocument_iff, fun _ => FileNotes.exists_lone_of_error, ⟨_, rfl, ?_⟩,
    rfl, rfl, fun huntitled => page_eq_of_untitled (titleOfMatter?_eq_none_iff.2 huntitled)⟩
  intro notes hnotes
  obtain ⟨plain, hplain, htells⟩ := FileNotes.exists_tellsTextOf hnotes
  obtain rfl := Except.ok.inj hplain
  exact htells

/-- A file whose front matter gives a number for the other names of a character. -/
def numbered : List Char :=
  "---\ncharacters:\n  Ann:\n    aliases: 5\n---\nThen Bob slept.\n".toList

/-- The number costs the file the mention of another character. -/
theorem numbered_notes_lost :
    let e : Extractor := ⟨⟨[]⟩, ⟨[]⟩, []⟩
    ∃ d plain, (Document.ofContent {} ⟨.absolute, ["a.md"]⟩ "a.md" numbered).1 = .ok d ∧
      FileNotes.ofDocument e d = .error (.notIterable "int") ∧
      FileNotes.ofDocument e (bare d) = .ok plain ∧ plain.mentions.map (·.name) = ["Bob"] := by
  intro e
  have hreads : ((Document.ofContent {} ⟨.absolute, ["a.md"]⟩ "a.md" numbered).1.map fun d =>
      (FileNotes.ofDocument e d,
        (FileNotes.ofDocument e (bare d)).map fun plain => plain.mentions.map (·.name))) =
      .ok (.error (.notIterable "int"), .ok ["Bob"]) := by
    decide +kernel
  cases hd : (Document.ofContent {} ⟨.absolute, ["a.md"]⟩ "a.md" numbered).1 with
  | error fault =>
      rw [hd] at hreads
      cases hreads
  | ok d =>
      rw [hd] at hreads
      obtain ⟨herror, hnames⟩ := Prod.mk.inj (Except.ok.inj hreads)
      obtain ⟨plain, hplain⟩ : ∃ plain, FileNotes.ofDocument e (bare d) = .ok plain := ⟨_, rfl⟩
      rw [hplain] at hnames
      exact ⟨d, plain, rfl, herror, hplain, Except.ok.inj hnames⟩

end Continuity.Character
