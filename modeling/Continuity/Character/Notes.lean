import Continuity.Character.Basic
import Continuity.Character.Declaration
import Continuity.Character.Pronoun
import Continuity.Data.Merge
import Continuity.Document.Basic
import Continuity.Text.Sentence

/-! # Notes on the characters of a file

The notes on a file collect the mentions of names in its paragraphs, the declarations in its
paragraphs, and the declarations in its front matter.
-/

namespace Continuity.Character

open Text (Markers slice)

/-- What to look for in a file. -/
structure Extractor where
  introduction : Markers
  retrospective : Markers
  /-- Folded names that are no characters. -/
  ignored : List String
  deriving Repr, DecidableEq, Inhabited

/-- Why notes cannot be taken. -/
inductive NotesFault where
  /-- The other names in the front matter are given by a value of this kind. -/
  | notIterable (kind : String)
  deriving Repr, DecidableEq

/-- The wording of a fault. -/
def NotesFault.message : NotesFault → String
  | .notIterable kind => Text.quoted kind ++ " object is not iterable"

/-- How far around a name the words that introduce it may stand. -/
def contextWindow : Nat := 50

/-- The place of an offset in a document. -/
def Location.of (d : Document) (offset : Nat) : Location :=
  let (line, column) := d.index.locate offset
  ⟨d.name, line, column, offset⟩

/-- The sets of pronouns in a stretch of a text, outside its quotations. -/
def evidenceBetween (text : List Char) (start stop : Nat) : List String :=
  let quoted := Text.quotations text
  let words := (Text.wordsBetween start stop text).filter fun w => !Text.liesIn quoted w.start
  (words.filterMap fun w =>
    evidenceForms.lookup (String.ofList (Text.lowerChars w.letters))).eraseDups

namespace Paragraph

/-- The sets of pronouns that speak of a candidate: those after it in its sentence, if it is the
first of the sentence's names and they are all the same. -/
def evidenceFor (p : Paragraph) (candidates : List Candidate) (c : Candidate) : List String :=
  let siblings := candidates.filter (·.sentence == c.sentence)
  if siblings.all (·.name == c.name) && siblings.head? == some c then
    let stop := (p.sentences[c.sentence]?).elim 0 (·.2)
    evidenceBetween p.text c.stop stop
  else []

/-- Words that introduce stand near a candidate. -/
def hasMarkerNear (p : Paragraph) (e : Extractor) (c : Candidate) : Bool :=
  e.introduction.occursIn (slice (c.start - contextWindow) (c.stop + contextWindow) p.text)

/-- The paragraph looks back. -/
def isRetrospective (p : Paragraph) (e : Extractor) : Bool :=
  p.quoted || e.retrospective.occursIn p.text

/-- The mention that a candidate is; `isNew` says that its name has not come before. -/
def mentionOf (p : Paragraph) (e : Extractor) (d : Document) (candidates : List Candidate)
    (isNew : Bool) (c : Candidate) : Mention :=
  let location := Location.of d (p.offset + c.start)
  let stop := Location.of d (p.offset + c.stop)
  let marker := p.hasMarkerNear e c
  { name := c.name, location
    endColumn := if stop.line == location.line then some stop.column else none
    introduction := marker && isNew, marker, retrospective := p.isRetrospective e
    pronouns := p.evidenceFor candidates c, sentenceInitial := c.initial }

/-- The mentions that candidates are, given the names that have come before. -/
def mentions (p : Paragraph) (e : Extractor) (d : Document) (candidates : List Candidate)
    (seen : List String) : List Candidate → List Mention
  | [] => []
  | c :: rest =>
    p.mentionOf e d candidates (!seen.contains c.name) c ::
      p.mentions e d candidates (c.name :: seen) rest

/-- Other names that the words between two candidates declare. -/
def joinedAliases (p : Paragraph) (d : Document) (candidates : List Candidate) : List Alias :=
  (candidates.zip (candidates.drop 1)).filterMap fun (first, second) =>
    if first.sentence == second.sentence && joinsNames (slice first.stop second.start p.text) then
      some ⟨first.name, second.name, some (Location.of d (p.offset + second.start))⟩
    else none

/-- Other names that speakers claim. -/
def claimedAliases (p : Paragraph) (d : Document) (candidates previous : List Candidate) :
    List Alias :=
  candidates.filterMap fun c => do
    let start := (p.sentences[c.sentence]?).elim 0 (·.1)
    let place ← callBefore? p.text start c.start
    let name ← speaker? candidates previous place (some c.name)
    return ⟨name, c.name, some (Location.of d (p.offset + c.start))⟩

/-- Declarations of pronouns. -/
def pronounChanges (p : Paragraph) (d : Document) (candidates previous : List Candidate) :
    List PronounChange :=
  (pronounDeclarations none 0 0 p.text).filterMap fun (offset, raw) => do
    let pronouns ← pronounsOfText? raw
    let name ← speaker? candidates previous offset none
    return ⟨name, pronouns, Location.of d (p.offset + offset)⟩

end Paragraph

namespace FileNotes

/-- The notes with those on one more paragraph, given the candidates before it. -/
def addParagraph (notes : FileNotes) (e : Extractor) (d : Document) (previous : List Candidate)
    (p : Paragraph) (candidates : List Candidate) : FileNotes :=
  { notes with
    mentions := notes.mentions ++
      p.mentions e d candidates (previous.map (·.name)) candidates
    aliases := notes.aliases ++ p.joinedAliases d candidates ++
      p.claimedAliases d candidates previous
    pronounChanges := notes.pronounChanges ++ p.pronounChanges d candidates previous }

/-- The notes with those on more paragraphs, each with its candidates. -/
def addParagraphs (notes : FileNotes) (e : Extractor) (d : Document) (previous : List Candidate) :
    List (Paragraph × List Candidate) → FileNotes
  | [] => notes
  | (p, candidates) :: rest =>
    (notes.addParagraph e d previous p candidates).addParagraphs e d (previous ++ candidates) rest

/-- The characters that front matter describes, with what it says about each. -/
def describedCharacters (frontMatter : List (Value × Value)) :
    List (String × List (Value × Value)) :=
  match Value.lookup (.text "characters") frontMatter with
  | some (.map es) => es.filterMap fun (name, v) =>
    match v with
    | .map entries => some (name.display, entries)
    | _ => none
  | some (.list items) => items.filterMap fun item =>
    match item with
    | .map entries =>
      match Value.lookup (.text "name") entries with
      | some name => if name.isEmpty then none else some (name.display, entries)
      | none => none
    | _ => none
  | _ => []

/-- The other names that a description gives. -/
def describedAliases (entries : List (Value × Value)) : Except NotesFault (List String) :=
  match Value.lookup (.text "aliases") entries with
  | none => .ok []
  | some v =>
    if v.isEmpty then .ok []
    else match v with
      | .text s => .ok [s]
      | v => match v.members? with
        | some members => .ok (members.map Value.display)
        | none => .error (.notIterable v.kindName)

/-- The relationships that a description gives. -/
def describedRelationships? (entries : List (Value × Value)) : Option (List (String × String)) :=
  match Value.lookup (.text "relationships") entries with
  | some (.map es) =>
    some (es.foldl (fun found (k, v) => Entries.insert k.display v.display found) [])
  | _ => none

/-- The notes with those on a character that front matter describes. -/
def addDescription (notes : FileNotes) (name : String) (entries : List (Value × Value)) :
    Except NotesFault FileNotes := do
  let declared := (Value.lookup (.text "pronouns") entries).bind pronounsOfValue?
  let others ← describedAliases entries
  let origin : Location := ⟨notes.path, 1, 1, 0⟩
  return { notes with
    declaredPronouns := declared.elim notes.declaredPronouns fun set =>
      Entries.insert name set notes.declaredPronouns
    aliases := notes.aliases ++ others.map fun other => ⟨name, other, some origin⟩
    relationships := (describedRelationships? entries).elim notes.relationships fun found =>
      Entries.insert name found notes.relationships }

/-- The notes on a document. -/
def ofDocument (e : Extractor) (d : Document) : Except NotesFault FileNotes := do
  let paragraphs := Paragraph.all d.content d.root
  let vocabulary := Vocabulary.ofParagraphs paragraphs
  let notes : FileNotes :=
    { path := d.name, lowercaseWords := vocabulary.lowercase.map String.ofList }
  let described := (describedCharacters d.frontMatter).filter fun (name, _) =>
    !e.ignored.contains (Text.fold name)
  let notes ← described.foldlM (fun notes (name, entries) => notes.addDescription name entries) notes
  return notes.addParagraphs e d [] <| paragraphs.map fun p =>
    (p, p.candidates vocabulary e.ignored)

end FileNotes

end Continuity.Character
