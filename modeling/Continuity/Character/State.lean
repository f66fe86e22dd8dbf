import Continuity.Character.Alias
import Continuity.Character.Basic
import Continuity.Character.Distance
import Continuity.Character.Nickname
import Continuity.Data.Merge
import Continuity.Path
import Continuity.Text.Casing
import Continuity.Text.Property

/-! # The characters of a project

The notes on all files together, in the order of their paths. Every mention belongs to the character
whose name its spelling resolves to, but for words that turn out to be ordinary: seen as names only
at the front of sentences, and in lowercase somewhere in the project.
-/

namespace Continuity.Character

/-- A character. -/
structure Profile where
  name : String
  aliases : List String
  /-- How often each spelling occurs. -/
  spellings : List (String × Nat)
  firstSeen : Location
  appearances : List Location
  introducedAt : Option Location
  /-- The pronouns that the options or front matter give. -/
  pronouns : Option String
  firstEvidence : Option Location
  evidencePronouns : Option String
  relationships : List (String × String)
  deriving Repr, DecidableEq, Inhabited

/-- A character's name that looks like another one misspelled. -/
structure Misspelling where
  flagged : String
  reference : String
  deriving Repr, DecidableEq, Inhabited

/-- Two characters of which one has a short form of the other's name. -/
structure Nickname where
  full : String
  short : String
  deriving Repr, DecidableEq, Inhabited

/-- The characters of a project. -/
structure State where
  files : List String
  characters : List Profile := []
  /-- Folded other names with the names that they resolve to. -/
  canonicalNames : List (String × String)
  mentions : List (String × List Mention) := []
  pronounChanges : List (String × List PronounChange) := []
  misspellings : List Misspelling := []
  nicknames : List Nickname := []
  deriving Repr, DecidableEq, Inhabited

/-- What a project's options say about characters. -/
structure Settings where
  aliases : List (String × String) := []
  pronouns : List (String × String) := []
  maxDistance : Int := 2
  minNameLength : Int := 4
  deriving Repr, DecidableEq, Inhabited

namespace State

/-- The name of the character that a spelling refers to. -/
def canonical (s : State) (name : String) : String :=
  (s.canonicalNames.lookup (Text.fold name)).getD name

/-- The character with a name. -/
def find? (s : State) (name : String) : Option Profile := s.characters.find? (·.name == name)

/-- The number of a file in the order of the project; unknown files come last. -/
def fileIndex (s : State) (path : String) : Nat := s.files.idxOf path

/-- A place comes before another in the order of the project. -/
def precedes (s : State) (a b : Location) : Bool :=
  let i := s.fileIndex a.file
  let j := s.fileIndex b.file
  i < j || (i == j && a.offset < b.offset)

/-- Changes the character with a name. -/
def modify (s : State) (name : String) (f : Profile → Profile) : State :=
  { s with characters := s.characters.map fun p => if p.name == name then f p else p }

/-- A character at its first appearance. -/
def newProfile (name : String) (firstSeen : Location) : Profile :=
  ⟨name, [], [], firstSeen, [], none, none, none, none, []⟩

/-- The state in which a character is known that appears somewhere. -/
def meet (s : State) (name : String) (location : Location) : State :=
  if (s.find? name).isSome then s
  else { s with characters := s.characters ++ [newProfile name location] }

end State

/-- A character with one more mention. -/
def Profile.addMention (p : Profile) (m : Mention) : Profile :=
  { p with
    appearances := p.appearances ++ [m.location]
    spellings := Entries.modify m.name 0 (· + 1) p.spellings
    introducedAt := if m.introduction then p.introducedAt.or (some m.location) else p.introducedAt
    firstEvidence :=
      if m.pronouns.isEmpty then p.firstEvidence else p.firstEvidence.or (some m.location)
    evidencePronouns :=
      if p.firstEvidence.isSome then p.evidencePronouns else m.pronouns.head? }

namespace State

/-- The state with one more mention in a file. -/
def addMention (s : State) (path : String) (m : Mention) : State :=
  let name := s.canonical m.name
  let s := (s.meet name m.location).modify name (·.addMention m)
  { s with mentions := Entries.modify path [] (· ++ [m]) s.mentions }

/-- The state with one more declaration of pronouns in the text. -/
def addPronounChange (s : State) (c : PronounChange) : State :=
  { s with
    pronounChanges := Entries.modify (s.canonical c.name) [] (· ++ [c]) s.pronounChanges }

/-- The mentions of a file in the order of the text. -/
def sortMentions (mentions : List Mention) : List Mention :=
  mentions.mergeSort fun a b => a.location.offset ≤ b.location.offset

/-- The declarations of pronouns of a file in the order of the text. -/
def sortChanges (changes : List PronounChange) : List PronounChange :=
  changes.mergeSort fun a b => a.location.offset ≤ b.location.offset

/-- The state with the mentions and declarations of one more file, ordinary words aside. -/
def addFile (ordinary : List String) (s : State) (f : FileNotes) : State :=
  let kept := (sortMentions f.mentions).filter fun m => !ordinary.contains m.name
  let s := kept.foldl (fun s m => s.addMention f.path m) s
  (sortChanges f.pronounChanges).foldl addPronounChange s

/-- The state in which the character that a name refers to, if there is one, is changed. -/
def modifyNamed (s : State) (name : String) (f : Profile → Profile) : State :=
  s.modify (s.canonical name) f

/-- The state with the pronouns that the options give. -/
def addConfigured (s : State) (pronouns : List (String × String)) : State :=
  pronouns.foldl (fun s (name, set) => s.modifyNamed name fun p => { p with pronouns := set }) s

/-- The state with what the front matter of a file declares; earlier pronouns stay. -/
def addDeclared (s : State) (f : FileNotes) : State :=
  let s := f.declaredPronouns.foldl (fun s (name, set) =>
    s.modifyNamed name fun p => { p with pronouns := p.pronouns.or (some set) }) s
  f.relationships.foldl (fun s (name, found) =>
    s.modifyNamed name fun p => { p with relationships := Entries.update p.relationships found }) s

/-- The order of keyed names. -/
def pairLe (a b : String × String) : Bool :=
  decide (a.1 < b.1) || (a.1 == b.1 && decide (a.2 ≤ b.2))

/-- The spelling of a folded other name in the first declaration that has it. -/
def aliasSpelling (pairs : List (String × String)) (key : String) : String :=
  ((pairs.find? fun (_, other) => Text.fold other == key).map (·.2)).getD key

/-- The state in which each character knows its other names, in the order of their folded forms. -/
def addAliases (s : State) (pairs : List (String × String)) : State :=
  (s.canonicalNames.mergeSort pairLe).foldl (fun s (key, name) =>
    if key == Text.fold name then s
    else s.modify name fun p => { p with aliases := p.aliases ++ [aliasSpelling pairs key] }) s

/-- The number of letters of a name. -/
def letterCount (name : String) : Nat := (name.toList.filter Text.isLetter).length

/-- The less established of two characters before the other: the one that appears less often, or
else the one that is seen later. -/
def lessEstablished (s : State) (a b : Profile) : Profile × Profile :=
  if a.appearances.length < b.appearances.length then (a, b)
  else if b.appearances.length < a.appearances.length then (b, a)
  else if s.precedes b.firstSeen a.firstSeen then (a, b)
  else (b, a)

/-- Two characters' names are so much alike that one may be the other misspelled. -/
def areSimilar (settings : Settings) (a b : String) : Bool :=
  !areRelated a b && decide (settings.minNameLength ≤ letterCount a) &&
    decide (settings.minNameLength ≤ letterCount b) &&
    isWithin settings.maxDistance a.toList b.toList

/-- The state with a comparison of two characters' names. -/
def compare (settings : Settings) (s : State) (pair : Profile × Profile) : State :=
  let (a, b) := pair
  match nicknamePair? a.name b.name with
  | some (full, short) => { s with nicknames := s.nicknames ++ [⟨full, short⟩] }
  | none =>
    if areSimilar settings a.name b.name then
      let (flagged, reference) := s.lessEstablished a b
      { s with misspellings := s.misspellings ++ [⟨flagged.name, reference.name⟩] }
    else s

/-- Each two members of a list, the earlier one first. -/
def pairs {α : Type} : List α → List (α × α)
  | [] => []
  | a :: rest => rest.map (fun b => (a, b)) ++ pairs rest

/-- The state with the comparisons of all names. -/
def compareAll (settings : Settings) (s : State) : State :=
  (pairs (s.characters.mergeSort fun a b => decide (a.name ≤ b.name))).foldl (compare settings) s

/-- Notes in the order of their files. -/
def sortNotes (notes : List FileNotes) : List FileNotes :=
  notes.mergeSort fun a b => (Path.ofString a.path).le (Path.ofString b.path)

/-- The offset of a declaration; one without a place comes first. -/
def aliasOffset (a : Alias) : Int := a.location.elim (-1) (·.offset)

/-- The declarations of other names in a file, in the order of the text. -/
def aliasesOf (f : FileNotes) : List (String × String) :=
  (f.aliases.mergeSort fun a b => aliasOffset a ≤ aliasOffset b).map fun a => (a.name, a.other)

/-- Names that are only ordinary words at the front of sentences. -/
def ordinaryWords (notes : List FileNotes) : List String :=
  let lowercase := notes.flatMap (·.lowercaseWords)
  let mentions := notes.flatMap (·.mentions)
  let inner := (mentions.filter (!·.sentenceInitial)).map (·.name)
  ((mentions.filter fun m => m.sentenceInitial && !inner.contains m.name &&
    !m.name.toList.contains ' ' && lowercase.contains (Text.lower m.name)).map (·.name)).eraseDups

/-- The characters of the files on which notes have been taken. -/
def ofNotes (settings : Settings) (notes : List FileNotes) : State :=
  let notes := sortNotes notes
  let aliases := settings.aliases ++ notes.flatMap aliasesOf
  let canonicalNames := resolveAliases aliases (settings.aliases.map fun (name, _) => Text.fold name)
  let start : State := { files := notes.map (·.path), canonicalNames }
  let s := notes.foldl (addFile (ordinaryWords notes)) start
  let s := notes.foldl addDeclared (s.addConfigured settings.pronouns)
  (s.addAliases aliases).compareAll settings

end State

end Continuity.Character
