import Continuity.Character.State
import Continuity.Report.Json

/-! # Characters as JSON documents -/

namespace Continuity

/-- Texts as a document. -/
def Json.ofTexts (texts : List String) : Json := .list (texts.map .text)

/-- Named texts as a document. -/
def Json.ofNamed (texts : List (String × String)) : Json :=
  .object (texts.map fun (name, s) => (name, .text s))

namespace Character

/-- A place as a document. -/
def Location.toJson (l : Location) : Json :=
  .object [("file", .text l.file), ("line", .int l.line), ("column", .int l.column),
    ("offset", .int l.offset)]

/-- A place as a document, or null. -/
def Location.optionToJson (l : Option Location) : Json := l.elim .null toJson

/-- A mention as a document. -/
def Mention.toJson (m : Mention) : Json :=
  .object [("name", .text m.name), ("location", m.location.toJson),
    ("end_column", .ofInt? m.endColumn), ("introduction", .bool m.introduction),
    ("marker", .bool m.marker), ("retrospective", .bool m.retrospective),
    ("pronouns", .ofTexts m.pronouns), ("sentence_initial", .bool m.sentenceInitial)]

/-- Two names for one character as a document. -/
def Alias.toJson (a : Alias) : Json :=
  .object [("name", .text a.name), ("alias", .text a.other),
    ("location", Location.optionToJson a.location)]

/-- A declaration of pronouns as a document. -/
def PronounChange.toJson (c : PronounChange) : Json :=
  .object [("name", .text c.name), ("pronouns", .text c.pronouns), ("location", c.location.toJson)]

/-- The notes on a file as a document. -/
def FileNotes.toJson (f : FileNotes) : Json :=
  .object [("path", .text f.path), ("mentions", .list (f.mentions.map Mention.toJson)),
    ("alias_pairs", .list (f.aliases.map Alias.toJson)),
    ("declared_pronouns", .ofNamed f.declaredPronouns),
    ("pronoun_changes", .list (f.pronounChanges.map PronounChange.toJson)),
    ("relationships", .object (f.relationships.map fun (name, found) => (name, .ofNamed found))),
    ("lowercase_words", .ofTexts (f.lowercaseWords.mergeSort fun a b => decide (a ≤ b)))]

/-- A character as a document. -/
def Profile.toJson (p : Profile) : Json :=
  .object [("name", .text p.name), ("aliases", .ofTexts p.aliases),
    ("spellings", .ofCounts p.spellings), ("first_seen", p.firstSeen.toJson),
    ("appearances", .list (p.appearances.map Location.toJson)),
    ("introduced_at", Location.optionToJson p.introducedAt), ("pronouns", .ofText? p.pronouns),
    ("first_evidence", Location.optionToJson p.firstEvidence),
    ("evidence_pronouns", .ofText? p.evidencePronouns),
    ("relationships", .ofNamed p.relationships)]

/-- The characters of a project as a document; mentions are reduced to their names and places. -/
def State.toJson (s : State) : Json :=
  .object [("files", .ofTexts s.files), ("characters", .list (s.characters.map Profile.toJson)),
    ("canonical_names", .ofNamed s.canonicalNames),
    ("mentions", .object (s.mentions.map fun (path, ms) =>
      (path, .list (ms.map fun m => .ofTexts [m.name, m.location.toString])))),
    ("pronoun_changes", .object (s.pronounChanges.map fun (name, cs) =>
      (name, .list (cs.map PronounChange.toJson)))),
    ("misspellings", .list (s.misspellings.map fun m =>
      .object [("flagged", .text m.flagged), ("reference", .text m.reference)])),
    ("nicknames", .list (s.nicknames.map fun n =>
      .object [("full", .text n.full), ("short", .text n.short)]))]

end Character

end Continuity
