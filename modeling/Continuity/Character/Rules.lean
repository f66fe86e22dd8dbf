import Continuity.Character.State
import Continuity.Text.Quoted

/-! # Rules for characters

One character should have one spelling, should be introduced before it is taken for granted, and
should keep its pronouns; and two characters of which one has a short form of the other's name may
be the same.
-/

namespace Continuity.Character

/-- The name under which issues of characters are reported. -/
def validatorId : String := "character-consistency"

/-- An issue at a mention. -/
def issueAt (code : String) (severity : Severity) (message suggestion : String)
    (related : List RelatedLocation) (m : Mention) : Issue :=
  { code, severity, message, validator := validatorId, file := some m.location.file
    line := some m.location.line, column := some m.location.column
    endLine := m.endColumn.map fun _ => m.location.line, endColumn := m.endColumn
    suggestion := some suggestion, related }

/-- No character has a name that a character must have. -/
structure MissingCharacter where
  name : String
  deriving Repr, DecidableEq

/-- The wording of a missing character. -/
def MissingCharacter.message (m : MissingCharacter) : String := Text.quoted m.name

namespace State

/-- The character with a name that a character must have. -/
def get (s : State) (name : String) : Except MissingCharacter Profile :=
  match s.find? name with
  | some p => .ok p
  | none => .error ⟨name⟩

/-- The names of the characters of which a character may be a misspelling. -/
def references (s : State) (name : String) : List String :=
  (s.misspellings.filter (·.flagged == name)).map (·.reference)

/-- The issue of a mention of a character that may be another one misspelled. -/
def spellingIssue (m : Mention) (reference : Profile) : Issue :=
  issueAt "CHAR001" .error
    ("Character name '" ++ m.name ++ "' looks like a misspelling of '" ++ reference.name ++
      "' (first seen at " ++ reference.firstSeen.toString ++ ")")
    ("Use '" ++ reference.name ++ "', or declare '" ++ m.name ++
      "' as an alias if they are the same character")
    [reference.firstSeen.related ("'" ++ reference.name ++ "' first seen here")] m

/-- The issues of the spelling of a mention. -/
def spellingIssuesAt (s : State) (m : Mention) : Except MissingCharacter (List Issue) :=
  (s.references (s.canonical m.name)).mapM fun reference =>
    return spellingIssue m (← s.get reference)

/-- The issues of spellings. -/
def spellingIssues (s : State) (mentions : List Mention) : Except MissingCharacter (List Issue) :=
  return (← mentions.mapM s.spellingIssuesAt).flatten

/-- The character is introduced in a later file than the one of the mention. -/
def introductionIssue? (s : State) (m : Mention) : Option Issue := do
  let p ← if m.retrospective || m.marker then none else s.find? (s.canonical m.name)
  let introduced ← p.introducedAt
  if s.fileIndex m.location.file < s.fileIndex introduced.file then
    some <| issueAt "CHAR002" .warning
      ("'" ++ m.name ++ "' appears before being introduced in " ++ introduced.file)
      "Introduce the character earlier, or mark this passage as a recollection"
      [introduced.related ("'" ++ p.name ++ "' introduced here")] m
  else none

/-- The last declaration of a character's pronouns before a place. -/
def latestChange? (s : State) (name : String) (place : Location) : Option PronounChange :=
  (((s.pronounChanges.lookup name).getD []).filter fun c => s.precedes c.location place).getLast?

/-- The pronouns that are established where a character is mentioned: those declared last in the
text, or else those of the options or front matter, or else those of the first evidence. -/
def establishedPronouns? (s : State) (p : Profile) (m : Mention) : Option String :=
  match s.latestChange? p.name m.location with
  | some change => some change.pronouns
  | none =>
    match p.pronouns.filter (!·.isEmpty), p.firstEvidence with
    | some set, _ => some set
    | none, some place => if place != m.location then p.evidencePronouns else none
    | none, none => none

/-- The pronouns at a mention are not the established ones. -/
def pronounIssue? (s : State) (m : Mention) : Option Issue := do
  let p ← if m.pronouns.isEmpty then none else s.find? (s.canonical m.name)
  let expected ← s.establishedPronouns? p m
  let used ← m.pronouns.find? (· != expected)
  return issueAt "CHAR003" .warning
    ("Pronoun '" ++ used ++ "' used for '" ++ m.name ++ "', who is established as '" ++ expected ++
      "'")
    "Declare the change with a [pronouns: ...] marker if it is intentional" [] m

/-- The issue of a short form that is its own character, in the file where it is first seen. -/
def nicknameIssue? (s : State) (path : String) (n : Nickname) : Option Issue := do
  let short ← s.find? n.short
  let full ← s.find? n.full
  if short.firstSeen.file == path then
    some <| issueAt "CHAR004" .info
      ("'" ++ short.name ++ "' may be a nickname for '" ++ full.name ++ "'")
      ("Declare '" ++ short.name ++ "' as an alias of '" ++ full.name ++
        "' in characterValidator.aliases")
      [full.firstSeen.related ("'" ++ full.name ++ "' first seen here")]
      { name := short.name, location := short.firstSeen }
  else none

/-- The issues of a file. -/
def fileIssues (s : State) (strict : Bool) (path : String) :
    Except MissingCharacter (List Issue) := do
  let mentions := (s.mentions.lookup path).getD []
  let spellings ← s.spellingIssues mentions
  return spellings ++ (if strict then mentions.filterMap s.introductionIssue? else []) ++
    mentions.filterMap s.pronounIssue? ++ s.nicknames.filterMap (s.nicknameIssue? path)

end State

end Continuity.Character
