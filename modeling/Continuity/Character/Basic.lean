import Continuity.Issue.Basic

/-! # Characters of a story

What one file says about characters: where they are mentioned, by which other names they go, and
which pronouns are declared for them.
-/

namespace Continuity.Character

/-- A place in a file. -/
structure Location where
  file : String
  line : Int
  column : Int
  offset : Int
  deriving Repr, DecidableEq, Inhabited

namespace Location

/-- The text of a place. -/
def toString (l : Location) : String :=
  l.file ++ ":" ++ ToString.toString l.line ++ ":" ++ ToString.toString l.column

/-- A place as a remark of an issue. -/
def related (l : Location) (message : String) : RelatedLocation :=
  ⟨l.file, some l.line, some l.column, some message⟩

end Location

/-- One occurrence of a name in running text. -/
structure Mention where
  name : String
  location : Location
  /-- Where the name ends, if it ends on the line where it begins. -/
  endColumn : Option Int := none
  /-- The first occurrence in its file, near words that introduce. -/
  introduction : Bool := false
  /-- Words that introduce are near. -/
  marker : Bool := false
  /-- The passage looks back. -/
  retrospective : Bool := false
  /-- The sets of pronouns that speak of the name. -/
  pronouns : List String := []
  /-- The name stands at the front of a sentence, and nothing else shows that it is a name. -/
  sentenceInitial : Bool := false
  deriving Repr, DecidableEq, Inhabited

/-- A declaration that a name has another. -/
structure Alias where
  name : String
  other : String
  location : Option Location
  deriving Repr, DecidableEq, Inhabited

/-- A declaration in the text that a character's pronouns are from now on others. -/
structure PronounChange where
  name : String
  pronouns : String
  location : Location
  deriving Repr, DecidableEq, Inhabited

/-- What one file says about characters. -/
structure FileNotes where
  path : String
  mentions : List Mention := []
  aliases : List Alias := []
  declaredPronouns : List (String × String) := []
  pronounChanges : List PronounChange := []
  relationships : List (String × List (String × String)) := []
  lowercaseWords : List String := []
  deriving Repr, DecidableEq, Inhabited

end Continuity.Character
