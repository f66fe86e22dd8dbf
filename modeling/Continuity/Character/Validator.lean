import Continuity.Character.Notes
import Continuity.Character.Options
import Continuity.Character.Rules
import Continuity.Run.Validator

/-! # The validator of characters -/

namespace Continuity.Character

open Run (Context Entry Hook Validator)

/-- The options of the validator; those that cannot be used are taken as not given. -/
def optionsOf (c : Context) : Options :=
  match Options.read (.map c.options) with
  | .ok options => options
  | .bad _ => {}

/-- The options can be used. -/
def start (c : Context) : Hook Unit :=
  match Options.read (.map c.options) with
  | .ok _ => pure ()
  | .bad problems => .fail (.badOptions validatorId "CharacterOptions" problems)

namespace Options

/-- The folded names that are no characters. -/
def ignored (o : Options) : List String := o.ignore.map Text.fold

/-- What to look for in a file. -/
def extractor (o : Options) : Extractor where
  introduction := .ofStrings o.introductionMarkers
  retrospective := .ofStrings o.retrospectiveMarkers
  ignored := o.ignored

/-- What the options say about characters. -/
def settings (o : Options) : Settings where
  aliases := o.aliasPairs
  pronouns := o.pronouns.filter fun (name, _) => !o.ignored.contains (Text.fold name)
  maxDistance := o.maxDistance
  minNameLength := o.minNameLength

end Options

/-- The notes on a document. -/
def extract (c : Context) (d : Document) : Hook Entry :=
  match FileNotes.ofDocument (optionsOf c).extractor d with
  | .ok notes => pure (.notes notes)
  | .error fault => .fail (.failure "TypeError" fault.message)

/-- The notes among entries. -/
def notesOf (entries : List Entry) : List FileNotes :=
  entries.filterMap fun
    | .notes f => some f
    | _ => none

/-- The characters of all documents, of which it is told how many there are. -/
def merge (c : Context) (entries : List Entry) : Hook Entry :=
  let s := State.ofNotes (optionsOf c).settings (notesOf entries)
  .emit "characters:merged" [("characters", .int s.characters.length)] (pure (.characters s))

/-- The issues of a document. -/
def validate (c : Context) (d : Document) : Hook (List Issue) := do
  match (← Hook.sharedState).get? validatorId with
  | none | some (.value .null) => return []
  | some (.characters s) =>
    match s.fileIssues (optionsOf c).strict d.name with
    | .ok issues => return issues
    | .error missing => .fail (.failure "KeyError" missing.message)
  | some other => .fail (.noSuchPart other.kindName "mentions")

/-- The validator of characters. -/
def validator : Validator where
  id := validatorId
  sectionName := some "characterValidator"
  start := some start
  extract := some extract
  merge := some merge
  validate := some validate

end Continuity.Character
