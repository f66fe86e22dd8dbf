import Continuity.Character.Pronoun
import Continuity.Data.Schema

/-! # Options of the character rules -/

namespace Continuity.Character

open Schema (Names Reader Reading truth wholeAtLeast)

/-- A character's name together with the other names that it goes by. -/
structure AliasDeclaration where
  canonical : String
  aliases : List String
  deriving Repr, DecidableEq, Inhabited

/-- Phrases that introduce a character. -/
def introductionMarkers : List String :=
  ["introduced", "met", "named", "called", "I am", "my name is"]

/-- Phrases that look back. -/
def retrospectiveMarkers : List String := ["remembered", "used to", "years ago", "back when"]

/-- How characters are checked. -/
structure Options where
  aliases : List AliasDeclaration := []
  /-- Names that are no characters. -/
  ignore : List String := []
  /-- Mentions ahead of an introduction are reported. -/
  strict : Bool := false
  /-- The largest distance between two spellings of one name. -/
  maxDistance : Int := 2
  /-- Names of fewer letters are not compared. -/
  minNameLength : Int := 4
  retrospectiveMarkers : List String := Character.retrospectiveMarkers
  introductionMarkers : List String := Character.introductionMarkers
  pronouns : List (String × String) := []
  deriving Repr, DecidableEq, Inhabited

namespace Options

/-- The fields of a declaration. -/
def aliasNames : Names := ⟨["canonical", "aliases"], false⟩

/-- Reads a declaration of other names. -/
def readAlias : Reader AliasDeclaration :=
  Schema.fields aliasNames .ignored fun es =>
    AliasDeclaration.mk <$> aliasNames.required es "canonical" Schema.text
      <*> aliasNames.fieldOr es "aliases" (Schema.list Schema.text) []

/-- The entries of a mapping from names to declared pronouns, each value reduced to its set. -/
def pronounEntries? : List (Value × Value) → Option (List (Value × Value))
  | [] => some []
  | (name, declared) :: rest => do
    let set ← pronounsOfValue? declared
    return (.text name.display, .text set) :: (← pronounEntries? rest)

/-- Reads pronouns; a declaration that names none is refused. -/
def readPronouns : Reader (List (String × String))
  | .map es =>
    match pronounEntries? es with
    | some es =>
      Schema.mapping Schema.text (.map (es.foldl (fun es (k, v) => Value.insertEntry k v es) []))
    | none => .fault .refused
  | _ => .fault .notMapping

/-- The names of the options. -/
def names : Names where
  fields := ["aliases", "ignore", "strict", "max_distance", "min_name_length",
    "retrospective_markers", "introduction_markers", "pronouns"]
  camel := true

/-- Reads the options. -/
def read : Reader Options :=
  Schema.fields names .refused fun es =>
    Options.mk <$> names.fieldOr es "aliases" (Schema.list readAlias) []
      <*> names.fieldOr es "ignore" (Schema.list Schema.text) []
      <*> names.fieldOr es "strict" truth false
      <*> names.fieldOr es "max_distance" (wholeAtLeast 0) 2
      <*> names.fieldOr es "min_name_length" (wholeAtLeast 1) 4
      <*> names.fieldOr es "retrospective_markers" (Schema.list Schema.text)
        Character.retrospectiveMarkers
      <*> names.fieldOr es "introduction_markers" (Schema.list Schema.text)
        Character.introductionMarkers
      <*> names.fieldOr es "pronouns" readPronouns []

/-- Each declared name with each of its other names. -/
def aliasPairs (o : Options) : List (String × String) :=
  o.aliases.flatMap fun d => d.aliases.map fun other => (d.canonical, other)

end Options

end Continuity.Character
