import Continuity.Data.Value
import Continuity.Text.Blank
import Continuity.Text.Casing

/-! # Pronouns

A set of pronouns goes by its subject form. Declarations name one or more forms; the first decides,
and a form of no known set stands for itself.
-/

namespace Continuity.Character

/-- The known sets, each with all its forms. -/
def pronounSets : List (String × List String) := [
  ("she", ["she", "her", "hers", "herself"]),
  ("he", ["he", "him", "his", "himself"]),
  ("they", ["they", "them", "their", "theirs", "themselves", "themself"])]

/-- The forms that speak of the name before them, with their sets. Other forms often point to
somebody else in the sentence. -/
def evidenceForms : List (String × String) := [
  ("she", "she"), ("herself", "she"), ("he", "he"), ("himself", "he"), ("they", "they"),
  ("themselves", "they"), ("themself", "they")]

/-- The set that a form belongs to. -/
def pronounSet (form : String) : String :=
  match pronounSets.find? (·.2.contains form) with
  | some (set, _) => set
  | none => form

/-- The set that a declaration names: the forms are separated by strokes or commas. -/
def pronounsOfText? (declaration : List Char) : Option String :=
  let pieces := Text.splitOn '/' (declaration.map fun c => if c == ',' then '/' else c)
  match (pieces.map Text.trim).find? (!·.isEmpty) with
  | some first => some (pronounSet (String.ofList (Text.lowerChars first)))
  | none => none

/-- The set that a declared value names; the members of a list are forms. -/
def pronounsOfValue? : Value → Option String
  | .list items => pronounsOfText? ("/".intercalate (items.map Value.display)).toList
  | v => pronounsOfText? v.display.toList

end Continuity.Character
