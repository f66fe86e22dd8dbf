import Continuity.Text.Casing

/-! # Resolving other names

Declarations say which name is another name of which. The first declaration for a name counts, apart
from case. Following declarations leads to the name by which a character goes; where they lead in a
circle, the smallest name of the circle stands for all of them.
-/

namespace Continuity.Character

/-- A declaration that counts: the folded form of the other name, how it is spelled, and the name
that it belongs to. -/
structure AliasLink where
  key : String
  spelling : String
  canonical : String
  deriving Repr, DecidableEq, Inhabited

namespace AliasLink

/-- The declaration for a folded name. -/
def find? (links : List AliasLink) (key : String) : Option AliasLink :=
  links.find? (·.key == key)

/-- The declarations with one more, if it counts: protected names are never other names. -/
def add (protectedKeys : List String) (links : List AliasLink) (pair : String × String) :
    List AliasLink :=
  let (canonical, spelling) := pair
  let key := Text.fold spelling
  if key == Text.fold canonical || protectedKeys.contains key || (find? links key).isSome then links
  else links ++ [⟨key, spelling, canonical⟩]

/-- The declarations that count. -/
def ofPairs (pairs : List (String × String)) (protectedKeys : List String) : List AliasLink :=
  pairs.foldl (add protectedKeys) []

/-- The declarations followed from a folded name until one is reached again or none applies, with
the folded name where that happens. -/
def chain (links : List AliasLink) : (fuel : Nat) → (walked : List AliasLink) → String →
    List AliasLink × String
  | 0, walked, key => (walked, key)
  | fuel + 1, walked, key =>
    if walked.any (·.key == key) then (walked, key)
    else match find? links key with
      | none => (walked, key)
      | some link => chain links fuel (walked ++ [link]) (Text.fold link.canonical)

/-- The smallest of some names. -/
def least (first : String) (names : List String) : String :=
  names.foldl (fun a b => if b < a then b else a) first

/-- The name at the end of a chain, or the smallest name of the circle in which it ends. -/
def resolve (links : List AliasLink) (start : AliasLink) : String :=
  let (walked, key) := chain links (links.length + 1) [] start.key
  let circle := (walked.dropWhile (·.key != key)).map (·.spelling)
  match circle with
  | first :: rest => least first rest
  | [] => (walked.getLastD start).canonical

end AliasLink

/-- Folded other names with the names by which their characters go. -/
def resolveAliases (pairs : List (String × String)) (protectedKeys : List String) :
    List (String × String) :=
  let links := AliasLink.ofPairs pairs protectedKeys
  links.map fun link => (link.key, AliasLink.resolve links link)

end Continuity.Character
