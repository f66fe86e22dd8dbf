import Continuity.Character.Candidate
import Continuity.Text.Marker
import Continuity.Text.Pattern

/-! # Declarations in running text

The text itself can say that a name has another, by words between the two names or by a speaker who
says how to be called; and it can declare pronouns, in brackets or again by such a speaker. A
declaration belongs to the closest name before it in its paragraph, or else to the first after it,
or else to the last name of the paragraphs before.
-/

namespace Continuity.Character

open Text (Pattern isBlank isWord slice startsWith)

/-- The phrase by which a speaker says how to be called, without its first letter. -/
def callMe : List Char := "all me".toList

/-- The phrase stands at the front of a text, which `before` precedes. -/
def callsMe (before : Option Char) : List Char → Bool
  | c :: rest => (c == 'C' || c == 'c') && !before.any isWord && startsWith callMe rest
  | [] => false

/-- Words that say that two names are one person's at the same time. -/
def alsoKnownAs : Pattern :=
  .all [.optional (.oneOf ","), .run isBlank,
    .either (.folded "also known as")
      (.all [.folded "a", .optional (.oneOf "."), .folded "k", .optional (.oneOf "."), .folded "a",
        .optional (.oneOf ".")]),
    .some isBlank]

/-- Words that say that a person had another name before. -/
def formerly : Pattern :=
  .all [.oneOf ",", .run isBlank,
    .choice [.folded "formerly", .folded "previously",
      .all [.folded "n", .either (.folded "e") (.folded "é"), .folded "e"]],
    .some isBlank]

/-- What stands between two names makes the second another name of the first. -/
def joinsNames (gap : List Char) : Bool := alsoKnownAs.accepts gap || formerly.accepts gap

/-- Where, from `start` on, a speaker begins to say how to be called by the name at `stop`. -/
def callBefore? (text : List Char) (start stop : Nat) : Option Nat :=
  let before := text.take stop
  let said := Text.trimEnd before
  let place := said.length - (callMe.length + 1)
  if said.length < before.length && callMe.length < said.length && start ≤ place &&
      callsMe (text.take place).getLast? (said.drop place) then some place
  else none

/-- The last candidate with a name other than `except`. -/
def lastOther? (except? : Option String) (candidates : List Candidate) : Option String :=
  ((candidates.filter fun c => some c.name != except?).getLast?).map (·.name)

/-- Whose declaration at an offset it is; a speaker is not called by the name being declared. -/
def speaker? (candidates previous : List Candidate) (offset : Nat) (except? : Option String) :
    Option String :=
  (lastOther? except? (candidates.filter (·.stop ≤ offset))).or <|
    ((candidates.find? fun c => offset ≤ c.start && some c.name != except?).map (·.name)).or <|
      lastOther? except? previous

/-- The phrase that opens a declaration of pronouns in brackets. -/
def pronounOpening : Pattern :=
  .all [.oneOf "[", .folded "pronoun", .optional (.folded "s"), .oneOf ":"]

/-- The pronouns declared in brackets at the front of a text, and the length of the declaration. -/
def bracketed? (cs : List Char) : Option (List Char × Nat) := do
  let opening ← pronounOpening.length? cs
  let inside := (cs.drop opening).takeWhile (· != ']')
  if inside.isEmpty || opening + inside.length = cs.length then none
  else some (inside, opening + inside.length + 1)

/-- Forms that a speaker can claim. -/
def claimedForms : List (List Char) :=
  ["she", "her", "he", "him", "they", "them"].map String.toList

/-- The pronouns that a speaker claims at the front of a text, which `before` precedes. -/
def claimed? (before : Option Char) (cs : List Char) : Option (List Char) :=
  if callsMe before cs then
    let rest := cs.drop (callMe.length + 1)
    let form := (rest.dropWhile isBlank).takeWhile isWord
    if rest.head?.any isBlank && claimedForms.contains form then some form else none
  else none

/-- The declarations of pronouns in a text, each with its offset. The text begins at `offset`, and
`skip` of its characters belong to the bracket found last. -/
def pronounDeclarations (before : Option Char) (offset skip : Nat) :
    List Char → List (Nat × List Char)
  | [] => []
  | c :: rest =>
    let claim := ((claimed? before (c :: rest)).map fun form => (offset, form)).toList
    match skip with
    | skip + 1 => claim ++ pronounDeclarations (some c) (offset + 1) skip rest
    | 0 =>
      match bracketed? (c :: rest) with
      | some (inside, length) =>
        (offset, inside) :: pronounDeclarations (some c) (offset + 1) (length - 1) rest
      | none => claim ++ pronounDeclarations (some c) (offset + 1) 0 rest

end Continuity.Character
