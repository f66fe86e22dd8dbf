import Continuity.Text.Casing

/-! # Patterns over characters

Patterns denote what may be cut off the front of a text. `rests` lists what each possible cut
leaves, the preferred cut first: a repetition prefers more, an alternative its first branch.
-/

namespace Continuity.Text

/-- A pattern for the front of a text. -/
inductive Pattern where
  | empty
  | one (accepts : Char → Bool)
  /-- Any number of accepted characters. -/
  | run (accepts : Char → Bool)
  | sequence (first second : Pattern)
  | either (first second : Pattern)
  | many (body : Pattern)

namespace Pattern

/-- What is left after cutting off zero or more accepted characters, the most first. -/
def runRests (accepts : Char → Bool) : List Char → List (List Char)
  | [] => [[]]
  | c :: rest => if accepts c then runRests accepts rest ++ [c :: rest] else [c :: rest]

/-- What is left after cutting repeatedly, each cut shortening the text. -/
def repeatRests (step : List Char → List (List Char)) :
    (fuel : Nat) → List Char → List (List Char)
  | 0, cs => [cs]
  | fuel + 1, cs =>
    ((step cs).filter (·.length < cs.length)).flatMap (repeatRests step fuel) ++ [cs]

/-- What each possible cut leaves, the preferred cut first. -/
def rests : Pattern → List Char → List (List Char)
  | .empty, cs => [cs]
  | .one accepts, c :: rest => if accepts c then [rest] else []
  | .one _, [] => []
  | .run accepts, cs => runRests accepts cs
  | .sequence first second, cs => (first.rests cs).flatMap second.rests
  | .either first second, cs => first.rests cs ++ second.rests cs
  | .many body, cs => repeatRests body.rests cs.length cs

/-- The length of the preferred cut. -/
def length? (p : Pattern) (cs : List Char) : Option Nat :=
  (p.rests cs).head?.map fun rest => cs.length - rest.length

/-- Some cut leaves nothing. -/
def accepts (p : Pattern) (cs : List Char) : Bool := (p.rests cs).any (·.isEmpty)

/-- A given text. -/
def literal (s : String) : Pattern :=
  s.toList.foldr (fun c p => .sequence (.one (· == c)) p) .empty

/-- A given text, apart from case. -/
def folded (s : String) : Pattern :=
  s.toList.foldr (fun c p => .sequence (.one fun d => patternKey d == patternKey c) p) .empty

/-- Patterns one after the other. -/
def all (ps : List Pattern) : Pattern := ps.foldr .sequence .empty

/-- A character that a text lists. -/
def oneOf (s : String) : Pattern := .one fun c => s.toList.contains c

/-- The first of some patterns that fits. -/
def choice : List Pattern → Pattern
  | [] => .one fun _ => false
  | [p] => p
  | p :: rest => .either p (choice rest)

/-- A pattern or nothing. -/
def optional (p : Pattern) : Pattern := .either p .empty

/-- One or more accepted characters. -/
def some (accepts : Char → Bool) : Pattern := .sequence (.one accepts) (.run accepts)

end Pattern

end Continuity.Text
