/-! # Wildcards in names

A wildcard pattern matches a whole name: a star stands for any characters, a question mark for one,
and a bracket for one of a set. An opening bracket that is never closed stands for itself.
-/

namespace Continuity.Files

/-- A member of a bracketed set. -/
inductive SetMember where
  | one (c : Char)
  | range (low high : Char)
  deriving Repr, DecidableEq

/-- A piece of a wildcard pattern. -/
inductive Wildcard where
  | char (c : Char)
  | any
  | anyRun
  | set (negated : Bool) (members : List SetMember)
  deriving Repr, DecidableEq

namespace SetMember

/-- Membership of a character. -/
def contains (c : Char) : SetMember → Bool
  | .one d => c == d
  | .range low high => low ≤ c && c ≤ high

/-- The members that a bracket's content lists. A hyphen between two characters makes a range; a
range that runs backwards is empty. -/
def ofChars : List Char → List SetMember
  | low :: '-' :: high :: rest =>
    if low ≤ high then .range low high :: ofChars rest else ofChars rest
  | c :: rest => .one c :: ofChars rest
  | [] => []

end SetMember

namespace Wildcard

/-- The set that a bracket's content describes: an exclamation mark in front negates it. -/
def ofBracket (content : List Char) : Wildcard :=
  let members : List SetMember := match content with
    | '!' :: rest => .one '!' :: SetMember.ofChars rest
    | content => SetMember.ofChars content
  match members with
  | .one '!' :: rest => .set true rest
  | members => .set false members

/-- The content of a bracket, up to the closing bracket, and what comes after. A closing bracket
that would leave the content empty belongs to it. -/
def bracket? (cs : List Char) : Option (List Char × List Char) :=
  let (mark, cs) := match cs with
    | '!' :: rest => (['!'], rest)
    | cs => ([], cs)
  let (first, cs) := match cs with
    | ']' :: rest => ([']'], rest)
    | cs => ([], cs)
  match cs.dropWhile (· != ']') with
  | [] => none
  | _ :: rest => some (mark ++ first ++ cs.takeWhile (· != ']'), rest)

/-- The pieces of a pattern; `skip` characters belong to the bracket before. -/
def parseFrom (skip : Nat) : List Char → List Wildcard
  | [] => []
  | c :: rest =>
    match skip with
    | skip + 1 => parseFrom skip rest
    | 0 =>
      if c == '*' then .anyRun :: parseFrom 0 rest
      else if c == '?' then .any :: parseFrom 0 rest
      else if c == '[' then
        match bracket? rest with
        | none => .char c :: parseFrom 0 rest
        | some (content, _) => ofBracket content :: parseFrom (content.length + 1) rest
      else .char c :: parseFrom 0 rest

/-- The pieces of a pattern. -/
def parse (pattern : String) : List Wildcard := parseFrom 0 pattern.toList

/-- A piece that stands for one character accepts it. -/
def accepts (c : Char) : Wildcard → Bool
  | .char d => c == d
  | .any => true
  | .anyRun => false
  | .set negated members => members.any (·.contains c) != negated

/-- Some end of a text satisfies a test. -/
def anySuffix (test : List Char → Bool) : List Char → Bool
  | [] => test []
  | c :: rest => test (c :: rest) || anySuffix test rest

/-- A whole name matches the pieces of a pattern. -/
def matchesAll : List Wildcard → List Char → Bool
  | [], name => name.isEmpty
  | .anyRun :: rest, name => anySuffix (matchesAll rest) name
  | _ :: _, [] => false
  | piece :: rest, c :: name => piece.accepts c && matchesAll rest name

/-- A whole name matches a pattern. -/
def matchesName (pattern name : String) : Bool := matchesAll (parse pattern) name.toList

end Wildcard

end Continuity.Files
