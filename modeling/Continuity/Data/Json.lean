import Continuity.Text.Quoted

/-! # JSON documents

The document type and its two printers: one on a single line, and one with each member on a line of
its own. Whole numbers are exact; floating-point numbers are what a number with a point or an
exponent reads as. Objects keep their members in order, each name once.
-/

namespace Continuity

/-- A JSON document. -/
inductive Json where
  | null
  | bool (b : Bool)
  | int (n : Int)
  | float (x : Float)
  | text (s : String)
  | list (items : List Json)
  | object (members : List (String × Json))
  deriving Inhabited

namespace Json

open Text (hexDigits)

/-- Which characters of a text are escaped beyond those that must be. -/
inductive Escaping where
  | controls
  | nonAscii
  deriving Repr, DecidableEq

/-- A character as one or two escaped code units. -/
def escapeUnits (c : Char) : List Char :=
  let n := c.toNat
  if n < 0x10000 then '\\' :: 'u' :: hexDigits n 4
  else
    let v := n - 0x10000
    '\\' :: 'u' :: hexDigits (0xD800 + v / 0x400) 4 ++
      '\\' :: 'u' :: hexDigits (0xDC00 + v % 0x400) 4

/-- A character inside a written text. -/
def escapeChar (escaping : Escaping) (c : Char) : List Char :=
  if c == '"' then ['\\', '"']
  else if c == '\\' then ['\\', '\\']
  else if c == '\n' then ['\\', 'n']
  else if c == '\r' then ['\\', 'r']
  else if c == '\t' then ['\\', 't']
  else if c == '\x08' then ['\\', 'b']
  else if c == '\x0c' then ['\\', 'f']
  else if c.toNat < 0x20 then escapeUnits c
  else if escaping == .nonAscii && c.toNat ≥ 0x7F then escapeUnits c
  else [c]

/-- A written text, with its quotes. -/
def quotedText (escaping : Escaping) (cs : List Char) : List Char :=
  '"' :: cs.flatMap (escapeChar escaping) ++ ['"']

/-- Where line breaks and blanks go: on one line, or with members indented by two per level. -/
inductive Layout where
  | line
  | indented (level : Nat)
  deriving Repr, DecidableEq

namespace Layout

/-- The layout of a document's members. -/
def inner : Layout → Layout
  | .line => .line
  | .indented level => .indented (level + 1)

/-- What stands before a member, and before the closing bracket. -/
def lineStart : Layout → List Char
  | .line => []
  | .indented level => '\n' :: List.replicate (2 * level) ' '

/-- What separates two members. -/
def separator : Layout → List Char
  | .line => [',', ' ']
  | .indented level => ',' :: lineStart (.indented level)

end Layout

/-- A number without a finite value has a name. -/
def floatText (x : Float) (finite : Float → String) : List Char :=
  if x.isNaN then "NaN".toList
  else if x.isInf then (if x < 0 then "-Infinity" else "Infinity").toList
  else (finite x).toList

section

variable (escaping : Escaping) (finite : Float → String)

mutual

/-- The characters of a document. -/
def chars (layout : Layout) : Json → List Char
  | .null => "null".toList
  | .bool true => "true".toList
  | .bool false => "false".toList
  | .int n => (toString n).toList
  | .float x => floatText x finite
  | .text s => quotedText escaping s.toList
  | .list [] => ['[', ']']
  | .list (item :: rest) =>
    '[' :: layout.inner.lineStart ++ chars layout.inner item ++ itemChars layout.inner rest ++
      layout.lineStart ++ [']']
  | .object [] => ['\x7b', '\x7d']
  | .object ((name, item) :: rest) =>
    '\x7b' :: layout.inner.lineStart ++ quotedText escaping name.toList ++ ':' :: ' ' ::
      chars layout.inner item ++ memberChars layout.inner rest ++ layout.lineStart ++ ['\x7d']

/-- The characters of a list's items after the first. -/
def itemChars (layout : Layout) : List Json → List Char
  | [] => []
  | item :: rest => layout.separator ++ chars layout item ++ itemChars layout rest

/-- The characters of an object's members after the first. -/
def memberChars (layout : Layout) : List (String × Json) → List Char
  | [] => []
  | (name, item) :: rest =>
    layout.separator ++ quotedText escaping name.toList ++ ':' :: ' ' :: chars layout item ++
      memberChars layout rest

end

end

/-- The document with one member per line. -/
def indented (finite : Float → String) (j : Json) : String :=
  String.ofList (chars .controls finite (.indented 0) j)

/-- The document on one line, in ASCII. -/
def oneLine (finite : Float → String) (j : Json) : String :=
  String.ofList (chars .nonAscii finite .line j)

/-- The members with one more; a name already present keeps its place. -/
def insertMember (name : String) (value : Json) :
    List (String × Json) → List (String × Json)
  | [] => [(name, value)]
  | (n, v) :: rest =>
    if n == name then (n, value) :: rest else (n, v) :: insertMember name value rest

/-- The member of an object with a name. -/
def get? (name : String) : Json → Option Json
  | .object members => (members.find? (·.1 == name)).map (·.2)
  | _ => none

end Json

end Continuity
