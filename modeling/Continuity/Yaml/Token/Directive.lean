import Continuity.Text.Utf8
import Continuity.Yaml.Token
import Continuity.Yaml.Token.Scalar

/-! # Directives, anchors and tags of YAML -/

namespace Continuity.Yaml

/-- A letter or digit of ASCII. -/
def isAlphanumeric (c : Char) : Bool := c.isAlpha || c.isDigit

/-! ## Anchors and aliases -/

/-- A character that may stand in the name of an anchor. -/
def isAnchorChar (c : Char) : Bool :=
  let code := c.toNat
  !(c == ',' || c == '[' || c == ']' || c == '\x7b' || c == '\x7d') &&
    ((0x21 ≤ code && code ≤ 0x7E) || (0xA0 ≤ code && code ≤ 0xD7FF) ||
      (0xE000 ≤ code && code ≤ 0xFFFD && code != 0xFEFF) || 0x10000 ≤ code)

/-- The name of an anchor or alias, from its mark on. -/
def anchorName (fault : Fault) (c : Cursor) : Scan String :=
  let (name, c) := c.next.takeWhile isAnchorChar
  if name.isEmpty then breach fault c else .ok (String.ofList name, c)

/-! ## Tags -/

/-- A character that may stand in a tag. -/
def isTagChar (modern : Bool) (c : Char) : Bool :=
  isAlphanumeric c || "-;/?:@&=+$,_.!~*'()[]".toList.contains c || (modern && c == '#')

/-- The byte that two hexadecimal digits after a percent sign stand for. -/
def escapedByte? (c : Cursor) : Option UInt8 :=
  match c.rest with
  | '%' :: a :: b :: _ =>
    match Text.hexDigitValue? a, Text.hexDigitValue? b with
    | some x, some y => some (UInt8.ofNat (16 * x + y))
    | _, _ => none
  | _ => none

/-- The bytes of consecutive escapes. -/
def escapedBytes : (fuel : Nat) → Cursor → List UInt8 × Cursor
  | 0, c => ([], c)
  | fuel + 1, c =>
    match escapedByte? c with
    | none => ([], c)
    | some byte =>
      let (more, c) := escapedBytes fuel (c.skip 3)
      (byte :: more, c)

/-- The characters of a tag, escapes resolved. -/
def tagChars (place : TagPlace) (modern : Bool) : (fuel : Nat) → Cursor → Scan (List Char)
  | 0, c => .ok ([], c)
  | fuel + 1, c =>
    let (plain, c) := c.takeWhile (isTagChar modern)
    if c.at? '%' then
      let (bytes, after) := escapedBytes (c.rest.length + 1) c
      match Text.decodeUtf8 bytes with
      | .error _ => breach (.tagPart place) c
      | .ok chars =>
        if bytes.isEmpty || after.at? '%' then breach (.tagPart place) after
        else (tagChars place modern fuel after).map fun (more, c) => (plain ++ chars ++ more, c)
    else .ok (plain, c)

/-- The content of a tag, which is not empty. -/
def tagContent (place : TagPlace) (modern : Bool) (c : Cursor) : Scan String :=
  match tagChars place modern (c.rest.length + 1) c with
  | .error e => .error e
  | .ok ([], c) => breach (.tagContent place) c
  | .ok (chars, c) => .ok (String.ofList chars, c)

/-- A handle: an exclamation mark, or a name between two. -/
def tagHandle (place : TagPlace) (c : Cursor) : Scan String :=
  if !c.at? '!' then breach (.tagPart place) c
  else if c.peekAt 1 == some ' ' then .ok ("!", c.next)
  else
    let (name, after) := c.next.takeWhile fun c => isAlphanumeric c || c == '-' || c == '_'
    if after.at? '!' then .ok ("!" ++ String.ofList name ++ "!", after.next)
    else breach (.tagPart place) after

/-- A tag, from its exclamation mark on. -/
def tagAt (modern : Bool) (c : Cursor) : Scan (Option String × String) :=
  let result : Scan (Option String × String) :=
    if c.peekAt 1 == some '<' then
      match tagContent .tag modern (c.skip 2) with
      | .error e => .error e
      | .ok (name, c) =>
        if c.at? '>' then .ok ((none, name), c.next) else breach .tag c
    else if endsWord (c.peekAt 1) then .ok ((none, "!"), c.next)
    else
      let word := c.next.rest.takeWhile fun char => !endsField (some char)
      let start := if word.contains '!' then tagHandle .tag c else .ok ("!", c.next)
      match start with
      | .error e => .error e
      | .ok (handle, c) =>
        (tagContent .tag modern c).map fun (name, c) => ((some handle, name), c)
  match result with
  | .error e => .error e
  | .ok (found, c) => if endsField c.peek then .ok (found, c) else breach .tag c

/-! ## Directives -/

/-- A number of a version. -/
def versionNumber (c : Cursor) : Scan Nat :=
  let (digits, after) := c.takeWhile Char.isDigit
  if digits.isEmpty then breach .directive c
  else .ok (digits.foldl (fun n d => n * 10 + (d.toNat - '0'.toNat)) 0, after)

/-- A version: two numbers with a point between them. -/
def versionDirective (c : Cursor) : Except Failure (TokenKind × Cursor) := do
  let (major, c) ← versionNumber c.dropSpaces
  if !c.at? '.' then breach .directive c
  else
    let (minor, c) ← versionNumber c.next
    if endsField c.peek then return (.version major minor, c) else breach .directive c

/-- A handle and what it stands for. -/
def handleDirective (modern : Bool) (c : Cursor) : Except Failure (TokenKind × Cursor) := do
  let (handle, c) ← tagHandle .directive c.dropSpaces
  if !c.at? ' ' then breach .directive c
  else
    let (replacement, c) ← tagContent .directive modern c.dropSpaces
    if endsField c.peek then return (.tagHandle handle replacement, c) else breach .directive c

/-- A directive, from its percent sign to the end of its line. -/
def directiveAt (modern : Bool) (c : Cursor) : Except Failure (TokenKind × Cursor) := do
  let (name, c) := c.next.takeWhile fun c =>
    isAlphanumeric c || c == '-' || c == '_' || c == ':' || c == '.'
  if name.isEmpty || !endsField c.peek then breach .directive c
  else
    let (kind, c) ←
      if name == "YAML".toList then versionDirective c
      else if name == "TAG".toList then handleDirective modern c
      else pure (.otherDirective, c.dropLine)
    let c := c.dropSpaces
    let c := if c.at? '#' then c.dropLine else c
    if endsLine c.peek then
      return (kind, match c.lineBreak? with | some (_, c) => c | none => c)
    else breach .directive c

end Continuity.Yaml
