import Continuity.Yaml.Cursor
import Continuity.Yaml.Fault

/-! # Scalars of YAML

The content of quoted, plain and block scalars. Line ends inside a scalar are folded: a single one
is a space, and of several the first goes.
-/

namespace Continuity.Yaml

/-- What scanning a piece of text gives. -/
abbrev Scan (α : Type) := Except Failure (α × Cursor)

/-- A breach of the rules on the line of the cursor. -/
def breach {α : Type} (fault : Fault) (c : Cursor) : Except Failure α :=
  .error (.malformed fault (some c.line))

/-! ## Quoted scalars -/

/-- The characters that single letters stand for after a backslash. -/
def escapes : List (Char × Char) := [
  ('0', '\x00'), ('a', '\x07'), ('b', '\x08'), ('t', '\t'), ('\t', '\t'), ('n', '\n'),
  ('v', '\x0b'), ('f', '\x0c'), ('r', '\r'), ('e', '\x1b'), (' ', ' '), ('"', '"'), ('/', '/'),
  ('\\', '\\'), ('N', '\x85'), ('_', '\xa0'), ('L', '\u2028'), ('P', '\u2029')]

/-- How many digits follow a letter that announces a code point. -/
def escapeDigits? : Char → Option Nat
  | 'x' => some 2
  | 'u' => some 4
  | 'U' => some 8
  | _ => none

/-- The number that hexadecimal digits stand for. -/
def hexNumber? (digits : List Char) : Option Nat :=
  digits.foldlM (fun n c => (Text.hexDigitValue? c).map fun d => n * 16 + d) 0

/-- A character with a given code. -/
def charOfCode (code : Nat) : Except Failure Char :=
  if code < 0x110000 then .ok (if 0xD800 ≤ code ∧ code < 0xE000 then '\uFFFD' else Char.ofNat code)
  else .error (.scalar .codePoint)

/-- The line ends, and with them the blanks, that follow inside a quoted scalar. -/
def quotedBreaks : (fuel : Nat) → Cursor → Scan (List Char)
  | 0, c => .ok ([], c)
  | fuel + 1, c =>
    if c.hasDocumentMark then breach .quoted c
    else
      let c := c.dropWhile fun char => char == ' ' || char == '\t'
      match c.lineBreak? with
      | none => .ok ([], c)
      | some (char, c) => (quotedBreaks fuel c).map fun (more, c) => (char :: more, c)

/-- A line end folded together with those that follow it. -/
def folded (char : Char) (more : List Char) : List Char :=
  if char != '\n' then char :: more else if more.isEmpty then [' '] else more

/-- The character after a backslash. -/
def escape (c : Cursor) : Scan (List Char) :=
  match c.peek with
  | none => breach .doubleQuoted c
  | some letter =>
    match escapes.lookup letter, escapeDigits? letter with
    | some char, _ => .ok ([char], c.next)
    | none, some count =>
      let digits := c.next.rest.take count
      match (if digits.length = count then hexNumber? digits else none) with
      | none => breach .doubleQuoted c.next
      | some code => (charOfCode code).map fun char => ([char], c.next.skip count)
    | none, none =>
      match c.lineBreak? with
      | some (_, c) => quotedBreaks (c.rest.length + 1) c
      | none => breach .doubleQuoted c

/-- The content of a quoted scalar up to its closing quote. -/
def quotedContent (double : Bool) : (fuel : Nat) → Cursor → Scan (List Char)
  | 0, c => breach .quoted c
  | fuel + 1, c =>
    let andThen (front : List Char) (c : Cursor) : Scan (List Char) :=
      (quotedContent double fuel c).map fun (more, c) => (front ++ more, c)
    match c.rest with
    | [] => breach .quoted c
    | '\'' :: '\'' :: _ => if double then andThen ['\''] c.next else andThen ['\''] (c.skip 2)
    | '\'' :: _ => if double then andThen ['\''] c.next else .ok ([], c.next)
    | '"' :: _ => if double then .ok ([], c.next) else andThen ['"'] c.next
    | '\\' :: _ =>
      if double then
        match escape c.next with
        | .ok (chars, c) => andThen chars c
        | .error e => .error e
      else andThen ['\\'] c.next
    | char :: _ =>
      if char == ' ' || char == '\t' || isBreak char then
        let (blanks, c) := c.takeWhile fun char => char == ' ' || char == '\t'
        match c.lineBreak? with
        | some (char, c) =>
          match quotedBreaks (c.rest.length + 1) c with
          | .ok (more, c) => andThen (folded char more) c
          | .error e => .error e
        | none => if c.rest.isEmpty then breach .quoted c else andThen blanks c
      else
        let (word, c) := c.takeWhile fun char =>
          !(char == ' ' || char == '\t' || char == '\'' || char == '"' || char == '\\' ||
            isBreak char)
        andThen word c

/-- A quoted scalar, from its opening quote on. -/
def quotedScalar (double : Bool) (c : Cursor) : Scan String :=
  (quotedContent double (2 * c.rest.length + 2) c.next).map fun (chars, c) =>
    (String.ofList chars, c)

/-! ## Plain scalars -/

/-- The characters of a plain scalar up to a blank or to what may not stand in one. A colon may
stand before anything but a blank or an end. -/
def plainWord (inFlow modern : Bool) : List Char → List Char
  | [] => []
  | char :: rest =>
    if char == ':' && !endsWord rest.head? then char :: plainWord inFlow modern rest
    else if char == '?' && modern then char :: plainWord inFlow modern rest
    else if endsWord (some char) || (!inFlow && char == ':') ||
        (inFlow && (char == ',' || char == ':' || char == '?' || char == '[' || char == ']' ||
          char == '\x7b' || char == '\x7d')) then []
    else char :: plainWord inFlow modern rest

/-- The line ends and spaces that follow a line end inside a plain scalar; nothing, if a mark
between documents comes. -/
def plainBreaks : (fuel : Nat) → Cursor → Option (List Char) × Cursor
  | 0, c => (some [], c)
  | fuel + 1, c =>
    let c := c.dropSpaces
    match c.lineBreak? with
    | none => (some [], c)
    | some (char, c) =>
      if c.hasDocumentMark then (none, c)
      else
        let (more, c) := plainBreaks fuel c
        (more.map (char :: ·), c)

/-- What separates two words of a plain scalar, and whether a line has ended. Nothing separates
them where the scalar ends. -/
def plainGap (c : Cursor) : List Char × Bool × Cursor :=
  let (spaces, c) := c.takeWhile (· == ' ')
  match c.lineBreak? with
  | none => (spaces, false, c)
  | some (char, c) =>
    if c.hasDocumentMark then ([], true, c)
    else match plainBreaks (c.rest.length + 1) c with
      | (none, c) => ([], true, c)
      | (some more, c) => (folded char more, true, c)

/-- The words of a plain scalar, the separator before the first included. Lines in block style must
be indented by `indent`. The answer tells whether a line has ended on the way. -/
def plainWords (inFlow modern : Bool) (indent : Int) (gap : List Char) (ended : Bool) :
    (fuel : Nat) → Cursor → List Char × Bool × Cursor
  | 0, c => ([], ended, c)
  | fuel + 1, c =>
    if c.at? '#' then ([], ended, c)
    else
      let word := plainWord inFlow modern c.rest
      if word.isEmpty then ([], ended, c)
      else
        let (next, broke, c) := plainGap (c.skip word.length)
        if next.isEmpty || c.at? '#' || (!inFlow && (c.column : Int) < indent) then
          (gap ++ word, broke, c)
        else
          let (more, ended, c) := plainWords inFlow modern indent next broke fuel c
          (gap ++ word ++ more, ended, c)

/-- A plain scalar, and whether the line has ended behind it. -/
def plainScalar (inFlow modern : Bool) (indent : Int) (c : Cursor) : String × Bool × Cursor :=
  let (chars, ended, c) := plainWords inFlow modern indent [] false (c.rest.length + 1) c
  (String.ofList chars, ended, c)

/-! ## Block scalars -/

/-- What becomes of the line ends behind a block scalar. -/
inductive Chomping where
  | clip
  | keep
  | strip
  deriving Repr, DecidableEq

/-- The chomping that a character asks for. -/
def chomping? : Option Char → Option Chomping
  | some '+' => some .keep
  | some '-' => some .strip
  | _ => none

/-- A decimal digit's value. -/
def indentation? : Option Char → Option Nat
  | some char => if char.isDigit then some (char.toNat - '0'.toNat) else none
  | none => none

/-- The chomping and the indentation that a block scalar's first line gives, in either order. -/
def blockHeader (c : Cursor) : Scan (Chomping × Option Nat) :=
  let (chomping, c) := match chomping? c.peek with
    | some chomping => (some chomping, c.next)
    | none => (none, c)
  match indentation? c.peek with
  | some 0 => breach .blockScalar c
  | indent =>
    let c := if indent.isSome then c.next else c
    let (chomping, c) := match chomping, indent.isSome, chomping? c.peek with
      | none, true, some chomping => (some chomping, c.next)
      | chomping, _, _ => (chomping, c)
    if endsField c.peek then .ok ((chomping.getD .clip, indent), c) else breach .blockScalar c

/-- The cursor on the line after a block scalar's first. -/
def blockHeaderEnd (c : Cursor) : Except Failure Cursor :=
  let c := c.dropSpaces
  let c := if c.at? '#' then c.dropLine else c
  if endsLine c.peek then .ok (match c.lineBreak? with | some (_, c) => c | none => c)
  else breach .blockScalar c

/-- The empty lines before a block scalar's text, and the deepest column reached on the way;
`first` is the column where the first empty line ends. -/
def leadingLines (first : Option Nat) (deepest : Nat) :
    (fuel : Nat) → Cursor → List Char × Option Nat × Nat × Cursor
  | 0, c => ([], first, deepest, c)
  | fuel + 1, c =>
    if c.at? ' ' then leadingLines first (max deepest (c.column + 1)) fuel c.next
    else match c.lineBreak? with
      | none => ([], first, deepest, c)
      | some (char, after) =>
        let (more, first, deepest, c) :=
          leadingLines (some (first.getD c.column)) deepest fuel after
        (char :: more, first, deepest, c)

/-- The cursor after spaces, no further than a column. -/
def indentTo (indent : Nat) : (fuel : Nat) → Cursor → Cursor
  | 0, c => c
  | fuel + 1, c => if c.column < indent && c.at? ' ' then indentTo indent fuel c.next else c

/-- The empty lines inside or behind a block scalar, and the cursor in the column of its text. -/
def emptyLines (indent : Nat) : (fuel : Nat) → Cursor → List Char × Cursor
  | 0, c => ([], c)
  | fuel + 1, c =>
    let c := indentTo indent indent c
    match c.lineBreak? with
    | none => ([], c)
    | some (char, c) =>
      let (more, c) := emptyLines indent fuel c
      (char :: more, c)

/-- What the lines of a block scalar give, with its last line end and the empty lines behind. -/
structure BlockText where
  content : List Char
  ending : List Char
  behind : List Char
  deriving Repr, DecidableEq

/-- A character begins a line that is not folded. -/
def startsMoreIndented (c : Option Char) : Bool := c == some ' ' || c == some '\t'

/-- The lines of a block scalar from the cursor on; `breaks` are the empty lines before. -/
def blockLines (fold atMargin : Bool) (indent : Nat) (ending breaks : List Char) :
    (fuel : Nat) → Cursor → BlockText × Cursor
  | 0, c => (⟨[], ending, breaks⟩, c)
  | fuel + 1, c =>
    if c.column != indent || c.rest.isEmpty then (⟨[], ending, breaks⟩, c)
    else
      let wasIndented := startsMoreIndented c.peek
      let (line, c) := c.takeWhile fun char => !endsLine (some char)
      let (ending, c) := match c.lineBreak? with
        | some (char, c) => ([char], c)
        | none => ([], c)
      let (next, c) := emptyLines indent (c.rest.length + 1) c
      if (atMargin && c.hasDocumentMark && c.column == 0) || c.column != indent || c.rest.isEmpty then
        (⟨breaks ++ line, ending, next⟩, c)
      else
        let joint := if fold && ending == ['\n'] && !wasIndented && !startsMoreIndented c.peek then
            if next.isEmpty then [' '] else []
          else ending
        let (text, c) := blockLines fold atMargin indent [] next fuel c
        (⟨breaks ++ line ++ joint ++ text.content, text.ending, text.behind⟩, c)

/-- A block scalar, from its mark on; `outer` is the indentation around it. -/
def blockScalar (fold : Bool) (outer : Int) (c : Cursor) :
    Except Failure (String × Cursor) := do
  let ((chomping, increment), c) ← blockHeader c.next
  let c ← blockHeaderEnd c
  let least : Nat := (outer + 1).toNat
  let fuel := c.rest.length + 1
  let (breaks, indent, c) ← match increment with
    | some increment =>
      let indent := max least 1 + increment - 1
      let (breaks, c) := emptyLines indent fuel c
      pure (breaks, indent, c)
    | none =>
      let (breaks, first, deepest, c) := leadingLines none 0 fuel c
      if first.any fun first => 0 < first && first < deepest then
        throw (Failure.malformed .looseBlockScalar none)
      pure (breaks, max least deepest, c)
  let atMargin := least == 0 && increment.isNone
  let (text, c) := blockLines fold atMargin indent [] breaks fuel c
  let ending := match chomping with
    | .strip => []
    | .clip => text.ending
    | .keep => text.ending ++ text.behind
  return (String.ofList (text.content ++ ending), c)

end Continuity.Yaml
