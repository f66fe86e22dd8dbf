import Continuity.Markdown.Html
import Continuity.Markdown.Inline.Emphasis
import Continuity.Markdown.LinkPart
import Continuity.Web.Url

/-! # Reading inline content

Inline content is read from left to right. At each position the construct that the character there
can begin is tried, and what begins nothing is text. To find the end of a link's label the same
constructs are passed over without being kept; the positions after them are remembered, and the
nesting of labels inside labels is bounded.
-/

namespace Continuity.Markdown.InlineReader

open Web (Url)

/-- How deep labels may nest inside labels. -/
def maxNesting : Nat := 20

/-- What is remembered while a text is read. -/
structure Memo where
  /-- For each position, the position after the construct that begins there. -/
  passed : Array (Option Nat)
  /-- For each length, where the last run of so many backticks was seen. -/
  tickRuns : List (Nat × Nat) := []
  /-- All runs of backticks have been seen. -/
  ticksKnown : Bool := false

namespace Memo

/-- The memory at the start of a text. -/
def ofText (src : Array Char) : Memo := { passed := Array.replicate (src.size + 1) none }

/-- The position after the construct at `pos`, if it was passed before. -/
def passed? (m : Memo) (pos : Nat) : Option Nat := (m.passed[pos]?).join

/-- Remembers that a construct was passed. -/
def pass (m : Memo) (pos next : Nat) : Memo :=
  { m with passed := m.passed.setIfInBounds pos (some next) }

/-- The last run of a length, or the start of the text. -/
def tickRun (m : Memo) (length : Nat) : Nat :=
  ((m.tickRuns.find? (·.1 == length)).map (·.2)).getD 0

end Memo

/-- Characters at which something other than text may begin. -/
def isTerminator (c : Char) : Bool :=
  "\n!#$%&*+-:<=>@[\\]^_\x60\x7b\x7d~".toList.contains c

/-- What a run of backticks begins: code, or nothing but itself. -/
inductive TickRun where
  | code (mark content : List Char) (next : Nat)
  | marks (next : Nat)

/-- Code loses one space at either end if both ends have one and something else stands between. -/
def trimCode (content : List Char) : List Char :=
  let content := content.map fun c => if c == '\n' then ' ' else c
  if content.head? == some ' ' && content.getLast? == some ' ' && !(Text.trim content).isEmpty then
    (content.drop 1).dropLast
  else content

/-- Seeks the run that closes code opened by `length` backticks, noting the runs on the way. -/
def findTicks (src : Array Char) (length stop : Nat) :
    (fuel : Nat) → Memo → Nat → Memo × Option (Nat × Nat)
  | 0, memo, _ => (memo, none)
  | fuel + 1, memo, pos =>
    let start := skipWhile (·.toNat != 0x60) src pos src.size
    if src.size ≤ start then ({ memo with ticksKnown := true }, none)
    else
      let next := skipWhile (·.toNat == 0x60) src (start + 1) stop
      if next - start = length then (memo, some (start, next))
      else findTicks src length stop fuel
        { memo with tickRuns := (next - start, start) :: memo.tickRuns } next

/-- What the backticks at a position begin. -/
def readTicks (src : Array Char) (stop : Nat) (memo : Memo) (pos : Nat) : Memo × TickRun :=
  let next := skipWhile (·.toNat == 0x60) src (pos + 1) stop
  let length := next - pos
  if memo.ticksKnown && memo.tickRun length ≤ pos then (memo, .marks next)
  else
    match findTicks src length stop (src.size + 1) memo next with
    | (memo, some (start, after)) =>
      (memo, .code (slice src pos next) (trimCode (slice src next start)) after)
    | (memo, none) => (memo, .marks next)

/-- What a backslash makes of the character after it. -/
inductive Escaped where
  | lineBreak (next : Nat)
  | text (content : List Char) (next : Nat)

/-- The escape at a backslash. -/
def escape? (src : Array Char) (stop pos : Nat) : Option Escaped :=
  if stop ≤ pos + 1 then none
  else match src[pos + 1]? with
    | none => none
    | some '\n' => some (.lineBreak (skipWhile isGap src (pos + 2) stop))
    | some c => some (.text (if isEscapable c then [c] else ['\\', c]) (pos + 2))

/-- An address in angle brackets. -/
structure Autolink where
  url : List Char
  shown : List Char
  next : Nat

/-- A text without a final line feed. -/
def dropFinalNewline (cs : List Char) : List Char :=
  if cs.getLast? == some '\n' then cs.dropLast else cs

/-- Characters of an address with a scheme. -/
def isAddressChar (c : Char) : Bool := !(c == '<' || c == '>' || c.toNat ≤ 0x20)

/-- A scheme of two to thirty-two characters and what follows its colon; the text may end in a line
feed. -/
def isAddress (cs : List Char) : Bool :=
  let scheme := cs.takeWhile fun c => c.isAlphanum || c == '+' || c == '.' || c == '-'
  let fits := fun (cs : List Char) => match cs.drop scheme.length with
    | ':' :: rest => rest.all isAddressChar
    | _ => false
  scheme.head?.any Char.isAlpha && 2 ≤ scheme.length && scheme.length ≤ 32 &&
    (fits cs || fits (dropFinalNewline cs))

/-- A label of a mail host: at most sixty-three characters, with hyphens only inside. -/
def isMailLabel (label : List Char) : Bool :=
  !label.isEmpty && label.length ≤ 63 && label.all (fun c => c.isAlphanum || c == '-') &&
    label.head? != some '-' && label.getLast? != some '-'

/-- A mail address; the text may end in a line feed. -/
def isMail (cs : List Char) : Bool :=
  let fits := fun (cs : List Char) =>
    let user := cs.takeWhile fun c =>
      c.isAlphanum || ".!#$%&'*+/=?^_\x60\x7b|\x7d~-".toList.contains c
    match cs.drop user.length with
    | '@' :: host => !user.isEmpty && (Text.splitOn '.' host).all isMailLabel
    | _ => false
  fits cs || fits (dropFinalNewline cs)

/-- The address in angle brackets at a position. -/
def autolink? (src : Array Char) (stop pos : Nat) : Option Autolink :=
  let close := skipWhile (fun c => c != '<' && c != '>') src (pos + 1) stop
  if close < stop && src[close]? == some '>' then
    let text := slice src (pos + 1) close
    let target :=
      if isAddress text then some text
      else if isMail text then some ("mailto:".toList ++ text)
      else none
    target.bind fun target =>
      let url := Url.normalize target
      if Url.isAllowed url then some ⟨url, Url.display text, close + 1⟩ else none
  else none

/-- The length of the HTML at a position; it may not be the last two characters of the content. -/
def htmlLength? (src : Array Char) (stop pos : Nat) : Option Nat :=
  if stop ≤ pos + 2 then none
  else match src[pos + 1]? with
    | some c =>
      if c == '!' || c == '?' || c == '/' || c.isAlpha then
        Html.inlineLength? (slice src pos src.size)
      else none
    | none => none

/-- The reference at an ampersand: what it stands for and the position after it. -/
def referenceAt? (src : Array Char) (stop pos : Nat) : Option (List Char × Nat) :=
  if stop ≤ pos + 1 then none
  else (reference? (slice src (pos + 1) (min src.size (pos + 36)))).map fun (content, size) =>
    (content, pos + size)

/-- How a construct is passed over. -/
abbrev Pass := Memo → Nat → Memo × Nat

/-- The closing bracket of a label, from a position inside it at which `depth` brackets are open.
With `flat`, a link inside the label refuses it. -/
def labelEnd? (src : Array Char) (stop : Nat) (pass : Pass) (flat : Bool) :
    (fuel depth : Nat) → Memo → Nat → Memo × Option Nat
  | 0, _, memo, _ => (memo, none)
  | fuel + 1, depth, memo, pos =>
    if stop ≤ pos then (memo, none)
    else
      let mark := src[pos]?
      if mark == some ']' && depth == 1 then (memo, some pos)
      else
        let depth := if mark == some ']' then depth - 1 else depth
        let (memo, next) := pass memo pos
        if mark == some '[' then
          if next == pos + 1 then labelEnd? src stop pass flat fuel (depth + 1) memo next
          else if flat then (memo, none)
          else labelEnd? src stop pass flat fuel depth memo next
        else labelEnd? src stop pass flat fuel depth memo next

/-- The closing bracket of the label whose opening bracket is at `pos`. -/
def label? (src : Array Char) (stop : Nat) (pass : Pass) (flat : Bool) (memo : Memo) (pos : Nat) :
    Memo × Option Nat :=
  labelEnd? src stop pass flat (stop - pos) 1 memo (pos + 1)

/-- A link or picture: where its label lies, where it leads, and the position after it. -/
structure LinkSpan where
  labelStart : Nat
  labelStop : Nat
  url : List Char
  title : List Char
  next : Nat

/-- Destination and title after an opening parenthesis, and the position where the closing one
should stand. -/
structure Target where
  url : List Char
  title : List Char
  stop : Nat

/-- Reads destination and title; `none` if the content ends first. -/
def target? (src : Array Char) (stop pos : Nat) : Option Target :=
  let pos := skipWhile isGapOrNewline src pos stop
  if stop ≤ pos then none
  else match destination? src pos stop with
    | none => some ⟨[], [], pos⟩
    | some part =>
      let url := Url.normalize part.text
      if Url.isAllowed url then
        let gap := skipWhile isGapOrNewline src part.next stop
        match readTitle src gap stop with
        | .closed title =>
          if gap < stop && gap != part.next then
            some ⟨url, title.text, skipWhile isGapOrNewline src title.next stop⟩
          else some ⟨url, [], gap⟩
        | _ => some ⟨url, [], gap⟩
      else some ⟨[], [], pos⟩

/-- A link by reference. The second label, if there is one, is sought at `pos`. -/
def referenceLink? (src : Array Char) (definitions : Definitions) (stop : Nat) (pass : Pass)
    (labelStart labelStop : Nat) (memo : Memo) (pos : Nat) : Memo × Option LinkSpan :=
  if definitions.isEmpty then (memo, none)
  else
    let first := slice src labelStart labelStop
    let finish := fun (memo : Memo) (label : List Char) (next : Nat) =>
      let label := if label.isEmpty then first else label
      (memo, (definitions.find? (labelKey label)).map fun d =>
        (⟨labelStart, labelStop, d.destination, d.title, next⟩ : LinkSpan))
    if pos < stop && src[pos]? == some '[' then
      match label? src stop pass false memo pos with
      | (memo, some close) => finish memo (slice src (pos + 1) close) (close + 1)
      | (memo, none) => finish memo [] (labelStop + 1)
    else finish memo [] (labelStop + 1)

/-- The link whose opening bracket is at a position. -/
def link? (src : Array Char) (definitions : Definitions) (stop : Nat) (pass : Pass)
    (memo : Memo) (pos : Nat) : Memo × Option LinkSpan :=
  match label? src stop pass true memo pos with
  | (memo, none) => (memo, none)
  | (memo, some close) =>
    if close + 1 < stop && src[close + 1]? == some '(' then
      match target? src stop (close + 2) with
      | none => (memo, none)
      | some t =>
        if t.stop < stop && src[t.stop]? == some ')' then
          (memo, some ⟨pos + 1, close, t.url, t.title, t.stop + 1⟩)
        else referenceLink? src definitions stop pass (pos + 1) close memo (t.stop + 1)
    else referenceLink? src definitions stop pass (pos + 1) close memo (close + 1)

/-- The picture whose exclamation mark is at a position. -/
def image? (src : Array Char) (definitions : Definitions) (stop : Nat) (pass : Pass)
    (memo : Memo) (pos : Nat) : Memo × Option LinkSpan :=
  if pos + 1 < stop && src[pos + 1]? != some '[' then (memo, none)
  else
    match label? src stop pass false memo (pos + 1) with
    | (memo, none) => (memo, none)
    | (memo, some close) =>
      if close + 1 < stop && src[close + 1]? == some '(' then
        match target? src stop (close + 2) with
        | none => (memo, none)
        | some t =>
          if t.stop < stop && src[t.stop]? == some ')' then
            (memo, some ⟨pos + 2, close, t.url, t.title, t.stop + 1⟩)
          else (memo, none)
      else referenceLink? src definitions stop pass (pos + 2) close memo (close + 1)

/-- The position after the construct at `pos`, if one begins there. -/
def constructEnd? (src : Array Char) (definitions : Definitions) (stop : Nat) (pass : Pass)
    (memo : Memo) (pos : Nat) : Memo × Option Nat :=
  match src[pos]? with
  | none => (memo, none)
  | some c =>
    if !isTerminator c then (memo, some (skipWhile (!isTerminator ·) src pos stop))
    else if c == '\n' then (memo, some (skipWhile isGap src (pos + 1) stop))
    else if c == '\\' then
      (memo, (escape? src stop pos).map fun
        | .lineBreak next => next
        | .text _ next => next)
    else if c.toNat == 0x60 then
      match readTicks src stop memo pos with
      | (memo, .code _ _ next) => (memo, some next)
      | (memo, .marks next) => (memo, some next)
    else if c == '[' then
      let (memo, span) := link? src definitions stop pass memo pos
      (memo, span.map (·.next))
    else if c == '!' then
      let (memo, span) := image? src definitions stop pass memo pos
      (memo, span.map (·.next))
    else if c == '<' then
      (memo, ((autolink? src stop pos).map (·.next)) <|>
        (htmlLength? src stop pos).map (pos + ·))
    else if c == '&' then (memo, (referenceAt? src stop pos).map (·.2))
    else (memo, none)

/-- Passes over what stands at a position. Beyond the bound on nesting the rest is passed over at
once. -/
def pass (src : Array Char) (definitions : Definitions) (stop : Nat) : (budget : Nat) → Pass
  | 0, memo, pos =>
    match memo.passed? pos with
    | some next => (memo, next)
    | none => (memo.pass pos (stop + 1), stop + 1)
  | budget + 1, memo, pos =>
    match memo.passed? pos with
    | some next => (memo, next)
    | none =>
      let (memo, found) := constructEnd? src definitions stop (pass src definitions stop budget)
        memo pos
      let next := found.getD (pos + 1)
      (memo.pass pos next, next)

/-- Content that was read: whole pieces, text not yet a piece, and the marks of emphasis. Pieces
and text are reversed. -/
structure Draft where
  pieces : List Inline := []
  pieceCount : Nat := 0
  pending : List Char := []
  delimiters : Array Delimiter := #[]

namespace Draft

/-- Adds a piece. -/
def push (d : Draft) (piece : Inline) : Draft :=
  { d with pieces := piece :: d.pieces, pieceCount := d.pieceCount + 1 }

/-- Makes the pending text a piece. -/
def flush (d : Draft) : Draft :=
  if d.pending.isEmpty then d
  else { d.push (.text d.pending.reverse) with pending := [] }

/-- Adds a piece after the pending text. -/
def add (d : Draft) (piece : Inline) : Draft := d.flush.push piece

/-- Adds characters to the pending text. -/
def append (d : Draft) (cs : List Char) : Draft := { d with pending := cs.reverse ++ d.pending }

/-- Adds a line break; spaces before it are dropped. -/
def breakLine (d : Draft) : Draft :=
  { d with pending := d.pending.dropWhile (· == ' ') }.add .lineBreak

/-- Adds the marks of a run, each a piece of its own. -/
def addMarks (d : Draft) (mark : Char) (length : Nat) (opens closes : Bool) :
    (count : Nat) → Draft
  | 0 => d
  | count + 1 =>
    let d := d.addMarks mark length opens closes count
    { d.push (.text [mark]) with
      delimiters := d.delimiters.push ⟨mark, length, d.pieceCount, opens, closes, none⟩ }

/-- The content. -/
def finish (d : Draft) : List Inline :=
  let d := d.flush
  Emphasis.resolve d.pieces.reverse d.delimiters

end Draft

/-- How the content of a label is read. -/
abbrev ReadLabel := Memo → (start stop : Nat) → Memo × List Inline

/-- Reads what begins at a position; the answer is the position after it. -/
def readOne (src : Array Char) (definitions : Definitions) (stop budget : Nat)
    (readLabel : ReadLabel) (memo : Memo) (pos : Nat) (c : Char) (d : Draft) :
    Memo × Draft × Nat :=
  let plain := fun (memo : Memo) => (memo, d.append [c], pos + 1)
  let passed := pass src definitions stop budget
  if !isTerminator c then
    let next := skipWhile (!isTerminator ·) src pos stop
    (memo, d.append (slice src pos next), next)
  else if c == '\n' then (memo, d.breakLine, skipWhile isGap src (pos + 1) stop)
  else if c == '\\' then
    match escape? src stop pos with
    | none => plain memo
    | some (.lineBreak next) => (memo, d.add .lineBreak, next)
    | some (.text content next) => (memo, d.add (.text content), next)
  else if c.toNat == 0x60 then
    match readTicks src stop memo pos with
    | (memo, .code mark content next) => (memo, d.add (.code mark content), next)
    | (memo, .marks next) => (memo, d.append (slice src pos next), next)
  else if c == '*' || c == '_' then
    let next := skipWhile (· == c) src pos stop
    let before := if pos = 0 then ' ' else src[pos - 1]?.getD ' '
    let after := if next < stop then src[next]?.getD ' ' else ' '
    let (opens, closes) := Emphasis.capabilities c before after
    (memo, d.flush.addMarks c (next - pos) opens closes (next - pos), next)
  else if c == '[' then
    match link? src definitions stop passed memo pos with
    | (memo, none) => plain memo
    | (memo, some span) =>
      let (memo, children) := readLabel memo span.labelStart span.labelStop
      (memo, d.add (.link false span.url span.title children), span.next)
  else if c == '!' then
    match image? src definitions stop passed memo pos with
    | (memo, none) => plain memo
    | (memo, some span) =>
      let description := slice src span.labelStart span.labelStop
      (memo, d.add (.image span.url span.title description), span.next)
  else if c == '<' then
    match autolink? src stop pos with
    | some link => (memo, d.add (.link true link.url [] [.text link.shown]), link.next)
    | none =>
      match htmlLength? src stop pos with
      | some size => (memo, d.add (.html (slice src pos (pos + size))), pos + size)
      | none => plain memo
  else if c == '&' then
    match referenceAt? src stop pos with
    | some (content, next) => (memo, d.add (.text content), next)
    | none => plain memo
  else plain memo

/-- Reads on from a position to the stop. -/
def readFrom (src : Array Char) (definitions : Definitions) (stop budget : Nat)
    (readLabel : ReadLabel) : (fuel : Nat) → Memo → Nat → Draft → Memo × Draft
  | 0, memo, _, d => (memo, d)
  | fuel + 1, memo, pos, d =>
    if stop ≤ pos then (memo, d)
    else match src[pos]? with
      | none => (memo, d)
      | some c =>
        let (memo, d, next) := readOne src definitions stop budget readLabel memo pos c d
        readFrom src definitions stop budget readLabel fuel memo next d

/-- The content between two positions. Beyond the bound on nesting everything is text. -/
def content (src : Array Char) (definitions : Definitions) : (budget : Nat) → ReadLabel
  | 0, memo, start, stop =>
    (memo, if start < stop then [.text (slice src start stop)] else [])
  | budget + 1, memo, start, stop =>
    let (memo, d) := readFrom src definitions stop (budget + 1)
      (content src definitions budget) (stop - start) memo start {}
    (memo, d.finish)

end InlineReader

/-- The inline content of a text, with the definitions of its document. -/
def Inline.parse (definitions : Definitions) (text : List Char) : List Inline :=
  let src := text.toArray
  (InlineReader.content src definitions InlineReader.maxNesting (InlineReader.Memo.ofText src)
    0 src.size).2

end Continuity.Markdown
