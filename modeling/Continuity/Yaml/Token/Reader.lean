import Continuity.Yaml.Token.Directive

/-! # Reading the tokens of YAML

Whether a scalar or collection is the key of a mapping is known only when a colon follows it on the
same line. Until then the token is a candidate, and with it everything behind it is held back: a
text that breaks off while candidates are open gives only the tokens before the first of them.
-/

namespace Continuity.Yaml

/-- A token that may turn out to be a key. -/
structure Candidate where
  /-- The number of tokens before it. -/
  position : Nat
  /-- It begins its line in the column of the mapping around it, so that it must be a key. -/
  required : Bool
  line : Nat
  column : Nat
  index : Nat
  deriving Repr, DecidableEq, Inhabited

/-- A bracket or brace that is open. -/
inductive FlowMark where
  | bracket
  | brace
  deriving Repr, DecidableEq

/-- How far the reading of tokens has come. -/
structure TokenState where
  cursor : Cursor
  tokens : Array Token := #[]
  flow : List FlowMark := []
  indent : Int := -1
  outer : List Int := []
  keyAllowed : Bool := true
  /-- The candidate at each depth of open brackets. -/
  candidates : List (Nat × Candidate) := []
  version : Option (Nat × Nat) := none
  done : Bool := false
  deriving Inhabited

namespace TokenState

/-- Brackets or braces are open. -/
def inFlow (s : TokenState) : Bool := !s.flow.isEmpty

/-- The text is not of the first version of the language. -/
def isModern (s : TokenState) : Bool := s.version != some (1, 1)

/-- One more token that begins at the cursor. -/
def push (s : TokenState) (kind : TokenKind) : TokenState :=
  { s with tokens := s.tokens.push ⟨kind, s.cursor.line⟩ }

/-- The cursor moved over a mark of some characters. -/
def skip (s : TokenState) (count : Nat) : TokenState := { s with cursor := s.cursor.skip count }

/-- The number of tokens that no open candidate holds back. -/
def settled (s : TokenState) : Nat :=
  (s.candidates.map (·.2.position)).foldl min s.tokens.size

/-- A candidate on an earlier line, or too far behind, is no key. -/
def isStale (s : TokenState) (c : Candidate) : Bool :=
  c.line != s.cursor.line || s.cursor.index - c.index > 1024

/-- Closes the candidates that can be no keys any more. -/
def closeStale (s : TokenState) : Except Failure TokenState :=
  if s.candidates.any fun (_, c) => s.isStale c && c.required then breach .simpleKey s.cursor
  else .ok { s with candidates := s.candidates.filter fun (_, c) => !s.isStale c }

/-- The depth of open brackets. -/
def depth (s : TokenState) : Nat := s.flow.length

/-- Closes the candidate at the present depth. -/
def closeCandidate (s : TokenState) : Except Failure TokenState :=
  match s.candidates.lookup s.depth with
  | none => .ok s
  | some c =>
    if c.required then breach .simpleKey s.cursor
    else .ok { s with candidates := s.candidates.filter (·.1 != s.depth) }

/-- Makes the next token a candidate where keys are allowed. -/
def openCandidate (s : TokenState) : Except Failure TokenState :=
  if s.keyAllowed then do
    let s ← s.closeCandidate
    let required := !s.inFlow && s.indent == s.cursor.column
    let c : Candidate :=
      ⟨s.tokens.size, required, s.cursor.line, s.cursor.column, s.cursor.index⟩
    return { s with candidates := s.candidates ++ [(s.depth, c)] }
  else .ok s

/-- Closes the block collections that are indented more than a column. -/
def closeBlocks (s : TokenState) (column : Int) : TokenState :=
  if s.inFlow then s else go s s.outer
where
  go (s : TokenState) : List Int → TokenState
    | [] => s
    | indent :: outer =>
      if s.indent > column then go { s.push .blockEnd with indent, outer } outer else s

/-- Opens a block collection in a column, unless one is open there. -/
def openBlock (s : TokenState) (column : Int) : Option TokenState :=
  if s.indent < column then some { s with indent := column, outer := s.indent :: s.outer }
  else none

/-- The cursor at the next token, and whether a line has ended on the way. -/
def toToken (inFlow : Bool) : (fuel : Nat) → (ended : Bool) → Cursor → Cursor × Bool
  | 0, ended, c => (c, ended)
  | fuel + 1, ended, c =>
    let c := c.dropWhile fun char => char == ' ' || (inFlow && char == '\t')
    let c := if c.at? '#' then c.dropLine else c
    match c.lineBreak? with
    | some (_, c) => toToken inFlow fuel true c
    | none => (c, ended)

/-- Moves to the next token; keys are allowed at the start of a line. -/
def advance (s : TokenState) : TokenState :=
  let c := if s.cursor.index == 0 && s.cursor.at? '\uFEFF' then s.cursor.next else s.cursor
  let (c, ended) := toToken s.inFlow (c.rest.length + 1) false c
  { s with cursor := c, keyAllowed := s.keyAllowed || (ended && !s.inFlow) }

/-! ## The tokens -/

/-- The end of the text. -/
def readEnd (s : TokenState) : Except Failure TokenState := do
  let s ← (s.closeBlocks (-1)).closeCandidate
  return { s.push .streamEnd with keyAllowed := false, candidates := [], done := true }

/-- A directive. -/
def readDirective (s : TokenState) : Except Failure TokenState := do
  let s ← (s.closeBlocks (-1)).closeCandidate
  let (kind, cursor) ← directiveAt s.isModern s.cursor
  let version := match kind with
    | .version major minor => some (major, minor)
    | _ => s.version
  return { s.push kind with keyAllowed := false, cursor, version }

/-- A mark between documents. -/
def readDocumentMark (s : TokenState) (kind : TokenKind) : Except Failure TokenState := do
  let s ← (s.closeBlocks (-1)).closeCandidate
  return { (s.push kind).skip 3 with keyAllowed := false }

/-- An opening bracket or brace. -/
def readOpening (s : TokenState) (mark : FlowMark) (kind : TokenKind) :
    Except Failure TokenState := do
  let s ← s.openCandidate
  return { (s.push kind).skip 1 with flow := mark :: s.flow, keyAllowed := true }

/-- A closing bracket or brace. -/
def readClosing (s : TokenState) (kind : TokenKind) : Except Failure TokenState := do
  let s ← s.closeCandidate
  return { (s.push kind).skip 1 with flow := s.flow.tail, keyAllowed := false }

/-- A comma. -/
def readComma (s : TokenState) : Except Failure TokenState := do
  let s ← s.closeCandidate
  return { (s.push .comma).skip 1 with keyAllowed := true }

/-- The mark of a sequence's entry. -/
def readEntry (s : TokenState) : Except Failure TokenState := do
  if !s.inFlow && !s.keyAllowed then breach .sequenceHere s.cursor
  else
    let s := if s.inFlow then s
      else match s.openBlock s.cursor.column with
        | some s => s.push .blockSequence
        | none => s
    let s ← { s with keyAllowed := true }.closeCandidate
    return (s.push .entry).skip 1

/-- The mark of a key. -/
def readKey (s : TokenState) : Except Failure TokenState := do
  if !s.inFlow && !s.keyAllowed then breach .keyHere s.cursor
  else
    let s := if s.inFlow then s
      else match s.openBlock s.cursor.column with
        | some s => s.push .blockMapping
        | none => s
    let s ← { s with keyAllowed := !s.inFlow }.closeCandidate
    return (s.push .key).skip 1

/-- The tokens with one inserted before a position. -/
def insert (s : TokenState) (position : Nat) (kind : TokenKind) (line : Nat) : TokenState :=
  { s with tokens := s.tokens.insertIdxIfInBounds position ⟨kind, line⟩ }

/-- The mark of a value, which makes a candidate a key. -/
def readValue (s : TokenState) : Except Failure TokenState :=
  match s.candidates.lookup s.depth with
  | some c =>
    let s := { s with candidates := s.candidates.filter (·.1 != s.depth), keyAllowed := false }
    let s := s.insert c.position .key c.line
    let s := if s.inFlow then s
      else match s.openBlock c.column with
        | some s => s.insert c.position .blockMapping c.line
        | none => s
    .ok ((s.push .value).skip 1)
  | none => do
    if !s.inFlow && !s.keyAllowed then breach .valueHere s.cursor
    else
      let s := if s.inFlow then s
        else match s.openBlock s.cursor.column with
          | some s => s.push .blockMapping
          | none => s
      let s ← { s with keyAllowed := !s.inFlow }.closeCandidate
      return (s.push .value).skip 1

/-- A token that may be a key, with its content. -/
def readContent (s : TokenState)
    (scan : Cursor → Except Failure (TokenKind × Cursor)) : Except Failure TokenState := do
  let s ← s.openCandidate
  let (kind, cursor) ← scan s.cursor
  return { s.push kind with keyAllowed := false, cursor }

/-- A block scalar. -/
def readBlockScalar (s : TokenState) (fold : Bool) : Except Failure TokenState := do
  let s ← { s with keyAllowed := true }.closeCandidate
  let (text, cursor) ← blockScalar fold s.indent s.cursor
  return { s.push (.scalar false text) with cursor }

/-- A plain scalar. -/
def readPlain (s : TokenState) : Except Failure TokenState := do
  let s ← s.openCandidate
  let (text, ended, cursor) := plainScalar s.inFlow s.isModern (s.indent + 1) s.cursor
  return { s.push (.scalar true text) with keyAllowed := ended, cursor }

/-- The colon at the cursor is the mark of a value. -/
def isValueMark (s : TokenState) : Bool :=
  let free := endsWord (s.cursor.peekAt 1)
  match s.flow with
  | [] => free
  | mark :: _ =>
    if !s.isModern then true
    else match mark with
      | .bracket => free
      | .brace =>
        let afterValue := s.settled < s.tokens.size &&
          s.tokens.back?.any fun t => t.kind == .value
        !afterValue || free

/-- A plain scalar may begin with a character that is followed by another. -/
def isPlainStart (s : TokenState) (char : Char) : Bool :=
  let free := endsWord (s.cursor.peekAt 1)
  let after := s.cursor.peekAt 1
  if !("-?:,[]#&*!|>'\"%@`\x7b\x7d \t".toList.contains char || isBreak char) then true
  else if char == '-' then !free
  else if s.inFlow then s.isModern && char == ':' && !(after == some ' ' || after == some '\t')
  else !free && (char == '?' || char == ':')

/-- Reads the token at the cursor. -/
def readToken (s : TokenState) : Except Failure TokenState :=
  let c := s.cursor
  match c.peek with
  | none => s.readEnd
  | some char =>
    if char == '%' && c.column == 0 then s.readDirective
    else if char == '-' && c.column == 0 && c.hasMark '-' then s.readDocumentMark .documentStart
    else if char == '.' && c.column == 0 && c.hasMark '.' then s.readDocumentMark .documentEnd
    else if char == '[' then s.readOpening .bracket .openBracket
    else if char == '\x7b' then s.readOpening .brace .openBrace
    else if char == ']' then s.readClosing .closeBracket
    else if char == '\x7d' then s.readClosing .closeBrace
    else if char == ',' then s.readComma
    else if char == '-' && endsWord (c.peekAt 1) then s.readEntry
    else if char == '?' && (s.inFlow || endsWord (c.peekAt 1)) then s.readKey
    else if char == ':' && s.isValueMark then s.readValue
    else if char == '*' then
      s.readContent fun c => (anchorName .alias c).map fun (name, c) => (.alias name, c)
    else if char == '&' then
      s.readContent fun c => (anchorName .anchor c).map fun (name, c) => (.anchor name, c)
    else if char == '!' then
      s.readContent fun c => (tagAt s.isModern c).map fun ((handle, name), c) => (.tag handle name, c)
    else if char == '|' && !s.inFlow then s.readBlockScalar false
    else if char == '>' && !s.inFlow then s.readBlockScalar true
    else if char == '\'' || char == '"' then
      s.readContent fun c =>
        (quotedScalar (char == '"') c).map fun (text, c) => (.scalar false text, c)
    else if s.isPlainStart char then s.readPlain
    else breach .token c

/-- Moves to the next token and reads it; what becomes stale on the way or behind it is closed. -/
def step (s : TokenState) : Except Failure TokenState := do
  let s ← s.advance.closeStale
  let s ← (s.closeBlocks s.cursor.column).readToken
  s.closeStale

end TokenState

/-- The tokens of a text as far as they can be read, and why there are no more if the text breaks
off. -/
structure Tokens where
  tokens : List Token
  failure : Option Failure
  deriving Inhabited

/-- Reads tokens up to the end of the text. -/
def readTokens : (fuel : Nat) → TokenState → Tokens
  | 0, s => ⟨s.tokens.toList, none⟩
  | fuel + 1, s =>
    if s.done then ⟨s.tokens.toList, none⟩
    else match s.step with
      | .ok s => readTokens fuel s
      | .error failure => ⟨s.tokens.toList.take s.settled, some failure⟩

/-- The tokens of a text that is of a version unless it says otherwise. -/
def Tokens.ofText (version : Option (Nat × Nat)) (text : List Char) : Tokens :=
  readTokens (text.length + 2) { cursor := { rest := text }, version }

end Continuity.Yaml
