import Continuity.Yaml.Resolution
import Continuity.Yaml.Token.Reader

/-! # Reading the nodes of YAML

A document is read from its tokens. Where a node is left out, an empty one stands for it. Several
texts can be read one after the other: the version that one declares holds for the next, and when
one breaks off, what it has named can be referred to in the next.
-/

namespace Continuity.Yaml

/-- What the reading of a text leaves for the next. -/
structure Session where
  version : Option (Nat × Nat) := none
  anchors : List (String × Node) := []
  deriving Inhabited

/-- What is left of the tokens, and what has been declared. -/
structure NodeState where
  tokens : List Token
  failure : Option Failure
  session : Session
  handles : List (String × String) := []
  deriving Inhabited

/-- A reading of nodes: a result or a failure, and what is left. -/
abbrev NodeReader (α : Type) := ExceptT Failure (StateM NodeState) α

namespace NodeReader

/-- Why there are no more tokens. -/
def ending (s : NodeState) : Failure := s.failure.getD (.malformed .token none)

/-- The next token. -/
def peek : NodeReader Token := do
  let s ← get
  match s.tokens with
  | [] => throw (ending s)
  | t :: _ => return t

/-- Takes the next token. -/
def take : NodeReader Token := do
  let s ← get
  match s.tokens with
  | [] => throw (ending s)
  | t :: rest =>
    set { s with tokens := rest }
    return t

/-- The text is not of the first version of the language. -/
def isModern : NodeReader Bool := do
  let s ← get
  return s.session.version != some (1, 1)

/-- The tag of a plain scalar, in the version that has been declared. -/
def resolved (text : String) : NodeReader String := do
  let s ← get
  match s.session.version with
  | none | some (1, 2) => return resolve true text.toList
  | some (1, 1) => return resolve false text.toList
  | some (major, minor) => throw (.scalar (.version major minor))

/-- The next token is of one of these kinds. -/
def next (kinds : List TokenKind) : NodeReader Bool := do
  let t ← peek
  return kinds.contains t.kind

/-- A breach of the rules at the next token. -/
def fail {α : Type} (fault : Fault) : NodeReader α := do
  let t ← peek
  throw (.malformed fault (some t.line))

/-- The node that stands for one left out. -/
def emptyNode (line : Nat) : Node := .scalar (coreTag "null") line ""

/-- What stands before a node's content. -/
structure Properties where
  anchor : Option String := none
  tag : Option String := none
  line : Option Nat := none

/-- A tag on a line, its handle replaced. -/
def fullTag (line : Nat) (handle : Option String) (name : String) : NodeReader String := do
  match handle with
  | none => return name
  | some handle =>
    let s ← get
    match s.handles.lookup handle with
    | some replacement => return replacement ++ name
    | none => throw (.malformed .node (some line))

/-- The anchor and the tag before a node, in either order. -/
def properties : NodeReader Properties := do
  let t ← peek
  match t.kind with
  | .anchor name =>
    let _ ← take
    let t' ← peek
    match t'.kind with
    | .tag handle tag =>
      let _ ← take
      return ⟨some name, some (← fullTag t'.line handle tag), some t.line⟩
    | _ => return ⟨some name, none, some t.line⟩
  | .tag handle tag =>
    let _ ← take
    let t' ← peek
    match t'.kind with
    | .anchor name =>
      let _ ← take
      return ⟨some name, some (← fullTag t.line handle tag), some t.line⟩
    | _ => return ⟨none, some (← fullTag t.line handle tag), some t.line⟩
  | _ => return {}

/-- The tag of a collection. -/
def collectionTag (p : Properties) (name : String) : String :=
  match p.tag with
  | none | some "!" => coreTag name
  | some tag => tag

/-- The tag of a scalar: a plain one without a tag is what it looks like. -/
def scalarTag (p : Properties) (plain : Bool) (text : String) : NodeReader String := do
  match p.tag with
  | some "!" => resolved text
  | some tag => return tag
  | none => if plain then resolved text else return coreTag "str"

/-- Remembers a node under its anchor, once it is complete: no node is part of itself. -/
def remember (p : Properties) (n : Node) : NodeReader Node := do
  match p.anchor with
  | some name =>
    modify fun s =>
      { s with session := { s.session with anchors := (name, n) :: s.session.anchors } }
  | none => pure ()
  return n

mutual

/-- A node. In block style it may be a block collection; where entries need no indentation, a
sequence may begin with its first entry. -/
def node (block unindented : Bool) : (fuel : Nat) → NodeReader Node
  | 0 => fail .token
  | fuel + 1 => do
    let t ← peek
    match t.kind with
    | .alias name =>
      let _ ← take
      let s ← get
      match s.session.anchors.lookup name with
      | some n => return n
      | none => throw (.malformed (.unknownAlias name) (some t.line))
    | _ =>
      let p ← properties
      let t ← peek
      let line := p.line.getD t.line
      match t.kind with
      | .entry =>
        if unindented then
          let items ← unindentedItems fuel
          remember p (.sequence (collectionTag p "seq") line items)
        else absent block p line
      | .scalar plain text =>
        let _ ← take
        remember p (.scalar (← scalarTag p plain text) line text)
      | .openBracket =>
        let _ ← take
        let items ← flowItems true fuel
        remember p (.sequence (collectionTag p "seq") line items)
      | .openBrace =>
        let _ ← take
        let entries ← flowEntries true fuel
        remember p (.mapping (collectionTag p "map") line entries)
      | .blockSequence =>
        if block then
          let _ ← take
          let items ← blockItems fuel
          remember p (.sequence (collectionTag p "seq") line items)
        else absent block p line
      | .blockMapping =>
        if block then
          let _ ← take
          let entries ← blockEntries fuel
          remember p (.mapping (collectionTag p "map") line entries)
        else absent block p line
      | _ => absent block p line

/-- A node without content: one with an anchor or a tag is empty. -/
def absent (block : Bool) (p : Properties) (line : Nat) : NodeReader Node := do
  if p.anchor.isSome || p.tag.isSome then
    let plain := p.tag.all (· == "!")
    remember p (.scalar (← scalarTag p plain "") line "")
  else fail (if block then .blockNode else .flowNode)

/-- The items of a block sequence, up to its end. -/
def blockItems : (fuel : Nat) → NodeReader (List Node)
  | 0 => fail .token
  | fuel + 1 => do
    if ← next [.entry] then
      let t ← take
      let item ← if ← next [.entry, .blockEnd] then pure (emptyNode t.line)
        else node true false fuel
      return item :: (← blockItems fuel)
    else if ← next [.blockEnd] then
      let _ ← take
      return []
    else fail .blockCollection

/-- The items of a sequence whose entries need no indentation. -/
def unindentedItems : (fuel : Nat) → NodeReader (List Node)
  | 0 => fail .token
  | fuel + 1 => do
    if ← next [.entry] then
      let t ← take
      let item ← if ← next [.entry, .key, .value, .blockEnd] then pure (emptyNode t.line)
        else node true false fuel
      return item :: (← unindentedItems fuel)
    else return []

/-- The value of a block mapping's entry. -/
def blockValue : (fuel : Nat) → NodeReader Node
  | 0 => fail .token
  | fuel + 1 => do
    if ← next [.value] then
      let t ← take
      if ← next [.key, .value, .blockEnd] then return emptyNode t.line
      else node true true fuel
    else return emptyNode (← peek).line

/-- The entries of a block mapping, up to its end. -/
def blockEntries : (fuel : Nat) → NodeReader (List (Node × Node))
  | 0 => fail .token
  | fuel + 1 => do
    if ← next [.key] then
      let t ← take
      let key ← if ← next [.key, .value, .blockEnd] then pure (emptyNode t.line)
        else node true true fuel
      let value ← blockValue fuel
      return (key, value) :: (← blockEntries fuel)
    else if (← isModern) && (← next [.value]) then
      let key := emptyNode (← peek).line
      let value ← blockValue fuel
      return (key, value) :: (← blockEntries fuel)
    else if ← next [.blockEnd] then
      let _ ← take
      return []
    else fail .blockMapping

/-- The value of an entry in flow style, before what closes the entry. -/
def flowValue (closing : TokenKind) : (fuel : Nat) → NodeReader Node
  | 0 => fail .token
  | fuel + 1 => do
    if ← next [.value] then
      let t ← take
      if ← next [.comma, closing] then return emptyNode t.line
      else node false false fuel
    else return emptyNode (← peek).line

/-- The key of an entry in flow style, after its mark. -/
def flowKey (closing : TokenKind) : (fuel : Nat) → NodeReader Node
  | 0 => fail .token
  | fuel + 1 => do
    let t ← take
    if ← next [.value, .comma, closing] then return emptyNode t.line
    else node false false fuel

/-- The items of a sequence in brackets; an item may be an entry of a mapping. -/
def flowItems (first : Bool) : (fuel : Nat) → NodeReader (List Node)
  | 0 => fail .token
  | fuel + 1 => do
    if ← next [.closeBracket] then
      let _ ← take
      return []
    else
      if !first then
        if ← next [.comma] then let _ ← take
        else fail .flowSequence
      if ← next [.key] then
        let line := (← peek).line
        let key ← flowKey .closeBracket fuel
        let value ← flowValue .closeBracket fuel
        let item := Node.mapping (coreTag "map") line [(key, value)]
        return item :: (← flowItems false fuel)
      else if ← next [.closeBracket] then
        let _ ← take
        return []
      else
        let item ← node false false fuel
        return item :: (← flowItems false fuel)

/-- The entries of a mapping in braces; a key may stand alone. -/
def flowEntries (first : Bool) : (fuel : Nat) → NodeReader (List (Node × Node))
  | 0 => fail .token
  | fuel + 1 => do
    if ← next [.closeBrace] then
      let _ ← take
      return []
    else
      if !first then
        if ← next [.comma] then let _ ← take
        else fail .flowMapping
      if ← next [.key] then
        let key ← flowKey .closeBrace fuel
        let value ← flowValue .closeBrace fuel
        return (key, value) :: (← flowEntries false fuel)
      else if (← isModern) && (← next [.value]) then
        let key := emptyNode (← peek).line
        let value ← flowValue .closeBrace fuel
        return (key, value) :: (← flowEntries false fuel)
      else if ← next [.closeBrace] then
        let _ ← take
        return []
      else
        let key ← node false false fuel
        let value := emptyNode (← peek).line
        return (key, value) :: (← flowEntries false fuel)

end

/-- The handles that every document knows. -/
def standardHandles : List (String × String) := [("!", "!"), ("!!", "tag:yaml.org,2002:")]

/-- The directives before a document. -/
def directives (version : Option (Nat × Nat)) : (fuel : Nat) → NodeReader Unit
  | 0 => pure ()
  | fuel + 1 => do
    let t ← peek
    match t.kind with
    | .version major minor =>
      let _ ← take
      modify fun s => { s with session := { s.session with version := some (major, minor) } }
      if version.isSome then throw (.malformed .secondVersion (some t.line))
      else if major != 1 then throw (.malformed .foreignVersion (some t.line))
      else directives (some (major, minor)) fuel
    | .tagHandle handle replacement =>
      let _ ← take
      let s ← get
      if (s.handles.lookup handle).isSome then
        throw (.malformed (.secondHandle handle) (some t.line))
      else
        set { s with handles := s.handles ++ [(handle, replacement)] }
        directives version fuel
    | .otherDirective =>
      let _ ← take
      directives version fuel
    | _ => pure ()

/-- Passes marks of a document's end. -/
def dropEnds : (fuel : Nat) → NodeReader Unit
  | 0 => pure ()
  | fuel + 1 => do
    if ← next [.documentEnd] then
      let _ ← take
      dropEnds fuel

/-- The next token belongs to a directive. -/
def atDirective : NodeReader Bool := do
  let t ← peek
  match t.kind with
  | .version .. | .tagHandle .. | .otherDirective => return true
  | _ => return false

/-- The content of a document that begins with a mark. -/
def markedDocument (fuel : Nat) : NodeReader (Option Node) := do
  dropEnds fuel
  if ← next [.streamEnd] then return none
  else
    modify fun s => { s with handles := [] }
    directives none fuel
    modify fun s => { s with handles := s.handles ++ standardHandles }
    if !(← next [.documentStart]) then
      fail (.documentStart (← peek).kind.name)
    else
      let t ← take
      let _ := t
      if (← atDirective) || (← next [.documentStart, .documentEnd, .streamEnd]) then
        return some (emptyNode (← peek).line)
      else return some (← node true false fuel)

/-- What follows a document must be the end of the text. -/
def noFurther (fuel : Nat) : NodeReader Unit := do
  let explicit ← next [.documentEnd]
  if explicit then
    let _ ← take
  let implicitNext := explicit && (← isModern)
  if implicitNext && !(← atDirective) && !(← next [.documentStart, .streamEnd]) then
    throw (.malformed .secondDocument (some (← peek).line))
  else
    dropEnds fuel
    if !(← next [.streamEnd]) then
      let line := (← peek).line
      modify fun s => { s with handles := [] }
      directives none fuel
      if !(← next [.documentStart]) then fail (.documentStart (← peek).kind.name)
      else throw (.malformed .secondDocument (some line))

/-- The only document of a text, if it has one. -/
def document (fuel : Nat) : NodeReader (Option Node) := do
  let marked ← if ← atDirective then pure true
    else next [.documentStart, .streamEnd]
  let root ← if marked then markedDocument fuel
    else
      modify fun s => { s with handles := standardHandles }
      some <$> node true false fuel
  if root.isSome then
    let _ ← next [.documentEnd]
    modify fun s => { s with session := { s.session with anchors := [] } }
    noFurther fuel
  return root

end NodeReader

/-- A character that may stand in a text. -/
def isAllowed (c : Char) : Bool :=
  let code := c.toNat
  code == 0x09 || code == 0x0A || code == 0x0D || (0x20 ≤ code && code ≤ 0x7E) || code == 0x85 ||
    (0xA0 ≤ code && code ≤ 0xD7FF) || (0xE000 ≤ code && code ≤ 0xFFFD) || 0x10000 ≤ code

/-- The root of the only document of a text, and what is left for the next text; there is no root,
if the text holds nothing. -/
def readNode (session : Session) (text : List Char) : Except Failure (Option Node) × Session :=
  match text.find? fun c => !isAllowed c with
  | some c => (.error (.malformed (.unprintable c) none), session)
  | none =>
    let read := Tokens.ofText session.version text
    let fuel := 4 * read.tokens.length + 8
    let (result, s) := (NodeReader.document fuel).run
      { tokens := read.tokens, failure := read.failure, session }
    (result, s.session)

end Continuity.Yaml
