import Continuity.Yaml.Node.Reader
import Continuity.Yaml.Scalar

/-! # Reading YAML as untyped data

The data that the nodes of a document stand for. Collections are filled level by level from the
root, so that of several faults the one nearest to the root is reported, and among those on one
level the first. Keys are filled at once, on the level of their mapping.
-/

namespace Continuity.Yaml

/-- A failure on a level below the root. -/
structure Setback where
  level : Nat
  failure : Failure

/-- What filling a node gives. -/
abbrev Filling (α : Type) := Except Setback α

namespace Filling

variable {α β : Type}

/-- A failure on a level. -/
def fail (level : Nat) (failure : Failure) : Filling α := .error ⟨level, failure⟩

/-- A result whose failures lie on a level. -/
def at_ (level : Nat) : Except Failure α → Filling α
  | .ok a => .ok a
  | .error failure => fail level failure

/-- Two results; of two failures the one on the higher level counts, and the first on one level. -/
def both : Filling α → Filling β → Filling (α × β)
  | .ok a, .ok b => .ok (a, b)
  | .ok _, .error e => .error e
  | .error e, .ok _ => .error e
  | .error e, .error f => if f.level < e.level then .error f else .error e

end Filling

/-- What may not be part of a key. -/
def unhashable? : Value → Option String
  | .list _ => some "list"
  | .map _ => some "dict"
  | .set _ => some "set"
  | .tuple items => go items
  | _ => none
where
  go : List Value → Option String
    | [] => none
    | v :: rest =>
      match unhashable? v with
      | some kind => some kind
      | none => go rest

/-- The value as a key: a list is fixed. -/
def asKey? : Value → Option Value
  | .list items => some (.tuple items)
  | .map _ | .set _ => none
  | v => some v

/-! ## Merging -/

/-- The entries that a mapping takes from others, and its own. -/
structure Flat where
  merged : List (Node × Node) := []
  own : List (Node × Node) := []
  deriving Inhabited

/-- A failure at a node. -/
def misplaced {α : Type} (fault : Fault) (n : Node) : Except Failure α :=
  .error (.malformed fault (some n.line))

/-- A key that stands for the default value of a mapping is a text like any other. -/
def plainKey : Node → Node
  | .scalar tag line text =>
    .scalar (if tag == coreTag "value" then coreTag "str" else tag) line text
  | n => n

mutual

/-- Adds the entries of a mapping to those already flattened. -/
def flattenInto (flat : Flat) : List (Node × Node) → Except Failure Flat
  | [] => .ok flat
  | (key, value) :: rest =>
    if key.tag == coreTag "merge" then
      if !flat.merged.isEmpty then misplaced .mappingEntry key
      else
        match taken value with
        | .error e => .error e
        | .ok merged => flattenInto { flat with merged } rest
    else flattenInto { flat with own := flat.own ++ [(plainKey key, value)] } rest

/-- The entries that a node gives to a mapping. -/
def taken : Node → Except Failure (List (Node × Node))
  | .mapping _ _ entries => (flattenInto {} entries).map fun flat => flat.merged ++ flat.own
  | .sequence _ _ items => takenFromAll items
  | .scalar _ line _ => .error (.malformed .mappingEntry (some line))

/-- The entries that a mapping in a sequence gives. -/
def takenFrom : Node → Except Failure (List (Node × Node))
  | .mapping _ _ entries => (flattenInto {} entries).map fun flat => flat.merged ++ flat.own
  | .sequence _ line _ | .scalar _ line _ => .error (.malformed .mappingEntry (some line))

/-- The entries that the mappings of a sequence give, those of the last first. -/
def takenFromAll : List Node → Except Failure (List (Node × Node))
  | [] => .ok []
  | item :: rest =>
    match takenFrom item with
    | .error e => .error e
    | .ok first => (takenFromAll rest).map fun later => later ++ first

end

/-! ## Filling -/

mutual

/-- The number of levels of a node. -/
def Node.depth : Node → Nat
  | .scalar .. => 1
  | .sequence _ _ items => depthOfAll items + 1
  | .mapping _ _ entries => depthOfEntries entries + 1

/-- The greatest number of levels of some nodes. -/
def depthOfAll : List Node → Nat
  | [] => 0
  | n :: rest => max n.depth (depthOfAll rest)

/-- The greatest number of levels of some keys and values. -/
def depthOfEntries : List (Node × Node) → Nat
  | [] => 0
  | (k, v) :: rest => max (max k.depth v.depth) (depthOfEntries rest)

end

section

-- How a node is filled: on which level, and at once or level by level.
variable (read : (level : Nat) → (deep : Bool) → Node → Filling Value)

/-- The items of a sequence that is filled on a level. -/
def fillItems (level : Nat) (deep : Bool) : List Node → Filling (List Value)
  | [] => .ok []
  | n :: rest =>
    ((read level deep n).both (fillItems level deep rest)).map fun (v, vs) => v :: vs

/-- A key, filled on a level. -/
def fillKey (level : Nat) (n : Node) : Filling Value :=
  match read level true n with
  | .error e => .error e
  | .ok v =>
    match asKey? v with
    | some key => .ok key
    | none => Filling.fail level (.malformed .mappingEntry (some n.line))

/-- What is wrong with a key beside those before it. -/
def keyFault? (unique : Bool) (seen : List Value) (key : Value) (n : Node) : Option Failure :=
  match unhashable? key with
  | some kind => some (.scalar (.key kind))
  | none =>
    if unique && seen.any fun k => Value.sameKey k key then
      some (.malformed .mappingEntry (some n.line))
    else none

/-- The entries of a mapping that is filled on a level. Where they are its own only, each key comes
once. -/
def fillEntries (level : Nat) (deep unique : Bool) (seen : List Value) :
    List (Node × Node) → Filling (List (Value × Value))
  | [] => .ok []
  | (k, n) :: rest =>
    match fillKey read level k with
    | .error e => .error e
    | .ok key =>
      let value := read level deep n
      let checked : Filling Unit := match keyFault? unique seen key k with
        | some failure => Filling.fail level failure
        | none => .ok ()
      ((value.both checked).both (fillEntries level deep unique (key :: seen) rest)).map
        fun ((v, _), more) => (key, v) :: more

/-- A mapping that is filled on a level. -/
def fillMapping (level : Nat) (deep : Bool) :
    Node → Filling (List (Value × Value))
  | .mapping _ _ entries =>
    match flattenInto {} entries with
    | .error e => Filling.fail level e
    | .ok flat =>
      let unique := flat.merged.isEmpty
      (fillEntries read level deep unique [] (flat.merged ++ flat.own)).map fun entries =>
        entries.foldl (fun es (k, v) => Value.insertEntry k v es) []
  | n => Filling.fail level (.malformed (.expected .mapping n.shape) (some n.line))

/-- The pairs of a sequence of mappings with one entry each, filled on a level. -/
def fillPairs (fault : Fault) (level : Nat) (deep : Bool) :
    List Node → Filling (List (Value × Value))
  | [] => .ok []
  | .mapping _ _ [(k, n)] :: rest =>
    ((Filling.both (read level deep k) (read level deep n)).both
      (fillPairs fault level deep rest)).map fun (pair, more) => pair :: more
  | n :: _ => Filling.fail level (.malformed fault (some n.line))

/-- A sequence of pairs, filled on a level. -/
def fillPairList (fault : Fault) (level : Nat) (deep : Bool) :
    Node → Filling (List (Value × Value))
  | .sequence _ _ items => fillPairs read fault level deep items
  | n => Filling.fail level (.malformed fault (some n.line))

end

/-- The content of a scalar. -/
def scalarText : Node → Except Failure String
  | .scalar _ _ text => .ok text
  | n => misplaced (.expected .scalar n.shape) n

/-- The kinds of data of the core repository that are scalars. -/
def scalarValue? (modern : Bool) (n : Node) : Option (Except Failure Value) :=
  let fromText (read : List Char → Except Failure Value) : Option (Except Failure Value) :=
    some ((scalarText n).bind fun text => read text.toList)
  if n.tag == coreTag "str" then some ((scalarText n).map .text)
  else if n.tag == coreTag "null" then some ((scalarText n).map fun _ => .null)
  else if n.tag == coreTag "bool" then fromText fun cs => (truthValue cs).map .bool
  else if n.tag == coreTag "int" then fromText fun cs => (wholeValue modern cs).map .int
  else if n.tag == coreTag "float" then fromText fun cs => (floatValue modern cs).map .float
  else if n.tag == coreTag "binary" then fromText fun cs => (bytesValue n.line cs).map .bytes
  else if n.tag == coreTag "timestamp" then
    fromText fun cs => timestampValue n.line (String.ofList cs)
  else none

/-- Fills a node that is met on a level: scalars on that level, collections on the next unless they
are filled at once. -/
def fill (modern : Bool) : (fuel : Nat) → (level : Nat) → (deep : Bool) → Node → Filling Value
  | 0, level, _, n => Filling.fail level (.malformed .node (some n.line))
  | fuel + 1, level, deep, n =>
    let read := fun level deep n => fill modern fuel level deep n
    let inner := if deep then level else level + 1
    match scalarValue? modern n with
    | some result => Filling.at_ level result
    | none =>
      if n.tag == coreTag "seq" then
        match n with
        | .sequence _ _ items => (fillItems read inner deep items).map .list
        | n => Filling.fail inner (.malformed (.expected .sequence n.shape) (some n.line))
      else if n.tag == coreTag "map" then (fillMapping read inner deep n).map .map
      else if n.tag == coreTag "set" then
        (fillMapping read inner deep n).map fun entries => .set (entries.map (·.1))
      else if n.tag == coreTag "omap" then
        (fillPairList read .orderedMapping inner deep n).bind fun pairs =>
          match pairs.findSome? fun (k, _) => unhashable? k with
          | some kind => Filling.fail inner (.scalar (.key kind))
          | none => .ok (.map (pairs.foldl (fun es (k, v) => Value.insertEntry k v es) []))
      else if n.tag == coreTag "pairs" then
        (fillPairList read .pairs inner deep n).map fun pairs =>
          .list (pairs.map fun (k, v) => .tuple [k, v])
      else Filling.fail level (.malformed (.unknownTag n.tag) (some n.line))

/-- The data of a text read after others, and what is left for the next; an empty text is
nothing. -/
def readAfter (session : Session) (text : List Char) : Except Failure Value × Session :=
  match readNode session text with
  | (.error e, session) => (.error e, session)
  | (.ok none, session) => (.ok .null, session)
  | (.ok (some root), session) =>
    match fill (session.version != some (1, 1)) (root.depth + 1) 0 false root with
    | .ok v => (.ok v, session)
    | .error e => (.error e.failure, session)

/-- The data of a text. -/
def read (text : List Char) : Except Failure Value := (readAfter {} text).1

end Continuity.Yaml
