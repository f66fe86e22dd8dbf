import Continuity.Data.Value
import Continuity.Decimal.Numeral
import Continuity.Path
import Continuity.Text.Utf8

/-! # Reading records from untyped data

Data without a schema is read into records leniently: a text that spells a number or a truth value
counts as one. All faults of a value are reported together, each with the place where it lies:
those of known fields in the order of the fields, then those of unknown fields in the order of the
data. A field may be given under its name or under the name in camel case, which takes precedence.
-/

namespace Continuity.Schema

/-- One step from a value to a part of it. -/
inductive Step where
  | name (s : String)
  | index (n : Int)
  deriving Repr, DecidableEq, Inhabited

/-- What is wrong with a value. -/
inductive Fault where
  | missing
  | unknownField
  | unreadableKey
  | notText
  | notEncodedText
  | notTruth
  | unclearTruth
  | notWhole
  | unclearWhole
  | fractional
  | notFinite
  | notNumber
  | unclearNumber
  | tooSmall
  | tooLarge
  | notList
  | notTuple
  | notSet
  | notMapping
  | notRecord
  | notPath
  | notChoice
  | refused
  deriving Repr, DecidableEq, Inhabited

/-- The name of a fault. -/
def Fault.name : Fault → String
  | .missing => "missing"
  | .unknownField => "extra_forbidden"
  | .unreadableKey => "invalid_key"
  | .notText => "string_type"
  | .notEncodedText => "string_unicode"
  | .notTruth => "bool_type"
  | .unclearTruth => "bool_parsing"
  | .notWhole => "int_type"
  | .unclearWhole => "int_parsing"
  | .fractional => "int_from_float"
  | .notFinite => "finite_number"
  | .notNumber => "float_type"
  | .unclearNumber => "float_parsing"
  | .tooSmall => "greater_than_equal"
  | .tooLarge => "less_than_equal"
  | .notList => "list_type"
  | .notTuple => "tuple_type"
  | .notSet => "set_type"
  | .notMapping => "dict_type"
  | .notRecord => "model_type"
  | .notPath => "path_type"
  | .notChoice => "enum"
  | .refused => "value_error"

/-- A fault and where it lies. -/
structure Problem where
  place : List Step
  fault : Fault
  deriving Repr, DecidableEq, Inhabited

/-- How many problems there are with a value that should be a `subject`, in words. -/
def summary (subject : String) (problems : List Problem) : String :=
  toString problems.length ++ " validation error" ++ (if problems.length = 1 then "" else "s") ++
    " for " ++ subject

/-- What reading a value gives: a result, or all that is wrong. -/
inductive Reading (α : Type) where
  | ok (result : α)
  | bad (problems : List Problem)
  deriving Repr, DecidableEq

namespace Reading

variable {α β : Type}

/-- A fault of the value itself. -/
def fault (f : Fault) : Reading α := .bad [⟨[], f⟩]

/-- The problems of a reading. -/
def problems : Reading α → List Problem
  | .ok _ => []
  | .bad ps => ps

/-- Applies a reading to a reading; the problems of both are kept. -/
def apply : Reading (α → β) → Reading α → Reading β
  | .ok f, .ok a => .ok (f a)
  | f, a => .bad (f.problems ++ a.problems)

instance : Pure Reading := ⟨.ok⟩

instance : Functor Reading where
  map f r := (Reading.ok f).apply r

instance : Seq Reading := ⟨fun f a => f.apply (a ())⟩

/-- The reading of a part, seen from the whole. -/
def inside (step : Step) : Reading α → Reading α
  | .ok a => .ok a
  | .bad ps => .bad (ps.map fun p => { p with place := step :: p.place })

/-- Refuses results that a test finds wrong. -/
def check (test : α → Option Fault) : Reading α → Reading α
  | .ok a => match test a with
    | none => .ok a
    | some f => fault f
  | .bad ps => .bad ps

/-- The readings of several parts together. -/
def all : List (Reading α) → Reading (List α)
  | [] => .ok []
  | r :: rest => List.cons <$> r <*> all rest

/-- The result, or the problems as an error. -/
def toExcept : Reading α → Except (List Problem) α
  | .ok a => .ok a
  | .bad ps => .error ps

end Reading

/-- A reader of values. -/
abbrev Reader (α : Type) := Value → Reading α

/-- White space around numbers. -/
def isSpace (c : Char) : Bool := Text.isBlank c && !(0x1C ≤ c.toNat && c.toNat ≤ 0x1F)

/-- A text without the white space around it. -/
def trimSpace (cs : List Char) : List Char :=
  ((cs.dropWhile isSpace).reverse.dropWhile isSpace).reverse

/-- The text of a value that counts as text, if it is one. -/
def asText? : Value → Option (Reading String)
  | .text s => some (.ok s)
  | .bytes content => some <| match Text.decodeUtf8 content with
    | .ok cs => .ok (String.ofList cs)
    | .error _ => .fault .notEncodedText
  | _ => none

/-- A text. -/
def text : Reader String := fun v => (asText? v).getD (.fault .notText)

/-- The spellings of the truth values, in lowercase. -/
def truthSpellings : List (String × Bool) := [
  ("0", false), ("off", false), ("f", false), ("false", false), ("n", false), ("no", false),
  ("1", true), ("on", true), ("t", true), ("true", true), ("y", true), ("yes", true)]

/-- The truth value that a text spells. -/
def truthOfText (s : String) : Reading Bool :=
  match truthSpellings.lookup (String.ofList (Decimal.lowerAscii s.toList)) with
  | some b => .ok b
  | none => .fault .unclearTruth

/-- The truth value that a number stands for. -/
def truthOfWhole (n : Int) : Reading Bool :=
  if n = 0 then .ok false else if n = 1 then .ok true else .fault .unclearTruth

/-- A truth value. -/
def truth : Reader Bool
  | .bool b => .ok b
  | .int n => truthOfWhole n
  | .float x =>
    match (Value.float x).asWhole? with
    | some n => truthOfWhole n
    | none => .fault .notTruth
  | v => match asText? v with
    | some (.ok s) => truthOfText s
    | some (.bad _) => .fault .unclearTruth
    | none => .fault .notTruth

/-- A text without a point and the zeros behind it. -/
def withoutZeroDecimals (cs : List Char) : List Char :=
  let whole := cs.takeWhile (· != '.')
  if (cs.drop (whole.length + 1)).all (· == '0') then whole else cs

/-- The whole number that a text spells. -/
def wholeOfText (s : String) : Reading Int :=
  match Decimal.whole? (withoutZeroDecimals (trimSpace s.toList)) with
  | some n => .ok n
  | none => .fault .unclearWhole

/-- A whole number. -/
def whole : Reader Int
  | .int n => .ok n
  | .bool b => .ok (if b then 1 else 0)
  | .float x =>
    if x.isNaN || x.isInf then .fault .notFinite
    else match (Value.float x).asWhole? with
      | some n => .ok n
      | none => .fault .fractional
  | v => match asText? v with
    | some (.ok s) => wholeOfText s
    | some (.bad _) => .fault .unclearWhole
    | none => .fault .notWhole

/-- The floating-point number that a text spells. -/
def numberOfText (s : String) : Reading Float :=
  match Decimal.float? (trimSpace s.toList) with
  | some x => .ok x
  | none => .fault .unclearNumber

/-- The double nearest to a whole number. -/
def floatOfInt (n : Int) : Float :=
  let magnitude := Decimal.toFloat n.natAbs 0
  if n < 0 then -magnitude else magnitude

/-- A floating-point number. -/
def number : Reader Float
  | .float x => .ok x
  | .int n => .ok (floatOfInt n)
  | .bool b => .ok (if b then 1.0 else 0.0)
  | v => match asText? v with
    | some (.ok s) => numberOfText s
    | some (.bad _) => .fault .unclearNumber
    | none => .fault .notNumber

/-- A whole number no less than a bound. -/
def wholeAtLeast (low : Int) : Reader Int := fun v =>
  (whole v).check fun n => if n < low then some .tooSmall else none

/-- A floating-point number between two bounds. -/
def numberBetween (low high : Float) : Reader Float := fun v =>
  (number v).check fun x =>
    if !(x ≤ high) then some .tooLarge else if !(low ≤ x) then some .tooSmall else none

/-- A path. -/
def path : Reader Path
  | .text s => .ok (.ofString s)
  | _ => .fault .notPath

/-- One of several named choices. -/
def choice {α : Type} (choices : List (String × α)) : Reader α
  | .text s => match choices.lookup s with
    | some a => .ok a
    | none => .fault .notChoice
  | _ => .fault .notChoice

/-- Something, or nothing. -/
def optional {α : Type} (read : Reader α) : Reader (Option α)
  | .null => .ok none
  | v => some <$> read v

/-- Any value. -/
def anything : Reader Value := .ok

/-- The items of a sequence, each read, from the item at `index` on. -/
def items {α : Type} (read : Reader α) (index : Nat) : List Value → Reading (List α)
  | [] => .ok []
  | v :: rest => List.cons <$> (read v).inside (.index index) <*> items read (index + 1) rest

/-- The items of a value that counts as a sequence. -/
def sequence? : Value → Option (List Value)
  | .list vs | .tuple vs | .set vs => some vs
  | _ => none

/-- A list. -/
def list {α : Type} (read : Reader α) : Reader (List α) := fun v =>
  match sequence? v with
  | some vs => items read 0 vs
  | none => .fault .notList

/-- A sequence that is kept as it is. -/
def tuple {α : Type} (read : Reader α) : Reader (List α) := fun v =>
  match sequence? v with
  | some vs => items read 0 vs
  | none => .fault .notTuple

/-- A set, as the list of its members in the order in which they first come. -/
def set {α : Type} [BEq α] (read : Reader α) : Reader (List α) := fun v =>
  match sequence? v with
  | some vs => List.eraseDups <$> items read 0 vs
  | none => .fault .notSet

/-- The step to an entry of a mapping. -/
def stepOf : Value → Step
  | .text s => .name s
  | .bool b => .index (if b then 1 else 0)
  | .int n =>
    let bound : Int := Nat.pow 2 63
    if -bound ≤ n && n < bound then .index n else .name (toString n)
  | v => .name v.literal

/-- The entries of a mapping with textual keys, each value read. -/
def entries {α : Type} (read : Reader α) : List (Value × Value) → Reading (List (String × α))
  | [] => .ok []
  | (key, v) :: rest =>
    let step := stepOf key
    let name := ((text key).inside (.name "[key]")).inside step
    let value := (read v).inside step
    List.cons <$> (Prod.mk <$> name <*> value) <*> entries read rest

/-- A mapping with textual keys. -/
def mapping {α : Type} (read : Reader α) : Reader (List (String × α))
  | .map es => entries read es
  | _ => .fault .notMapping

/-- A name in camel case: the parts after the first begin with a capital. -/
def camelCase (name : String) : String :=
  match splitString '_' name with
  | [] => name
  | first :: rest => first ++ String.join (rest.map String.capitalize)

/-- What to do with fields that a record does not have. -/
inductive Unknown where
  | ignored
  | refused
  | kept
  deriving Repr, DecidableEq

/-- A record's field names. -/
structure Names where
  /-- The names, in the order of the fields. -/
  fields : List String
  /-- Fields go by their names in camel case too. -/
  camel : Bool

/-- The name that takes precedence for a field. -/
def Names.preferred (names : Names) (field : String) : String :=
  if names.camel then camelCase field else field

/-- The name and the value under which a mapping gives a field. -/
def Names.find? (names : Names) (es : List (Value × Value)) (field : String) :
    Option (String × Value) :=
  match Value.lookup (.text (names.preferred field)) es with
  | some v => some (names.preferred field, v)
  | none => (Value.lookup (.text field) es).map fun v => (field, v)

/-- A field, or what stands for it when it is absent. -/
def Names.fieldOr {α : Type} (names : Names) (es : List (Value × Value)) (field : String)
    (read : Reader α) (absent : α) : Reading α :=
  match names.find? es field with
  | some (name, v) => (read v).inside (.name name)
  | none => .ok absent

/-- A field that must be present. -/
def Names.required {α : Type} (names : Names) (es : List (Value × Value)) (field : String)
    (read : Reader α) : Reading α :=
  match names.find? es field with
  | some (name, v) => (read v).inside (.name name)
  | none => (Reading.fault .missing).inside (.name (names.preferred field))

/-- A key under which a mapping gives one of the fields. -/
def Names.owns (names : Names) (es : List (Value × Value)) (key : String) : Bool :=
  names.fields.any fun field => (names.find? es field).any (·.1 == key)

/-- What becomes of an entry that is no field; names that are `owned` are fields. -/
def readExtra (owned : String → Bool) (unknown : Unknown) :
    Value × Value → Option (Reading (String × Value))
  | (.text name, v) =>
    if owned name then none
    else if unknown == .kept then some (.ok (name, v))
    else some ((Reading.fault .unknownField).inside (.name name))
  | (key, _) => some ((Reading.fault .unreadableKey).inside (stepOf key))

/-- The entries that are no fields, or what is wrong with them. -/
def Names.extras (names : Names) (unknown : Unknown) (es : List (Value × Value)) :
    Reading (List (String × Value)) :=
  if unknown == .ignored then .ok []
  else Reading.all (es.filterMap (readExtra (names.owns es) unknown))

/-- A record: its fields, and what else the mapping holds. -/
def record {α : Type} (names : Names) (unknown : Unknown)
    (read : List (Value × Value) → Reading α) : Reader (α × List (String × Value))
  | .map es => Prod.mk <$> read es <*> names.extras unknown es
  | _ => .fault .notRecord

/-- A record of which only the fields matter. -/
def fields {α : Type} (names : Names) (unknown : Unknown)
    (read : List (Value × Value) → Reading α) : Reader α := fun v =>
  Prod.fst <$> record names unknown read v

end Continuity.Schema
