import Continuity.Calendar
import Continuity.Decimal.Shortest
import Continuity.Text.Quoted

/-! # Untyped data

The values of front matter, options and other data without a schema. Mappings keep the order in
which their keys first came, and two keys are the same when they are equal as data: a whole number,
the float of the same size and the truth value it stands for are one key.
-/

namespace Continuity

/-- A value without a schema. -/
inductive Value where
  | null
  | bool (b : Bool)
  | int (n : Int)
  | float (x : Float)
  | text (s : String)
  | list (items : List Value)
  /-- A sequence of fixed length, as it serves for a key or a pair. -/
  | tuple (items : List Value)
  | map (entries : List (Value × Value))
  | date (d : Date)
  | moment (m : Moment)
  | bytes (content : List UInt8)
  | set (members : List Value)
  deriving Inhabited

namespace Value

/-- The number that a number or truth value equals. -/
def number? : Value → Option Decimal.Number
  | .bool b => some (.finite (if b then 1 else 0))
  | .int n => some (.finite n)
  | .float x => Decimal.Number.ofFloat? x
  | _ => none

/-- The whole number that a number or truth value equals. -/
def asWhole? (v : Value) : Option Int := v.number?.bind Decimal.Number.whole?

/-- What a key that is no sequence is equal to. -/
inductive Atom where
  | null
  | number (n : Decimal.Number)
  | text (s : String)
  | date (d : Date)
  | moment (m : Moment)
  | bytes (content : List UInt8)
  deriving DecidableEq

/-- What a key is equal to that is no sequence. The float that is no number is equal to nothing. -/
def atom? : Value → Option Atom
  | .null => some .null
  | .text s => some (.text s)
  | .date d => some (.date d)
  | .moment m => some (.moment m)
  | .bytes content => some (.bytes content)
  | v => v.number?.map .number

mutual

/-- Equality of keys. -/
def sameKey : Value → Value → Bool
  | .tuple as, .tuple bs => sameKeys as bs
  | a, b => a.atom?.isSome && a.atom? == b.atom?

/-- Equality of sequences of keys. -/
def sameKeys : List Value → List Value → Bool
  | [], [] => true
  | a :: as, b :: bs => sameKey a b && sameKeys as bs
  | _, _ => false

end

/-- The value of the first entry with a key. -/
def lookup (key : Value) : List (Value × Value) → Option Value
  | [] => none
  | (k, v) :: rest => if sameKey k key then some v else lookup key rest

/-- The entries with one more; a key already present keeps its place. -/
def insertEntry (key value : Value) : List (Value × Value) → List (Value × Value)
  | [] => [(key, value)]
  | (k, v) :: rest =>
    if sameKey k key then (k, value) :: rest else (k, v) :: insertEntry key value rest

/-- The value under a textual key of a mapping. -/
def get? (name : String) : Value → Option Value
  | .map entries => lookup (.text name) entries
  | _ => none

/-- The value is a mapping. -/
def isMap : Value → Bool
  | .map _ => true
  | _ => false

/-- The text of a truth value. -/
def boolText (b : Bool) : String := if b then "True" else "False"

/-- Bytes as a term of a message: the characters of ASCII stand for themselves. -/
def bytesLiteral (content : List UInt8) : String :=
  let ascii := content.map fun b => Char.ofNat b.toNat
  let quote := Text.quoteFor ascii
  let body := ascii.flatMap fun c =>
    if c.toNat < 0x7F then Text.quotedChar quote c
    else '\\' :: 'x' :: Text.hexDigits c.toNat 2
  String.ofList ('b' :: quote :: body ++ [quote])

mutual

/-- The value as a term of a message: texts stand in quotes. -/
def literal : Value → String
  | .null => "None"
  | .bool b => boolText b
  | .int n => toString n
  | .float x => Decimal.text x
  | .text s => Text.quoted s
  | .list items => "[" ++ literals items ++ "]"
  | .tuple [item] => "(" ++ literal item ++ ",)"
  | .tuple items => "(" ++ literals items ++ ")"
  | .map entries => "\x7b" ++ entryLiterals entries ++ "\x7d"
  | .date d => d.literal
  | .moment m => m.literal
  | .bytes content => bytesLiteral content
  | .set [] => "set()"
  | .set members => "\x7b" ++ literals members ++ "\x7d"

/-- Terms separated by commas. -/
def literals : List Value → String
  | [] => ""
  | [item] => literal item
  | item :: rest => literal item ++ ", " ++ literals rest

/-- Keys and values separated by commas. -/
def entryLiterals : List (Value × Value) → String
  | [] => ""
  | [(k, v)] => literal k ++ ": " ++ literal v
  | (k, v) :: rest => literal k ++ ": " ++ literal v ++ ", " ++ entryLiterals rest

end

/-- The value as text: a text stands for itself, anything else as in a message. -/
def display : Value → String
  | .text s => s
  | .date d => d.iso
  | .moment m => m.isoWith " "
  | v => literal v

/-- What a kind of data is called in messages. -/
def kindName : Value → String
  | .null => "NoneType"
  | .bool _ => "bool"
  | .int _ => "int"
  | .float _ => "float"
  | .text _ => "str"
  | .list _ => "list"
  | .tuple _ => "tuple"
  | .map _ => "dict"
  | .date _ => "datetime.date"
  | .moment _ => "datetime.datetime"
  | .bytes _ => "bytes"
  | .set _ => "set"

/-- The members of data that has some: of a mapping its keys, of bytes their numbers. -/
def members? : Value → Option (List Value)
  | .list items | .tuple items | .set items => some items
  | .map entries => some (entries.map (·.1))
  | .bytes content => some (content.map fun b => .int b.toNat)
  | _ => none

/-- Data that counts as absent: nothing, zero, and what is empty. -/
def isEmpty : Value → Bool
  | .null => true
  | .bool b => !b
  | .int n => n == 0
  | .float x => x == 0.0
  | .text s => s.isEmpty
  | .list items | .tuple items | .set items => items.isEmpty
  | .map entries => entries.isEmpty
  | .bytes content => content.isEmpty
  | .date _ | .moment _ => false

end Value

end Continuity
