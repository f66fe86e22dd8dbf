import Continuity.Data.Json
import Continuity.Decimal.Text

/-! # Reading JSON

A strict reader that names the first place where a text stops being a document. Numbers without a
point or an exponent are whole, of any size; of two members with one name the later value stays, at
the place of the earlier. Line and column in errors count from one.
-/

namespace Continuity.Json

/-- What is wrong at a place. -/
inductive Fault where
  | byteOrderMark
  | value
  | extraData
  | propertyName
  | colon
  | comma
  | unterminatedText
  | controlCharacter
  | escape
  | unicodeEscape
  deriving Repr, DecidableEq

/-- The wording of a fault. -/
def Fault.message : Fault → String
  | .byteOrderMark => "Unexpected UTF-8 BOM (decode using utf-8-sig)"
  | .value => "Expecting value"
  | .extraData => "Extra data"
  | .propertyName => "Expecting property name enclosed in double quotes"
  | .colon => "Expecting ':' delimiter"
  | .comma => "Expecting ',' delimiter"
  | .unterminatedText => "Unterminated string starting at"
  | .controlCharacter => "Invalid control character at"
  | .escape => "Invalid \\escape"
  | .unicodeEscape => "Invalid \\uXXXX escape"

/-- A fault and the offset of its place. -/
structure ReadError where
  fault : Fault
  offset : Nat
  deriving Repr, DecidableEq

/-- The wording of an error in a text, with line and column. -/
def ReadError.message (text : List Char) (e : ReadError) : String :=
  let before := text.take e.offset
  let line := before.count '\n' + 1
  let column := (before.reverse.takeWhile (· != '\n')).length + 1
  e.fault.message ++ ": line " ++ toString line ++ " column " ++ toString column ++
    " (char " ++ toString e.offset ++ ")"

/-- A place in the text and what follows it. -/
structure Cursor where
  offset : Nat
  rest : List Char

/-- The blanks of JSON. -/
def isJsonBlank (c : Char) : Bool := c == ' ' || c == '\t' || c == '\n' || c == '\r'

namespace Cursor

/-- The cursor past leading blanks. -/
def skipBlanks (c : Cursor) : Cursor :=
  let blanks := c.rest.takeWhile isJsonBlank
  ⟨c.offset + blanks.length, c.rest.drop blanks.length⟩

/-- The cursor `n` characters further. -/
def advance (c : Cursor) (n : Nat) : Cursor := ⟨c.offset + n, c.rest.drop n⟩

end Cursor

/-- The number that hexadecimal digits write. -/
def hexValue? (cs : List Char) : Option Nat :=
  cs.foldl (fun acc c => acc.bind fun n => (Text.hexDigitValue? c).map (n * 16 + ·)) (some 0)

/-- The code unit after a `u`; a unit is followed by at least one more character. -/
def codeUnit? (rest : List Char) : Option Nat :=
  if rest.length > 4 then hexValue? (rest.take 4) else none

/-- The character that a single escape stands for. -/
def simpleEscape? (c : Char) : Option Char :=
  match c with
  | '"' => some '"'
  | '\\' => some '\\'
  | '/' => some '/'
  | 'b' => some '\x08'
  | 'f' => some '\x0c'
  | 'n' => some '\n'
  | 'r' => some '\r'
  | 't' => some '\t'
  | _ => none

/-- The character of a code unit that stands alone; a surrogate alone is no character. -/
def loneUnit (n : Nat) : Char := if 0xD800 ≤ n ∧ n < 0xE000 then '\uFFFD' else Char.ofNat n

/-- The character of an escaped unit, which two units may form together, and the number of
characters after the `u` that it takes; or the distance from the `u` to the one that is ill-formed. -/
def escapedUnit (rest : List Char) : Except Nat (Char × Nat) :=
  match codeUnit? rest with
  | none => .error 0
  | some high =>
    match rest.drop 4 with
    | '\\' :: 'u' :: more =>
      if 0xD800 ≤ high ∧ high < 0xDC00 ∧ more.length > 4 then
        match hexValue? (more.take 4) with
        | none => .error 6
        | some low =>
          if 0xDC00 ≤ low ∧ low < 0xE000 then
            .ok (Char.ofNat (0x10000 + (high - 0xD800) * 0x400 + (low - 0xDC00)), 10)
          else .ok (loneUnit high, 4)
      else .ok (loneUnit high, 4)
    | _ => .ok (loneUnit high, 4)

/-- Reads a text whose opening quote stands at `start`, up to its closing quote. `skip` characters
belong to an escape already read. -/
def readText (start : Nat) (offset skip : Nat) (read : List Char) :
    List Char → Except ReadError (String × Cursor)
  | [] => .error ⟨.unterminatedText, start⟩
  | c :: rest =>
    match skip with
    | skip + 1 => readText start (offset + 1) skip read rest
    | 0 =>
      if c == '"' then .ok (String.ofList read.reverse, ⟨offset + 1, rest⟩)
      else if c.toNat < 0x20 then .error ⟨.controlCharacter, offset⟩
      else if c == '\\' then
        match rest with
        | [] => .error ⟨.unterminatedText, start⟩
        | 'u' :: more =>
          match escapedUnit more with
          | .error distance => .error ⟨.unicodeEscape, offset + 1 + distance⟩
          | .ok (d, size) => readText start (offset + 1) (size + 1) (d :: read) rest
        | e :: _ =>
          match simpleEscape? e with
          | none => .error ⟨.escape, offset⟩
          | some d => readText start (offset + 1) 1 (d :: read) rest
      else readText start (offset + 1) 0 (c :: read) rest

/-- The parts of a number: its sign, whole digits, decimal digits and exponent. -/
structure NumberParts where
  negative : Bool
  whole : List Char
  decimals : Option (List Char)
  exponent : Option (Bool × List Char)
  size : Nat

/-- The value of decimal digits. -/
def digitsValue (cs : List Char) : Nat :=
  cs.foldl (fun n c => n * 10 + (c.toNat - '0'.toNat)) 0

/-- Whether a minus sign stands at the front of a text, and what follows it. -/
def signed : List Char → Bool × List Char
  | '-' :: rest => (true, rest)
  | cs => (false, cs)

/-- The whole digits at the front of a text; a zero in front is the only one. -/
def wholeDigits : List Char → List Char
  | '0' :: _ => ['0']
  | cs => cs.takeWhile Char.isDigit

/-- The digits after a point at the front of a text, if there are any. -/
def decimals? : List Char → Option (List Char)
  | '.' :: rest =>
    let digits := rest.takeWhile Char.isDigit
    if digits.isEmpty then none else some digits
  | _ => none

/-- The exponent at the front of a text, if there is one, and the number of its characters. -/
def exponent? : List Char → Option ((Bool × List Char) × Nat)
  | e :: rest =>
    if e == 'e' || e == 'E' then
      let (sign, digits) := match rest with
        | '-' :: more => (some true, more.takeWhile Char.isDigit)
        | '+' :: more => (some false, more.takeWhile Char.isDigit)
        | more => (none, more.takeWhile Char.isDigit)
      if digits.isEmpty then none
      else some ((sign.getD false, digits), digits.length + (if sign.isSome then 2 else 1))
    else none
  | [] => none

/-- The longest number at the front of a text. -/
def numberParts? (cs : List Char) : Option NumberParts :=
  let (negative, body) := signed cs
  let whole := wholeDigits body
  if whole.isEmpty then none
  else
    let afterWhole := body.drop whole.length
    let decimals := decimals? afterWhole
    let exponent := exponent? (afterWhole.drop (decimals.elim 0 (·.length + 1)))
    let size := (if negative then 1 else 0) + whole.length +
      decimals.elim 0 (·.length + 1) + exponent.elim 0 (·.2)
    some ⟨negative, whole, decimals, exponent.map (·.1), size⟩

/-- The value of a number. -/
def NumberParts.value (p : NumberParts) : Json :=
  match p.decimals, p.exponent with
  | none, none =>
    let n : Int := digitsValue p.whole
    .int (if p.negative then -n else n)
  | decimals, exponent =>
    let places := decimals.getD []
    let power : Int := match exponent with
      | some (true, digits) => -(digitsValue digits : Int)
      | some (false, digits) => digitsValue digits
      | none => 0
    let x := Decimal.toFloat (digitsValue (p.whole ++ places)) (power - places.length)
    .float (if p.negative then -x else x)

/-- The words that stand for values. -/
def words : List (List Char × Json) :=
  [("null".toList, .null), ("true".toList, .bool true), ("false".toList, .bool false),
    ("NaN".toList, .float (0.0 / 0.0)), ("Infinity".toList, .float (1.0 / 0.0)),
    ("-Infinity".toList, .float (-1.0 / 0.0))]

/-- The word at the front of a text. -/
def word? (cs : List Char) : Option (Nat × Json) :=
  (words.find? fun w => w.1.isPrefixOf cs).map fun w => (w.1.length, w.2)

mutual

/-- Reads a value at the cursor. -/
def readValue : (fuel : Nat) → Cursor → Except ReadError (Json × Cursor)
  | 0, c => .error ⟨.value, c.offset⟩
  | fuel + 1, c =>
    match c.rest with
    | [] => .error ⟨.value, c.offset⟩
    | '"' :: rest =>
      match readText c.offset (c.offset + 1) 0 [] rest with
      | .error e => .error e
      | .ok (s, next) => .ok (.text s, next)
    | '\x7b' :: rest =>
      let c := Cursor.skipBlanks ⟨c.offset + 1, rest⟩
      match c.rest with
      | '\x7d' :: _ => .ok (.object [], c.advance 1)
      | _ => readMembers fuel [] c
    | '[' :: rest =>
      let c := Cursor.skipBlanks ⟨c.offset + 1, rest⟩
      match c.rest with
      | ']' :: _ => .ok (.list [], c.advance 1)
      | _ => readItems fuel [] c
    | _ =>
      match word? c.rest with
      | some (size, v) => .ok (v, c.advance size)
      | none =>
        match numberParts? c.rest with
        | some p => .ok (p.value, c.advance p.size)
        | none => .error ⟨.value, c.offset⟩

/-- Reads the items of a list from one item on. -/
def readItems : (fuel : Nat) → List Json → Cursor → Except ReadError (Json × Cursor)
  | 0, _, c => .error ⟨.value, c.offset⟩
  | fuel + 1, read, c =>
    match readValue fuel c with
    | .error e => .error e
    | .ok (item, next) =>
      let c := next.skipBlanks
      match c.rest with
      | ']' :: _ => .ok (.list (item :: read).reverse, c.advance 1)
      | ',' :: _ => readItems fuel (item :: read) (c.advance 1).skipBlanks
      | _ => .error ⟨.comma, c.offset⟩

/-- Reads the members of an object from one name on. -/
def readMembers : (fuel : Nat) → List (String × Json) → Cursor →
    Except ReadError (Json × Cursor)
  | 0, _, c => .error ⟨.value, c.offset⟩
  | fuel + 1, read, c =>
    match c.rest with
    | '"' :: rest =>
      match readText c.offset (c.offset + 1) 0 [] rest with
      | .error e => .error e
      | .ok (name, next) =>
        let c := next.skipBlanks
        match c.rest with
        | ':' :: _ =>
          match readValue fuel (c.advance 1).skipBlanks with
          | .error e => .error e
          | .ok (item, next) =>
            let read := insertMember name item read
            let c := next.skipBlanks
            match c.rest with
            | '\x7d' :: _ => .ok (.object read, c.advance 1)
            | ',' :: _ => readMembers fuel read (c.advance 1).skipBlanks
            | _ => .error ⟨.comma, c.offset⟩
        | _ => .error ⟨.colon, c.offset⟩
    | _ => .error ⟨.propertyName, c.offset⟩

end

/-- Reads a whole text as one document. Every nested step reads a character, so twice the length
bounds the depth of the calls. -/
def read (text : List Char) : Except ReadError Json :=
  match text with
  | '\uFEFF' :: _ => .error ⟨.byteOrderMark, 0⟩
  | _ =>
    match readValue (2 * text.length + 2) (Cursor.skipBlanks ⟨0, text⟩) with
    | .error e => .error e
    | .ok (v, next) =>
      let c := next.skipBlanks
      if c.rest.isEmpty then .ok v else .error ⟨.extraData, c.offset⟩

end Continuity.Json
