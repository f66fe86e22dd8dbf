import Continuity.Decimal.Numeral
import Continuity.Text.Casing
import Continuity.Yaml.Node

/-! # The values of scalars

What the content of a scalar stands for, once its kind is known. Underscores in numbers are passed
over, and the first version of the language has octal numbers with a leading zero and numbers to
the base sixty besides.
-/

namespace Continuity.Yaml

/-- The value of a digit to a base of up to sixteen. -/
def digitIn? (base : Nat) (c : Char) : Option Nat :=
  (Text.hexDigitValue? c).filter (· < base)

/-- The number that digits to a base stand for. -/
def wholeIn (base : Nat) (text : List Char) : Except Failure Int :=
  let (negative, digits) := Decimal.signed (Text.trim text)
  match digits with
  | [] => .error (.scalar (.whole base (String.ofList text)))
  | _ =>
    match digits.mapM (digitIn? base) with
    | none => .error (.scalar (.whole base (String.ofList text)))
    | some values =>
      let n : Nat := values.foldl (fun n d => n * base + d) 0
      .ok (if negative then -n else n)

/-- The number whose parts to the base sixty are given, the greatest first. -/
def sexagesimal (parts : List Int) : Int := parts.foldl (fun n d => n * 60 + d) 0

/-- The whole number that a scalar stands for. -/
def wholeValue (modern : Bool) (text : List Char) : Except Failure Int :=
  match text.filter (· != '_') with
  | [] => .error (.scalar .noDigits)
  | c :: cs =>
    let negative := c == '-'
    let digits := if c == '-' || c == '+' then cs else c :: cs
    let magnitude : Except Failure Int :=
      match digits with
      | '0' :: 'b' :: rest => wholeIn 2 rest
      | '0' :: 'x' :: rest => wholeIn 16 rest
      | '0' :: 'o' :: rest => wholeIn 8 rest
      | ['0'] => .ok 0
      | '0' :: _ => wholeIn (if modern then 10 else 8) digits
      | _ =>
        if !modern && digits.contains ':' then
          ((Text.splitOn ':' digits).mapM (wholeIn 10)).map sexagesimal
        else wholeIn 10 digits
    magnitude.map fun n => if negative then -n else n

/-- The floating-point number that digits stand for. -/
def floatIn (text : List Char) : Except Failure Float :=
  match Decimal.float? (Text.trim text) with
  | some x => .ok x
  | none => .error (.scalar (.number (String.ofList text)))

/-- The floating-point number that a scalar stands for. -/
def floatValue (modern : Bool) (text : List Char) : Except Failure Float :=
  match Text.lowerChars (text.filter (· != '_')) with
  | [] => .error (.scalar .noDigits)
  | c :: cs =>
    let digits := if c == '-' || c == '+' then cs else c :: cs
    let magnitude : Except Failure Float :=
      if digits == ".inf".toList then .ok (1.0 / 0.0)
      else if digits == ".nan".toList then .ok (0.0 / 0.0)
      else if !modern && digits.contains ':' then
        ((Text.splitOn ':' digits).mapM floatIn).map fun (parts : List Float) =>
          parts.foldl (fun x part => x * 60 + part) 0
      else floatIn digits
    magnitude.map fun x => if c == '-' then -x else x

/-- The truth value that a scalar stands for. -/
def truthValue (text : List Char) : Except Failure Bool :=
  let word := String.ofList (Text.lowerChars text)
  if ["yes", "y", "true", "on"].contains word then .ok true
  else if ["no", "n", "false", "off"].contains word then .ok false
  else .error (.scalar (.truth word))

/-! ## Dates and moments -/

/-- The numbers of a date, and of the time of the day where one is given. -/
structure TimestampParts where
  year : Nat
  month : Nat
  day : Nat
  time : Option (Nat × Nat × Nat) := none
  fraction : List Char := []
  /-- The distance from universal time in seconds. -/
  zone : Option Int := none
  deriving Repr, DecidableEq

/-- Up to two digits at the front of a text. -/
def upToTwoDigits? (cs : List Char) : Option (Nat × List Char) :=
  let digits := (cs.take 2).takeWhile Char.isDigit
  if digits.isEmpty then none else some (Decimal.ofDigits digits, cs.drop digits.length)

/-- A number of exactly some digits at the front of a text. -/
def digitsExactly? (count : Nat) (cs : List Char) : Option (Nat × List Char) :=
  let digits := cs.take count
  if digits.length = count && digits.all Char.isDigit then
    some (Decimal.ofDigits digits, cs.drop count)
  else none

/-- A given character at the front of a text. -/
def after? (c : Char) : List Char → Option (List Char)
  | d :: rest => if c == d then some rest else none
  | [] => none

/-- A blank inside a moment. -/
def isGap (c : Char) : Bool := c == ' ' || c == '\t'

/-- The distance from universal time that a text gives. -/
def zone? (cs : List Char) : Option (Option Int) :=
  match cs.dropWhile isGap with
  | [] => if cs.isEmpty then some none else none
  | ['Z'] => some (some 0)
  | mark :: rest =>
    if mark == '+' || mark == '-' then do
      let (hours, rest) ← upToTwoDigits? rest
      let minutes ← match rest with
        | [] => some 0
        | ':' :: rest => match digitsExactly? 2 rest with
          | some (minutes, []) => some minutes
          | _ => none
        | _ => none
      let seconds : Int := hours * 3600 + minutes * 60
      return some (if mark == '-' then -seconds else seconds)
    else none

/-- The time of the day that stands after a date. -/
def timeOfDay? (parts : TimestampParts) (cs : List Char) : Option TimestampParts := do
  let rest ← match cs with
    | c :: rest =>
      if c == 'T' || c == 't' then some rest
      else if isGap c then some (rest.dropWhile isGap) else none
    | [] => none
  let (hour, rest) ← upToTwoDigits? rest
  let (minute, rest) ← digitsExactly? 2 (← after? ':' rest)
  let (second, rest) ← digitsExactly? 2 (← after? ':' rest)
  let (fraction, rest) := match rest with
    | '.' :: rest => (rest.takeWhile Char.isDigit, rest.dropWhile Char.isDigit)
    | rest => ([], rest)
  let zone ← zone? rest
  return { parts with time := some (hour, minute, second), fraction, zone }

/-- The parts of a date or moment. -/
def timestampParts? (cs : List Char) : Option TimestampParts := do
  let (year, rest) ← digitsExactly? 4 cs
  let (month, rest) ← upToTwoDigits? (← after? '-' rest)
  let (day, rest) ← upToTwoDigits? (← after? '-' rest)
  let parts : TimestampParts := { year, month, day }
  if rest.isEmpty then return parts else timeOfDay? parts rest

/-- The microseconds that decimals of a second give: the seventh decimal rounds the sixth, and what
would be a full second is none. -/
def microseconds (fraction : List Char) : Nat :=
  let six := Decimal.ofDigits ((fraction ++ List.replicate 6 '0').take 6)
  let rounded := match fraction[6]? with
    | some c => if '4' < c then six + 1 else six
    | none => six
  if rounded > 999999 then 0 else rounded

/-- The date or moment that parts give. -/
def TimestampParts.value (p : TimestampParts) : Except CalendarFault Value :=
  match p.time with
  | none => (Date.make p.year p.month p.day).map .date
  | some (hour, minute, second) =>
    match p.zone.filter fun seconds => 86400 ≤ seconds.natAbs with
    | some seconds => .error (.offset seconds)
    | none =>
      (Date.make p.year p.month p.day).bind fun date =>
        (Moment.make date hour minute second (microseconds p.fraction) p.zone).map .moment

/-- The date or moment that a scalar stands for. -/
def timestampValue (line : Nat) (text : String) : Except Failure Value :=
  let cs := match text.toList.reverse with
    | '\n' :: rest => rest.reverse
    | _ => text.toList
  match timestampParts? cs with
  | none => .error (.malformed (.timestamp text) (some line))
  | some parts =>
    match parts.value with
    | .ok v => .ok v
    | .error fault => .error (.scalar (.calendar fault))

/-! ## Bytes -/

/-- The value of a digit to the base sixty-four. -/
def base64Digit? (c : Char) : Option Nat :=
  if 'A' ≤ c && c ≤ 'Z' then some (c.toNat - 'A'.toNat)
  else if 'a' ≤ c && c ≤ 'z' then some (c.toNat - 'a'.toNat + 26)
  else if c.isDigit then some (c.toNat - '0'.toNat + 52)
  else if c == '+' then some 62
  else if c == '/' then some 63
  else none

/-- The bytes of groups of four digits, and the digits that are left over. -/
def base64Groups : List Nat → List UInt8 × List Nat
  | a :: b :: c :: d :: rest =>
    let (bytes, left) := base64Groups rest
    (UInt8.ofNat (a * 4 + b / 16) :: UInt8.ofNat (b % 16 * 16 + c / 4) ::
      UInt8.ofNat (c % 4 * 64 + d) :: bytes, left)
  | left => ([], left)

/-- The digits before the padding that completes a group, how many there are before a padding that
does not, and whether the padding is complete. What is neither a digit nor padding is passed over. -/
def base64Digits (digits : List Nat) (padding : Nat) : List Char → List Nat × Bool
  | [] => (digits.reverse, false)
  | '=' :: rest =>
    let place := digits.length % 4
    if place ≥ 2 && place + padding + 1 ≥ 4 then (digits.reverse, true)
    else base64Digits digits (if place ≥ 2 then padding + 1 else padding) rest
  | c :: rest =>
    match base64Digit? c with
    | some d => base64Digits (d :: digits) 0 rest
    | none => base64Digits digits padding rest

/-- The bytes that a scalar stands for. -/
def bytesValue (line : Nat) (text : List Char) : Except Failure (List UInt8) :=
  if text.any fun c => c.toNat ≥ 0x80 then .error (.malformed .base64Text (some line))
  else
    let (digits, padded) := base64Digits [] 0 text
    let (bytes, left) := base64Groups digits
    match left with
    | [] => .ok bytes
    | [a, b] =>
      if padded then .ok (bytes ++ [UInt8.ofNat (a * 4 + b / 16)])
      else .error (.malformed .base64Padding (some line))
    | [a, b, c] =>
      if padded then
        .ok (bytes ++ [UInt8.ofNat (a * 4 + b / 16), UInt8.ofNat (b % 16 * 16 + c / 4)])
      else .error (.malformed .base64Padding (some line))
    | _ => .error (.malformed (.base64Length digits.length) (some line))

end Continuity.Yaml
