import Continuity.Decimal.Text
import Continuity.Text.Blank

/-! # Numbers written out

Whole and floating-point numbers as people type them: a sign may stand in front, an underscore may
separate two digits, and a floating-point number may lack either side of its point.
-/

namespace Continuity.Decimal

/-- The number that decimal digits stand for. -/
def ofDigits (digits : List Char) : Nat :=
  digits.foldl (fun n c => n * 10 + (c.toNat - '0'.toNat)) 0

/-- A sign, if there is one, and what comes after. The sign is true for minus. -/
def signed : List Char → Bool × List Char
  | '-' :: rest => (true, rest)
  | '+' :: rest => (false, rest)
  | cs => (false, cs)

/-- Digits without the single underscores between them. -/
def digits? : List Char → Option (List Char)
  | [] => none
  | [c] => if c.isDigit then some [c] else none
  | c :: '_' :: rest => if c.isDigit then (digits? rest).map (c :: ·) else none
  | c :: rest => if c.isDigit then (digits? rest).map (c :: ·) else none

/-- The whole number that a text is. -/
def whole? (cs : List Char) : Option Int :=
  let (negative, body) := signed cs
  (digits? body).map fun digits =>
    let n : Int := ofDigits digits
    if negative then -n else n

/-- A text in lowercase letters of ASCII. -/
def lowerAscii (cs : List Char) : List Char := cs.map Char.toLower

/-- The parts of a number with a point and an exponent. -/
structure Parts where
  whole : List Char
  decimals : List Char
  exponent : Int
  deriving Repr, DecidableEq

/-- The exponent that stands behind its mark, or zero when nothing is left. -/
def exponent? : List Char → Option Int
  | [] => some 0
  | mark :: rest => if mark.toLower == 'e' then whole? rest else none

/-- The parts of an unsigned number; some digit stands before the exponent. -/
def parts? (cs : List Char) : Option Parts :=
  let whole := cs.takeWhile fun c => c.isDigit || c == '_'
  let rest := cs.drop whole.length
  let (point, rest) := match rest with
    | '.' :: rest => (true, rest)
    | rest => (false, rest)
  let decimals := if point then rest.takeWhile fun c => c.isDigit || c == '_' else []
  let rest := rest.drop decimals.length
  let clean (digits : List Char) : Option (List Char) :=
    if digits.isEmpty then some [] else digits? digits
  match clean whole, clean decimals, exponent? rest with
  | some whole, some decimals, some exponent =>
    if whole.isEmpty && decimals.isEmpty then none else some ⟨whole, decimals, exponent⟩
  | _, _, _ => none

/-- The double nearest to a number given by its parts. -/
def Parts.value (p : Parts) : Float :=
  toFloat (ofDigits (p.whole ++ p.decimals)) (p.exponent - p.decimals.length)

/-- The floating-point number that a text is; infinity and the undefined number have names. -/
def float? (cs : List Char) : Option Float :=
  let (negative, body) := signed cs
  let name := String.ofList (lowerAscii body)
  let value? :=
    if name == "inf" || name == "infinity" then some (1.0 / 0.0)
    else if name == "nan" then some (0.0 / 0.0)
    else (parts? body).map Parts.value
  value?.map fun x => if negative then -x else x

end Continuity.Decimal
