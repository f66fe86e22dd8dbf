import Continuity.Decimal.Shortest

/-! # Texts of floating-point numbers

Numbers are written with a shortest decimal. Positional notation serves from a ten-thousandth up to
ten to the sixteenth; beyond, an exponent of at least two digits follows the first digit. Reading is
the converse: a decimal is rounded to the nearest double.
-/

namespace Continuity.Decimal

/-- How numbers are written. -/
structure Style where
  /-- The least leading exponent in positional notation. -/
  positionalFrom : Int
  /-- The least leading exponent beyond positional notation. -/
  positionalBelow : Int
  /-- The least number of digits in an exponent. -/
  exponentWidth : Nat

/-- The style of numbers in reports and messages. -/
def Style.plain : Style := ⟨-4, 16, 2⟩

/-- A number padded with zeros on the left. -/
def padded (width n : Nat) : String :=
  let digits := toString n
  String.ofList (List.replicate (width - digits.length) '0') ++ digits

/-- The digits of a decimal without trailing zeros, and the exponent of the first of them. -/
def Scientific.normal (d : Scientific) : List Char × Int :=
  let digits := Nat.toDigits 10 d.digits
  let kept := (digits.reverse.dropWhile (· == '0')).reverse
  (if kept.isEmpty then ['0'] else kept, d.exponent + digits.length - 1)

/-- A positive decimal in a style. -/
def Scientific.text (style : Style) (d : Scientific) : String :=
  let (digits, lead) := d.normal
  if style.positionalFrom ≤ lead ∧ lead < style.positionalBelow then
    if lead < 0 then
      "0." ++ String.ofList (List.replicate (-lead - 1).toNat '0' ++ digits)
    else
      let whole := lead.toNat + 1
      let front := digits.take whole ++ List.replicate (whole - digits.length) '0'
      let back := digits.drop whole
      String.ofList front ++ "." ++ (if back.isEmpty then "0" else String.ofList back)
  else
    let front := match digits with
      | [] => "0"
      | [d] => String.ofList [d]
      | d :: rest => String.ofList (d :: '.' :: rest)
    front ++ "e" ++ (if lead < 0 then "-" else "+") ++ padded style.exponentWidth lead.natAbs

/-- The text of a double. -/
def text (x : Float) : String :=
  if x.isNaN then "nan"
  else
    let bits := x.toBits.toNat
    let sign := if bits ≥ Nat.pow 2 63 then "-" else ""
    let exponent : Nat := bits / Nat.pow 2 52 % 2048
    let fraction := bits % Nat.pow 2 52
    if exponent = 2047 then sign ++ "inf"
    else if exponent = 0 ∧ fraction = 0 then sign ++ "0.0"
    else
      let d := if exponent = 0 then shortest fraction (-1074)
        else shortest (fraction + Nat.pow 2 52) ((exponent : Int) - 1075)
      sign ++ d.text Style.plain

/-- The double nearest to `digits * 10 ^ exponent`; exponents far outside the range of doubles are
decided without the power. -/
def toFloat (digits : Nat) (exponent : Int) : Float :=
  let size : Int := (Nat.toDigits 10 digits).length
  if digits = 0 then 0.0
  else if size + exponent > 400 then 1.0 / 0.0
  else if size + exponent < -400 then 0.0
  else if exponent < 0 then Float.ofScientific digits true (-exponent).toNat
  else Float.ofScientific digits false exponent.toNat

end Continuity.Decimal
