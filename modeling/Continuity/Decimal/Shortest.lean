/-! # Shortest decimals of binary fractions

A finite double is `m * 2 ^ q`. Of the decimals that round to it, `shortest` gives one with the
fewest digits, and of those the nearest. The search runs over digit counts; at each count only the
two neighbours of the value on that decimal grid can qualify.
-/

namespace Continuity.Decimal

/-- The decimal `digits * 10 ^ exponent`. -/
structure Scientific where
  digits : Nat
  exponent : Int
  deriving Repr, DecidableEq

/-- A positive fraction. -/
structure Ratio where
  num : Nat
  den : Nat
  deriving Repr, DecidableEq

namespace Ratio

/-- The fraction `n * base ^ exponent`. -/
def scale (n base : Nat) (exponent : Int) : Ratio :=
  if 0 ≤ exponent then ⟨n * Nat.pow base exponent.toNat, 1⟩
  else ⟨n, Nat.pow base (-exponent).toNat⟩

/-- The order of fractions. -/
def le (a b : Ratio) : Bool := a.num * b.den ≤ b.num * a.den

/-- The strict order of fractions. -/
def lt (a b : Ratio) : Bool := a.num * b.den < b.num * a.den

/-- The distance between two fractions. -/
def distance (a b : Ratio) : Ratio :=
  ⟨(a.num * b.den - b.num * a.den) + (b.num * a.den - a.num * b.den), a.den * b.den⟩

end Ratio

/-- The fractions that round to a double: an interval that holds its ends when `closed`. -/
structure Rounding where
  low : Ratio
  value : Ratio
  high : Ratio
  closed : Bool

namespace Rounding

/-- The fractions that round to `m * 2 ^ q`; below a power of two the neighbour is half as far. -/
def ofBinary (m : Nat) (q : Int) : Rounding :=
  let below := if m = Nat.pow 2 52 ∧ q > -1074 then 1 else 2
  ⟨.scale (4 * m - below) 2 (q - 2), .scale (4 * m) 2 (q - 2), .scale (4 * m + 2) 2 (q - 2),
    m % 2 == 0⟩

/-- Membership of a decimal. -/
def contains (r : Rounding) (d : Scientific) : Bool :=
  let x := Ratio.scale d.digits 10 d.exponent
  if r.closed then r.low.le x && x.le r.high else r.low.lt x && x.lt r.high

/-- The decimal of grid `exponent` that qualifies, the nearer of two. -/
def onGrid? (r : Rounding) (exponent : Int) : Option Scientific :=
  let unit := Ratio.scale 1 10 exponent
  let floor := (r.value.num * unit.den) / (r.value.den * unit.num)
  let down : Scientific := ⟨floor, exponent⟩
  let up : Scientific := ⟨floor + 1, exponent⟩
  match r.contains down, r.contains up with
  | true, true =>
    let toDown := r.value.distance (.scale floor 10 exponent)
    let toUp := r.value.distance (.scale (floor + 1) 10 exponent)
    some (if toDown.le toUp then down else up)
  | true, false => some down
  | false, true => some up
  | false, false => none

/-- The first grid, from `exponent` downwards, that holds a qualifying decimal. -/
def firstOnGrid (r : Rounding) (exponent : Int) : (grids : Nat) → Scientific
  | 0 => ⟨r.value.num / r.value.den, 0⟩
  | grids + 1 => (r.onGrid? exponent).getD (r.firstOnGrid (exponent - 1) grids)

end Rounding

/-- The exponent of the leading decimal digit of a fraction. -/
def leadingExponent (r : Ratio) : Int :=
  if r.den ≤ r.num then (Nat.toDigits 10 (r.num / r.den)).length - 1
  else -(((Nat.toDigits 10 ((r.den - 1) / r.num)).length : Nat) : Int)

/-- A shortest decimal that rounds to `m * 2 ^ q`, for positive `m`. -/
def shortest (m : Nat) (q : Int) : Scientific :=
  let r := Rounding.ofBinary m q
  r.firstOnGrid (leadingExponent r.value) 18

end Continuity.Decimal

/-! ## The numbers that doubles are

A double is a fraction or an infinity, or else it is no number. Both zeros are one number.
-/

namespace Continuity.Decimal

/-- A number with its exact size. -/
inductive Number where
  | finite (size : Rat)
  | infinite (negative : Bool)
  deriving DecidableEq

/-- The rational number that a fraction is. -/
def Ratio.toRat (r : Ratio) : Rat := mkRat r.num r.den

/-- The whole number that a number is. -/
def Number.whole? : Number → Option Int
  | .finite size => if size.den = 1 then some size.num else none
  | .infinite _ => none

/-- The number that a double is. -/
def Number.ofFloat? (x : Float) : Option Number :=
  let bits := x.toBits.toNat
  let negative : Bool := bits ≥ Nat.pow 2 63
  let exponent : Nat := bits / Nat.pow 2 52 % 2048
  let fraction := bits % Nat.pow 2 52
  if exponent = 2047 then
    if fraction = 0 then some (.infinite negative) else none
  else
    let size := if exponent = 0 then Ratio.scale fraction 2 (-1074)
      else Ratio.scale (fraction + Nat.pow 2 52) 2 ((exponent : Int) - 1075)
    some (.finite (if negative then -size.toRat else size.toRat))

end Continuity.Decimal
