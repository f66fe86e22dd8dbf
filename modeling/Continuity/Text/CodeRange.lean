/-! # Sets and shifts of code points

Character properties are given as lists of ranges with a step, since alternating letter pairs are
common; case mappings are ranges whose members all move by one distance.
-/

namespace Continuity.Text

/-- The code points `first`, `first + step`, and so on up to `last`. -/
structure CodeRange where
  first : Nat
  last : Nat
  step : Nat
  deriving Repr, DecidableEq

namespace CodeRange

/-- Membership of a code point. -/
def contains (r : CodeRange) (code : Nat) : Bool :=
  r.first ≤ code && code ≤ r.last && (code - r.first) % r.step == 0

/-- Membership of a code point in the union of ranges in the order of their first code points. -/
def anyContainsCode : List CodeRange → Nat → Bool
  | [], _ => false
  | r :: rest, code => r.first ≤ code && (r.contains code || anyContainsCode rest code)

/-- Membership of a character in the union of a table's ranges. -/
def anyContains (table : List CodeRange) (c : Char) : Bool := anyContainsCode table c.toNat

end CodeRange

/-- The code points of a range, each moved by `distance`. -/
structure CodeShift where
  first : Nat
  last : Nat
  step : Nat
  distance : Int
  deriving Repr, DecidableEq

namespace CodeShift

/-- Membership of a code point. -/
def contains (s : CodeShift) (code : Nat) : Bool :=
  s.first ≤ code && code ≤ s.last && (code - s.first) % s.step == 0

/-- The character a table moves `c` to; a character outside the table stays. -/
def apply (table : Array CodeShift) (c : Char) : Char :=
  match table.find? fun s => s.contains c.toNat with
  | some s => Char.ofNat (c.toNat + s.distance).toNat
  | none => c

end CodeShift

end Continuity.Text
