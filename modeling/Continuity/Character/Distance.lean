import Continuity.Text.Casing

/-! # Distance between spellings

The distance of two texts is the least number of letters to insert, delete or replace, and of pairs
of neighbours to swap, that turns one into the other; letters once swapped are not edited again.
The table of distances between beginnings is filled row by row, and each row needs the two before.
-/

namespace Continuity.Character

/-- The rest of a table row. The row belongs to the letter `x`, and `before` is the letter of the
row above; `last` is the letter of the column before and `left` the cell there. `above` holds the
cells of the row above from that column on, and `aboveTwo` those of the row before it from where a
swap would come. -/
def cells (x : Char) (before : Option Char) (last : Option Char) (left : Nat) :
    List Char → (above aboveTwo : List Nat) → List Nat
  | y :: ys, diagonal :: up :: above, aboveTwo =>
    let edited := min (min (up + 1) (left + 1)) (diagonal + if x == y then 0 else 1)
    let cell := match before, last, aboveTwo with
      | some w, some z, base :: _ => if x == z && w == y then min edited (base + 1) else edited
      | _, _, _ => edited
    let aboveTwo := if last.isSome then aboveTwo.tail else aboveTwo
    cell :: cells x before (some y) cell ys (up :: above) aboveTwo
  | _, _, _ => []

/-- The rows for the letters of a text, below the rows `above` and `aboveTwo`; the answer is the
last cell of the last row. -/
def lastCell (b : List Char) (before : Option Char) (row : Nat) :
    (above aboveTwo : List Nat) → List Char → Nat
  | above, _, [] => above.getLastD 0
  | above, aboveTwo, x :: xs =>
    lastCell b (some x) (row + 1) ((row + 1) :: cells x before none (row + 1) b above aboveTwo)
      above xs

/-- The distance of two texts. -/
def distance (a b : List Char) : Nat := lastCell b none 0 (List.range (b.length + 1)) [] a

/-- Two texts that differ, apart from case, by no more than a limit. -/
def isWithin (limit : Int) (a b : List Char) : Bool :=
  let a := Text.foldChars a
  let b := Text.foldChars b
  a != b && decide (((a.length : Int) - b.length).natAbs ≤ limit) && decide (distance a b ≤ limit)

end Continuity.Character
