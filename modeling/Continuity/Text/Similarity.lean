/-! # Similarity of texts

Two texts are as alike as the blocks that they share are long: the longest common block is found
first, then the longest ones on either side of it, and so on. In a long text the most frequent
characters do not begin a block, they only extend one.
-/

namespace Continuity.Text

/-- A common block of two texts: where it begins in each of them, and its length. -/
structure CommonBlock where
  left : Nat
  right : Nat
  size : Nat
  deriving Repr, DecidableEq, Inhabited

/-- The length from which on a text has characters too frequent to begin a block. -/
def longText : Nat := 200

/-- Characters that make up more than a hundredth of a long text. -/
def frequentChars (text : List Char) : List Char :=
  if text.length < longText then []
  else text.eraseDups.filter fun c => text.length / 100 + 1 < text.count c

/-- The lengths of the blocks that end with `c` on the left and with each character on the right,
given those for the character before `c`. -/
def blockRow (frequent : List Char) (c : Char) : (before : Nat) → List Char → List Nat → List Nat
  | _, [], _ => []
  | before, d :: ds, lengths =>
    let here := if c == d && !frequent.contains d then before + 1 else 0
    here :: blockRow frequent c (lengths.headD 0) ds lengths.tail

/-- The longer of a block and those in a row, the earlier one if they are equally long. -/
def longerInRow (left : Nat) : (right : Nat) → CommonBlock → List Nat → CommonBlock
  | _, best, [] => best
  | right, best, size :: sizes =>
    let best := if best.size < size then ⟨left + 1 - size, right + 1 - size, size⟩ else best
    longerInRow left (right + 1) best sizes

/-- The longest block that avoids frequent characters, over the rows from `left` on. -/
def longestBlock (frequent : List Char) (ds : List Char) :
    (left : Nat) → CommonBlock → (lengths : List Nat) → List Char → CommonBlock
  | _, best, _, [] => best
  | left, best, lengths, c :: cs =>
    let row := blockRow frequent c 0 ds lengths
    longestBlock frequent ds (left + 1) (longerInRow left 0 best row) row cs

/-- The length of the common front of two texts. -/
def commonFront : List Char → List Char → Nat
  | c :: cs, d :: ds => if c == d then commonFront cs ds + 1 else 0
  | _, _ => 0

/-- A block lengthened at both ends as far as the texts agree. -/
def CommonBlock.extend (b : CommonBlock) (cs ds : List Char) : CommonBlock :=
  let back := commonFront (cs.take b.left).reverse (ds.take b.right).reverse
  let front := commonFront (cs.drop (b.left + b.size)) (ds.drop (b.right + b.size))
  ⟨b.left - back, b.right - back, back + b.size + front⟩

/-- The number of characters in common blocks. -/
def sharedLength (frequent : List Char) : (fuel : Nat) → List Char → List Char → Nat
  | 0, _, _ => 0
  | _ + 1, [], _ => 0
  | _ + 1, _, [] => 0
  | fuel + 1, cs, ds =>
    let b := (longestBlock frequent ds 0 ⟨0, 0, 0⟩ [] cs).extend cs ds
    if b.size = 0 then 0
    else sharedLength frequent fuel (cs.take b.left) (ds.take b.right) + b.size +
      sharedLength frequent fuel (cs.drop (b.left + b.size)) (ds.drop (b.right + b.size))

/-- The number of characters that two texts share in common blocks. -/
def sharedChars (a b : List Char) : Nat := sharedLength (frequentChars b) a.length a b

/-- How much of two texts they share, between none and all. -/
def similarity (a b : String) : Float :=
  let length := a.length + b.length
  if length = 0 then 1.0
  else Float.ofNat (2 * sharedChars a.toList b.toList) / Float.ofNat length

/-- The least similarity of a close match. -/
def closeSimilarity : Float := 0.6

/-- The later of two scored texts by score and then by text. -/
def betterMatch (a b : Float × String) : Float × String :=
  if a.1 < b.1 || (a.1 == b.1 && a.2 < b.2) then b else a

/-- The candidate that is most like a word, among those that are close to it. -/
def closest? (word : String) (candidates : List String) : Option String :=
  let scored := candidates.filterMap fun c =>
    let score := similarity c word
    if closeSimilarity ≤ score then some (score, c) else none
  match scored with
  | [] => none
  | first :: rest => some (rest.foldl betterMatch first).2

end Continuity.Text
