import Continuity.Text.Blank

/-! # Sentences and quotations

A sentence ends with full stops or other terminators, closing quotes and brackets included, where
blank space or the end of the text follows. Sentences cover the text without gaps.

A quotation runs from an opening quote to the next quote, which must be able to close it. The
straight quote can do both.
-/

namespace Continuity.Text

/-- A mark that ends a sentence. -/
def isTerminator (c : Char) : Bool := c == '.' || c == '!' || c == '?' || c == '…'

/-- A quote or bracket that may close after the mark. -/
def isCloser (c : Char) : Bool :=
  c == '"' || c == '\'' || c == '”' || c == '’' || c == ')' || c == ']'

/-- The character before the next ends a sentence or may do so, given that the one before it did
when `ending` holds. -/
def endsAfter (ending : Bool) (c : Char) : Bool := isTerminator c || (ending && isCloser c)

/-- The offsets at which sentences end with a mark. -/
def sentenceEnds (ending : Bool) (offset : Nat) : List Char → List Nat
  | [] => []
  | c :: rest =>
    let ending := endsAfter ending c
    let later := sentenceEnds ending (offset + 1) rest
    if ending && rest.head?.all isBlank then (offset + 1) :: later else later

/-- The stretches between consecutive offsets, the first beginning at `start`. -/
def stretches (start : Nat) : List Nat → List (Nat × Nat)
  | [] => []
  | stop :: rest => (start, stop) :: stretches stop rest

/-- The sentences of a text, as offsets. What follows the last mark is one, unless it is blank. -/
def sentences (text : List Char) : List (Nat × Nat) :=
  let ends := sentenceEnds false 0 text
  let last := ends.getLastD 0
  let ends := if (text.drop last).all isBlank then ends else ends ++ [text.length]
  stretches 0 ends

/-- A mark that can open a quotation. -/
def opensQuotation (c : Char) : Bool := c == '"' || c == '“'

/-- A mark that can close a quotation. -/
def closesQuotation (c : Char) : Bool := c == '"' || c == '”'

/-- The quotations of a text that begins at an offset, given where one has been opened. -/
def quotationsFrom (opened : Option Nat) (offset : Nat) : List Char → List (Nat × Nat)
  | [] => []
  | c :: rest =>
    match opened with
    | some start =>
      if closesQuotation c then (start, offset + 1) :: quotationsFrom none (offset + 1) rest
      else quotationsFrom (if opensQuotation c then some offset else opened) (offset + 1) rest
    | none =>
      quotationsFrom (if opensQuotation c then some offset else none) (offset + 1) rest

/-- The quotations of a text, their quotes included. -/
def quotations (text : List Char) : List (Nat × Nat) := quotationsFrom none 0 text

/-- An offset lies in one of some stretches. -/
def liesIn (stretches : List (Nat × Nat)) (offset : Nat) : Bool :=
  stretches.any fun (start, stop) => start ≤ offset && offset < stop

end Continuity.Text
