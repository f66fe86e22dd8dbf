import Continuity.Text.Property

/-! # Stretches and words of a text

A stretch of a text goes from one offset up to another. A word is a run of letters, and of numerals
other than decimal digits, as long as possible.
-/

namespace Continuity.Text

/-- The characters of a text from one offset up to another. -/
def slice (start stop : Nat) (cs : List Char) : List Char := (cs.drop start).take (stop - start)

/-- The text with a stretch replaced. A stop below zero counts from the end of the text, and a stop
before the start makes the stretch empty. -/
def splice (start : Nat) (stop : Int) (new cs : List Char) : List Char :=
  let stop := if stop < 0 then cs.length + stop else stop
  cs.take start ++ new ++ cs.drop (max start stop.toNat)

/-- A character of a word. -/
def isWordLetter (c : Char) : Bool := isWord c && !isDecimal c && c != '_'

/-- A word and where it begins. -/
structure Word where
  start : Nat
  letters : List Char
  deriving Repr, DecidableEq, Inhabited

namespace Word

/-- The offset just past a word. -/
def stop (w : Word) : Nat := w.start + w.letters.length

/-- A word as a string. -/
def text (w : Word) : String := String.ofList w.letters

/-- The words of a text that follow a letter at `start`, with that letter. -/
def joinLetter (start : Nat) (c : Char) : List Word → List Word
  | [] => [⟨start, [c]⟩]
  | w :: later =>
    if w.start = start + 1 then ⟨start, c :: w.letters⟩ :: later
    else ⟨start, [c]⟩ :: w :: later

end Word

/-- The words of a text that begins at an offset. -/
def wordsFrom (offset : Nat) : List Char → List Word
  | [] => []
  | c :: rest =>
    let later := wordsFrom (offset + 1) rest
    if isWordLetter c then Word.joinLetter offset c later else later

/-- The words between two offsets of a text. -/
def wordsBetween (start stop : Nat) (text : List Char) : List Word :=
  wordsFrom start (slice start stop text)

end Continuity.Text
