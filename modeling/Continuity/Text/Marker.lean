import Continuity.Text.Blank
import Continuity.Text.Casing

/-! # Finding words and phrases

A marker is a word or phrase that is looked for in a text without regard to case. Both its ends
must lie on a border between a word and something else.
-/

namespace Continuity.Text

/-- A border between a word and something else; the ends of the text are no part of a word. -/
def isBorder (before after : Option Char) : Bool := before.any isWord != after.any isWord

/-- One text begins another, apart from case. -/
def startsWithFolded : List Char → List Char → Bool
  | [], _ => true
  | _ :: _, [] => false
  | p :: ps, c :: cs => patternKey p == patternKey c && startsWithFolded ps cs

/-- A phrase stands at the front of a text, which `before` precedes, between two borders. -/
def standsAt (before : Option Char) (phrase text : List Char) : Bool :=
  isBorder before text.head? && startsWithFolded phrase text &&
    isBorder ((text.take phrase.length).getLast?.or before) (text.drop phrase.length).head?

/-- Phrases to be looked for, none of them blank. -/
structure Markers where
  phrases : List (List Char)
  deriving Repr, DecidableEq, Inhabited

namespace Markers

/-- The markers with these phrases, blanks around each aside; blank phrases are left out. -/
def ofStrings (phrases : List String) : Markers :=
  ⟨(phrases.map fun p => trim p.toList).filter (!·.isEmpty)⟩

/-- The first phrase that stands at the front of a text. -/
def at? (m : Markers) (before : Option Char) (text : List Char) : Option (List Char) :=
  m.phrases.find? fun phrase => standsAt before phrase text

/-- The stretches of a text where a phrase stands, from left to right and without overlap. The
text begins at `offset`, and `skip` of its characters belong to the phrase found last. -/
def findFrom (m : Markers) (before : Option Char) (offset skip : Nat) :
    List Char → List (Nat × Nat)
  | [] => []
  | c :: rest =>
    match skip with
    | skip + 1 => m.findFrom (some c) (offset + 1) skip rest
    | 0 =>
      match m.at? before (c :: rest) with
      | none => m.findFrom (some c) (offset + 1) 0 rest
      | some phrase =>
        (offset, offset + phrase.length) ::
          m.findFrom (some c) (offset + 1) (phrase.length - 1) rest

/-- The stretches of a text where a phrase stands. -/
def find (m : Markers) (text : List Char) : List (Nat × Nat) := m.findFrom none 0 0 text

/-- Some phrase stands in a text. -/
def occursIn (m : Markers) (text : List Char) : Bool := !(m.find text).isEmpty

end Markers

end Continuity.Text
