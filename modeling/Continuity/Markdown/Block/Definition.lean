import Continuity.Markdown.Block.Leaf
import Continuity.Web.Url

/-! # Definitions of references

A definition gives a label a destination and perhaps a title, and may run over several lines. Lines
are gathered one by one, only as far as a part of the definition reaches.
-/

namespace Continuity.Markdown.Scope

open Web (Url)

/-- The text gathered for a definition, and the first line not gathered. -/
structure Gathered where
  text : Array Char
  next : Nat

/-- The text of a line with its line feed. -/
def wholeText (s : Scope) (i : Nat) : List Char :=
  slice s.src (s.line i).textStart ((s.line i).stop + 1)

/-- The text with one more line, unless the next line is empty or begins something else. -/
def gather? (s : Scope) (g : Gathered) : Option Gathered :=
  if s.lineCount ≤ g.next || s.isEmpty g.next then none
  else if s.continuesParagraph g.next || !s.interrupts .definition g.next then
    some ⟨g.text ++ s.wholeText g.next, g.next + 1⟩
  else none

/-- The text with one more line if there is one. -/
def gather (s : Scope) (g : Gathered) : Gathered := (s.gather? g).getD g

/-- The closing bracket of the label. -/
def definitionLabel? (s : Scope) : (fuel : Nat) → Gathered → Nat → Option (Gathered × Nat)
  | 0, _, _ => none
  | fuel + 1, g, pos =>
    match g.text[pos]? with
    | none => none
    | some '[' => none
    | some ']' => some (g, pos)
    | some '\n' => s.definitionLabel? fuel (s.gather g) (pos + 1)
    | some '\\' =>
      let g := if g.text[pos + 1]? == some '\n' then s.gather g else g
      s.definitionLabel? fuel g (pos + 2)
    | some _ => s.definitionLabel? fuel g (pos + 1)

/-- Skips gaps and line feeds. -/
def skipBetween (s : Scope) : (fuel : Nat) → Gathered → Nat → Gathered × Nat
  | 0, g, pos => (g, pos)
  | fuel + 1, g, pos =>
    match g.text[pos]? with
    | some '\n' => s.skipBetween fuel (s.gather g) (pos + 1)
    | some c => if isGap c then s.skipBetween fuel g (pos + 1) else (g, pos)
    | none => (g, pos)

/-- Reads a title to its end, gathering lines. -/
def finishTitle (s : Scope) : (fuel : Nat) → Gathered → TitleRead → Gathered × TitleRead
  | 0, g, t => (g, t)
  | fuel + 1, g, t =>
    match t with
    | .unfinished mark before =>
      match s.gather? g with
      | none => (g, t)
      | some more =>
        s.finishTitle fuel more (continueTitle more.text mark before g.text.size more.text.size)
    | _ => (g, t)

/-- A definition, its label's key, and the line after it. -/
structure DefinitionFound where
  key : List Char
  definition : Definition
  next : Nat

/-- The rest of a line after a position holds only gaps. -/
def endsLine (text : Array Char) (pos : Nat) : Bool :=
  match text[skipWhile isGap text pos text.size]? with
  | none => true
  | some c => c == '\n'

/-- The title after a destination that ends at `pos`, and the line after it. Blanks or a line end
set a title apart. A title that something follows does not count if the definition is complete
without it. -/
def definitionTitle? (s : Scope) (fuel : Nat) (g : Gathered) (pos : Nat) :
    Option (List Char × Nat) :=
  let without := fun (text : Array Char) =>
    if endsLine text pos then some ([], g.next) else none
  let (begun, start) := s.skipBetween fuel g pos
  let (g, title) := s.finishTitle fuel begun (readTitle begun.text start begun.text.size)
  match title with
  | .closed part =>
    if start != pos || g.next != begun.next then
      if endsLine g.text part.next then some (part.text, g.next)
      else if part.text.isEmpty then none
      else without g.text
    else without g.text
  | _ => without g.text

/-- The definition that begins at a line. -/
def definition? (s : Scope) (i : Nat) : Option DefinitionFound :=
  if s.isCodeIndented i || s.firstChar? i != some '[' then none
  else
    let fuel := s.src.size + 2 - (s.line i).start
    (s.definitionLabel? fuel ⟨(s.wholeText i).toArray, i + 1⟩ 1).bind fun (g, close) =>
      if g.text[close + 1]? != some ':' then none
      else
        let key := labelKey (slice g.text 1 close)
        let (g, pos) := s.skipBetween fuel g (close + 2)
        (destination? g.text pos g.text.size).bind fun part =>
          let url := Url.normalize part.text
          if !Url.isAllowed url then none
          else (s.definitionTitle? fuel g part.next).bind fun (title, next) =>
            if key.isEmpty then none else some ⟨key, ⟨url, title⟩, next⟩

end Continuity.Markdown.Scope
