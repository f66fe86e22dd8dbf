import Continuity.Markdown.EntityTable
import Continuity.Text.Casing
import Continuity.Text.Quoted

/-! # Escapes and character references

A backslash before an ASCII punctuation mark makes it plain text; an ampersand and a name or number
up to a semicolon stand for a character.
-/

namespace Continuity.Markdown

/-- The marks that a backslash makes plain. -/
def isEscapable (c : Char) : Bool :=
  let n := c.toNat
  (0x21 ≤ n && n ≤ 0x2F) || (0x3A ≤ n && n ≤ 0x40) || (0x5B ≤ n && n ≤ 0x60) ||
    (0x7B ≤ n && n ≤ 0x7E)

/-- Numbers that a reference may name: no surrogates, no noncharacters, few controls. -/
def isReferable (n : Nat) : Bool :=
  !(0xD800 ≤ n && n ≤ 0xDFFF) && !(0xFDD0 ≤ n && n ≤ 0xFDEF) && n % 0x10000 < 0xFFFE &&
    !(n ≤ 0x08) && n != 0x0B && !(0x0E ≤ n && n ≤ 0x1F) && !(0x7F ≤ n && n ≤ 0x9F) && n ≤ 0x10FFFF

/-- What a name stands for. -/
def entity? (name : List Char) : Option (List Char) :=
  let name := String.ofList name
  (entityTable.find? (·.1 == name)).map (·.2.toList)

/-- The value of digits in a base. -/
def digitsIn (base : Nat) (digits : List Char) : Option Nat :=
  digits.foldl (fun acc c => acc.bind fun n =>
    (Text.hexDigitValue? c).bind fun d => if d < base then some (n * base + d) else none) (some 0)

/-- The number of a numeric reference, given what follows its ampersand and hash; at most
`hexWidth` hexadecimal or `decimalWidth` decimal digits. -/
def referenceNumber? (hexWidth decimalWidth : Nat) (digits : List Char) : Option Nat :=
  let bounded := fun (base width : Nat) (ds : List Char) =>
    if ds.isEmpty || ds.length > width then none else digitsIn base ds
  match digits with
  | x :: ds => if x == 'x' || x == 'X' then bounded 16 hexWidth ds else bounded 10 decimalWidth digits
  | [] => none

/-- The body of a reference: what stands between its ampersand and its semicolon. -/
def referenceBody? (cs : List Char) : Option (List Char) :=
  let body := cs.takeWhile fun c => c.isAlphanum || c == '#'
  match cs.drop body.length with
  | ';' :: _ => some body
  | _ => none

/-- The reference after an ampersand: what it stands for, and its length with ampersand and
semicolon. A number that may not be named stands for the replacement character. -/
def reference? (cs : List Char) : Option (List Char × Nat) :=
  (referenceBody? cs).bind fun body =>
    let size := body.length + 2
    match body with
    | '#' :: digits =>
      (referenceNumber? 6 7 digits).map fun n =>
        ([if isReferable n then Char.ofNat n else '\uFFFD'], size)
    | c :: _ =>
      if c.isAlpha && 2 ≤ body.length && body.length ≤ 32 then
        (entity? body).map fun s => (s, size)
      else none
    | [] => none

/-- The reference after an ampersand inside a destination or title; a number that may not be named
stays as written. -/
def quietReference? (cs : List Char) : Option (List Char × Nat) :=
  (referenceBody? cs).bind fun body =>
    let size := body.length + 2
    if 2 ≤ body.length && body.length ≤ 32 then
      match body with
      | '#' :: digits =>
        match referenceNumber? 8 8 digits with
        | some n => if isReferable n then some ([Char.ofNat n], size) else none
        | none => none
      | _ => (entity? body).map fun s => (s, size)
    else none

/-- The text with its escapes and references resolved; `skip` characters belong to a reference
already resolved. -/
def unescapeFrom (skip : Nat) : List Char → List Char
  | [] => []
  | c :: rest =>
    match skip with
    | skip + 1 => unescapeFrom skip rest
    | 0 =>
      match c, rest with
      | '\\', d :: _ => if isEscapable d then d :: unescapeFrom 1 rest else '\\' :: unescapeFrom 0 rest
      | '&', _ =>
        match quietReference? rest with
        | some (image, size) => image ++ unescapeFrom (size - 1) rest
        | none => '&' :: unescapeFrom 0 rest
      | _, _ => c :: unescapeFrom 0 rest

/-- The text with its escapes and references resolved. -/
def unescape (cs : List Char) : List Char := unescapeFrom 0 cs

end Continuity.Markdown
