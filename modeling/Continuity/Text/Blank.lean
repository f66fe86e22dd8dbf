/-! # Blanks, trimming and lines

Blank characters are the separators and the control characters that end or space out text. Texts
are handled as lists of characters; the string functions at the end are their images.
-/

namespace Continuity.Text

/-- A blank: a space, tab, line or page end, or an information separator, of any script. -/
def isBlank (c : Char) : Bool :=
  let code := c.toNat
  (0x09 ≤ code && code ≤ 0x0D) || (0x1C ≤ code && code ≤ 0x20) || code == 0x85 || code == 0xA0 ||
    code == 0x1680 || (0x2000 ≤ code && code ≤ 0x200A) || code == 0x2028 || code == 0x2029 ||
    code == 0x202F || code == 0x205F || code == 0x3000

/-- A character that ends a line of general text. -/
def isLineEnd (c : Char) : Bool :=
  let code := c.toNat
  (0x0A ≤ code && code ≤ 0x0D) || (0x1C ≤ code && code ≤ 0x1E) || code == 0x85 ||
    code == 0x2028 || code == 0x2029

/-- The text without its leading blanks. -/
def trimStart (cs : List Char) : List Char := cs.dropWhile isBlank

/-- The text without its trailing blanks. -/
def trimEnd (cs : List Char) : List Char := (cs.reverse.dropWhile isBlank).reverse

/-- The text without blanks at either end. -/
def trim (cs : List Char) : List Char := trimEnd (trimStart cs)

/-- A non-empty text of blanks only. -/
def isBlankRun (cs : List Char) : Bool := !cs.isEmpty && cs.all isBlank

/-- The pieces between occurrences of a separator; one more than there are separators. -/
def splitOn (separator : Char) : List Char → List (List Char)
  | [] => [[]]
  | c :: rest =>
    if c == separator then [] :: splitOn separator rest
    else match splitOn separator rest with
      | [] => [[c]]
      | piece :: pieces => (c :: piece) :: pieces

/-- The pieces joined by a separator. -/
def joinWith (separator : Char) : List (List Char) → List Char
  | [] => []
  | [piece] => piece
  | piece :: pieces => piece ++ separator :: joinWith separator pieces

/-- The text up to its first line end, leading and trailing blanks aside. -/
def firstLine (cs : List Char) : List Char :=
  match trim cs with
  | [] => cs
  | trimmed => trimmed.takeWhile (!isLineEnd ·)

/-- One text begins another. -/
def startsWith : List Char → List Char → Bool
  | [], _ => true
  | _ :: _, [] => false
  | p :: ps, c :: cs => p == c && startsWith ps cs

/-- The offset of the first occurrence of `needle`. -/
def indexOf? (needle : List Char) : List Char → Option Nat
  | [] => if needle.isEmpty then some 0 else none
  | c :: rest =>
    if startsWith needle (c :: rest) then some 0 else (indexOf? needle rest).map (· + 1)

/-- The string without blanks at either end. -/
def strip (s : String) : String := String.ofList (trim s.toList)

end Continuity.Text

namespace Continuity

/-- The strings between occurrences of a separator. -/
def splitString (separator : Char) (s : String) : List String :=
  (Text.splitOn separator s.toList).map String.ofList

end Continuity
