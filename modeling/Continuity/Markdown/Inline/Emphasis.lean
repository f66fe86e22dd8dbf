import Continuity.Markdown.Block
import Continuity.Text.Property

/-! # Emphasis

Asterisks and underscores become emphasis in pairs. Each mark in a run may open, close or do both,
by what stands around its run. Closing marks look back for the nearest mark that can open them; two
adjacent pairs make strong emphasis. What finds no partner stays text.
-/

namespace Continuity.Markdown

/-- One mark of a run of equal marks, at an index of the pieces. -/
structure Delimiter where
  mark : Char
  runLength : Nat
  piece : Nat
  opens : Bool
  closes : Bool
  /-- The delimiter that closes this one. -/
  partner : Option Nat := none
  deriving Repr, Inhabited, DecidableEq

namespace Emphasis

/-- Space for the purpose of emphasis. -/
def isSpace (c : Char) : Bool :=
  let n := c.toNat
  (0x09 ≤ n && n ≤ 0x0D) || n == 0x20 || n == 0xA0 || n == 0x1680 ||
    (0x2000 ≤ n && n ≤ 0x200A) || n == 0x202F || n == 0x205F || n == 0x3000

/-- What a run of marks between two characters may do: open, close. An underscore inside a word
does neither. -/
def capabilities (mark before after : Char) : Bool × Bool :=
  let leftFlanking := !(isSpace after) &&
    (!Text.isPunctuation after || isSpace before || Text.isPunctuation before)
  let rightFlanking := !(isSpace before) &&
    (!Text.isPunctuation before || isSpace after || Text.isPunctuation after)
  let splits := mark == '*'
  (leftFlanking && (splits || !rightFlanking || Text.isPunctuation before),
    rightFlanking && (splits || !leftFlanking || Text.isPunctuation after))

/-- A closing mark's class: lower bounds of past searches are kept per class. -/
structure SearchClass where
  mark : Char
  opens : Bool
  remainder : Nat
  deriving DecidableEq, Repr

/-- The class of a closing mark. -/
def searchClass (d : Delimiter) : SearchClass := ⟨d.mark, d.opens, d.runLength % 3⟩

/-- What is known while closing marks are matched. An index of minus one stands before all. -/
structure Matching where
  delimiters : Array Delimiter
  /-- How many delimiters before each can be passed over together with it. -/
  jumps : Array Nat
  /-- Openers at or below these indices were found useless for their class. -/
  bottoms : List (SearchClass × Int)
  /-- The first delimiter of the current run. -/
  runStart : Nat
  lastPiece : Int

/-- The lower bound of a class. -/
def Matching.bottom (m : Matching) (c : SearchClass) : Int :=
  ((m.bottoms.find? (·.1 == c)).map (·.2)).getD (-1)

/-- Marks that may both open and close do not pair when their lengths add up to a multiple of three,
unless both are multiples of three. -/
def isOddMatch (opener closer : Delimiter) : Bool :=
  (opener.closes || closer.opens) && (opener.runLength + closer.runLength) % 3 == 0 &&
    (opener.runLength % 3 != 0 || closer.runLength % 3 != 0)

/-- The nearest delimiter that can open a closing one, from an index down to a bound. -/
def findOpener? (m : Matching) (closer : Delimiter) (bottom : Int) :
    (fuel : Nat) → Int → Option Nat
  | 0, _ => none
  | fuel + 1, index =>
    if index ≤ bottom then none
    else match m.delimiters[index.toNat]? with
      | none => none
      | some opener =>
        if opener.mark == closer.mark && opener.opens && opener.partner.isNone &&
            !isOddMatch opener closer then
          some index.toNat
        else findOpener? m closer bottom fuel (index - m.jumps.getD index.toNat 0 - 1)

/-- Records a pair. -/
def pair (m : Matching) (opener closer : Nat) : Matching :=
  let before : Nat :=
    if opener > 0 ∧ !(m.delimiters[opener - 1]?.any (·.opens)) then
      m.jumps.getD (opener - 1) 0 + 1
    else 0
  { m with
    delimiters := (m.delimiters.modify closer fun d => { d with opens := false }).modify opener
      fun d => { d with partner := some closer, closes := false }
    jumps := (m.jumps.setIfInBounds closer (closer - opener + before)).setIfInBounds opener before
    lastPiece := -2 }

/-- Matches one delimiter, which is the next without a jump. -/
def matchOne (m : Matching) (index : Nat) : Matching :=
  match m.delimiters[index]? with
  | none => m
  | some closer =>
    let sameRun := match m.delimiters[m.runStart]? with
      | some d => d.mark == closer.mark && m.lastPiece == (closer.piece : Int) - 1
      | none => false
    let m := { m with
      jumps := m.jumps.push 0
      runStart := if sameRun then m.runStart else index
      lastPiece := closer.piece }
    if !closer.closes then m
    else
      let start : Int := (m.runStart : Int) - m.jumps.getD m.runStart 0 - 1
      match findOpener? m closer (m.bottom (searchClass closer)) (index + 1) start with
      | some opener => pair m opener index
      | none =>
        if start == -1 then m
        else { m with bottoms := (searchClass closer, start) :: m.bottoms }

/-- The delimiters with their partners. -/
def matchAll (delimiters : Array Delimiter) : Array Delimiter :=
  ((List.range delimiters.size).foldl matchOne ⟨delimiters, #[], [], 0, -2⟩).delimiters

/-- What becomes of a piece that was a mark. -/
inductive Role where
  | opening (strong : Bool) (mark : Char)
  | closing
  /-- The second mark of a doubled one. -/
  | absorbed
  deriving Repr, DecidableEq

/-- The roles of the delimiters up to an index, from the last to the first: two pairs that are
adjacent at both ends make one of strong emphasis. -/
def rolesBelow (ds : Array Delimiter) : (count : Nat) → List (Nat × Role)
  | 0 => []
  | i + 1 =>
    match ds[i]? with
    | none => rolesBelow ds i
    | some d =>
      match d.partner with
      | none => rolesBelow ds i
      | some last =>
        let closePiece := (ds[last]?.map (·.piece)).getD 0
        match i with
        | 0 => [(d.piece, .opening false d.mark), (closePiece, .closing)]
        | j + 1 =>
          match ds[j]?, ds[last + 1]? with
          | some outer, some outerClose =>
            if outer.partner == some (last + 1) && outer.mark == d.mark &&
                outer.piece + 1 == d.piece && outerClose.piece == closePiece + 1 then
              (d.piece, .opening true d.mark) :: (closePiece, .closing) ::
                (outer.piece, .absorbed) :: (outerClose.piece, .absorbed) :: rolesBelow ds j
            else
              (d.piece, .opening false d.mark) :: (closePiece, .closing) :: rolesBelow ds (j + 1)
          | _, _ =>
            (d.piece, .opening false d.mark) :: (closePiece, .closing) :: rolesBelow ds (j + 1)

/-- Adds content at the end of a list, joining adjacent runs of text. The list is reversed. -/
def push (content : Inline) : List Inline → List Inline
  | .text before :: rest =>
    match content with
    | .text more => .text (before ++ more) :: rest
    | other => other :: .text before :: rest
  | rest => content :: rest

/-- An emphasis that is still open: its mark and the content before it, reversed. -/
structure OpenEmphasis where
  strong : Bool
  mark : Char
  before : List Inline

/-- Nests pieces by their roles. -/
def nest (role : Nat → Option Role) (index : Nat) (stack : List OpenEmphasis)
    (done : List Inline) : List Inline → List Inline
  | [] =>
    (stack.foldl (fun inner o => push (.emphasis o.strong o.mark inner.reverse) o.before)
      done).reverse
  | piece :: rest =>
    match role index with
    | none => nest role (index + 1) stack (push piece done) rest
    | some .absorbed => nest role (index + 1) stack (push (.text []) done) rest
    | some (.opening strong mark) =>
      nest role (index + 1) (⟨strong, mark, done⟩ :: stack) [] rest
    | some .closing =>
      match stack with
      | [] => nest role (index + 1) [] (push piece done) rest
      | o :: outer =>
        nest role (index + 1) outer (push (.emphasis o.strong o.mark done.reverse) o.before) rest

/-- The content that pieces and their delimiters make up. -/
def resolve (pieces : List Inline) (delimiters : Array Delimiter) : List Inline :=
  let roles := rolesBelow (matchAll delimiters) delimiters.size
  nest (fun index => (roles.find? (·.1 == index)).map (·.2)) 0 [] [] pieces

end Emphasis

end Continuity.Markdown
