/-! # Punycode

Labels of host names outside ASCII, written in ASCII: the ASCII characters first, then a run of
variable-length numbers that say which other character goes where.
-/

namespace Continuity.Web.Punycode

/-- The weight at which the digit of a position ends a number. -/
def threshold (bias position : Nat) : Nat :=
  let k := 36 * (position + 1)
  if k ≤ bias then 1 else if bias + 26 ≤ k then 26 else k - bias

/-- Divides a difference down to the range of one digit, counting the steps. -/
def adaptSteps : (fuel : Nat) → Nat → Nat → Nat × Nat
  | 0, delta, k => (delta, k)
  | fuel + 1, delta, k => if delta > 455 then adaptSteps fuel (delta / 35) (k + 36) else (delta, k)

/-- The bias after a difference was written. -/
def adapt (delta count : Nat) (first : Bool) : Nat :=
  let delta := if first then delta / 700 else delta / 2
  let delta := delta + delta / count
  let (delta, k) := adaptSteps delta delta 0
  k + 36 * delta / (delta + 38)

/-- A digit below thirty-six. -/
def digit (n : Nat) : Char :=
  if n < 26 then Char.ofNat ('a'.toNat + n) else Char.ofNat ('0'.toNat + (n - 26))

/-- The value of a digit. -/
def digitValue? (c : Char) : Option Nat :=
  if 'a' ≤ c ∧ c ≤ 'z' then some (c.toNat - 'a'.toNat)
  else if 'A' ≤ c ∧ c ≤ 'Z' then some (c.toNat - 'A'.toNat)
  else if '0' ≤ c ∧ c ≤ '9' then some (c.toNat - '0'.toNat + 26)
  else none

/-- The digits of a difference. -/
def encodeNumber (bias : Nat) : (fuel : Nat) → (position : Nat) → Nat → List Char
  | 0, _, _ => []
  | fuel + 1, position, q =>
    let t := threshold bias position
    if q < t then [digit q]
    else digit (t + (q - t) % (36 - t)) :: encodeNumber bias fuel (position + 1) ((q - t) / (36 - t))

/-- What is known between two written differences. -/
structure State where
  code : Nat
  delta : Nat
  handled : Nat
  bias : Nat
  first : Bool
  written : List Char

/-- Passes over the label's characters for one code point, writing a difference at each. -/
def encodePass (code : Nat) (s : State) : List Char → State
  | [] => s
  | c :: rest =>
    let s :=
      if c.toNat < code then { s with delta := s.delta + 1 }
      else if c.toNat = code then
        { s with
          written := s.written ++ encodeNumber s.bias (s.delta + 1) 0 s.delta
          bias := adapt s.delta (s.handled + 1) s.first
          delta := 0
          handled := s.handled + 1
          first := false }
      else s
    encodePass code s rest

/-- Writes the code points of `codes`, which are in increasing order. -/
def encodeCodes (label : List Char) (s : State) : List Nat → State
  | [] => s
  | code :: rest =>
    let s := { s with delta := s.delta + (code - s.code) * (s.handled + 1) }
    let s := encodePass code s label
    encodeCodes label { s with delta := s.delta + 1, code := code + 1 } rest

/-- A label in ASCII. -/
def encode (label : List Char) : List Char :=
  let basic := label.filter (·.toNat < 128)
  let codes := ((label.filter (·.toNat ≥ 128)).map Char.toNat).eraseDups.mergeSort
  let front := if basic.isEmpty then [] else basic ++ ['-']
  front ++ (encodeCodes label ⟨128, 0, basic.length, 72, true, []⟩ codes).written

/-- Reads a number: its value and what follows it. -/
def decodeNumber (bias : Nat) : (position weight value : Nat) → List Char →
    Option (Nat × List Char)
  | _, _, _, [] => none
  | position, weight, value, c :: rest =>
    match digitValue? c with
    | none => none
    | some d =>
      let t := threshold bias position
      let value := value + d * weight
      if d < t then some (value, rest)
      else decodeNumber bias (position + 1) (weight * (36 - t)) value rest

/-- Inserts the characters that the remaining numbers describe. -/
def decodeFrom (code index bias : Nat) (first : Bool) (decoded : List Char) :
    (fuel : Nat) → List Char → Option (List Char)
  | _, [] => some decoded
  | 0, _ :: _ => none
  | fuel + 1, digits =>
    match decodeNumber bias 0 1 0 digits with
    | none => none
    | some (delta, rest) =>
      let size := decoded.length + 1
      let position := index + delta
      let code := code + position / size
      if h : code.isValidChar then
        let place := position % size
        decodeFrom code (place + 1) (adapt delta size first) false
          (decoded.take place ++ Char.ofNatAux code h :: decoded.drop place) fuel rest
      else none

/-- The label that ASCII text stands for, if it stands for one. -/
def decode? (text : List Char) : Option (List Char) :=
  if text.all (·.toNat < 128) then
    let digits := (text.reverse.takeWhile (· != '-')).reverse
    let basic := if digits.length = text.length then [] else text.take (text.length - digits.length - 1)
    decodeFrom 128 0 72 true basic digits.length digits
  else none

end Continuity.Web.Punycode
