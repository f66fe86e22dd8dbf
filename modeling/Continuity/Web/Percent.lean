import Continuity.Text.Utf8

/-! # Percent encoding

Bytes outside a set of safe characters written as a percent sign and two hexadecimal digits.
-/

namespace Continuity.Web

open Text (hexDigitValue? encodeChar decodeUtf8)

/-- The uppercase hexadecimal digit of a number below sixteen. -/
def upperHexDigit (n : Nat) : Char :=
  if n < 10 then Char.ofNat ('0'.toNat + n) else Char.ofNat ('A'.toNat + (n - 10))

/-- A byte in percent form. -/
def percentByte (b : UInt8) : List Char :=
  ['%', upperHexDigit (b.toNat / 16), upperHexDigit (b.toNat % 16)]

/-- The byte that two hexadecimal digits write. -/
def hexByte? (a b : Char) : Option UInt8 :=
  match hexDigitValue? a, hexDigitValue? b with
  | some m, some n => some (UInt8.ofNat (m * 16 + n))
  | _, _ => none

/-- ASCII letters and digits. -/
def isAsciiAlphanumeric (c : Char) : Bool := c.isAlphanum

/-- Encodes what is not safe, and keeps escapes that are already there. -/
def encodePercent (safe : Char → Bool) : List Char → List Char
  | [] => []
  | '%' :: a :: b :: rest =>
    if (hexByte? a b).isSome then '%' :: a :: b :: encodePercent safe rest
    else '%' :: '2' :: '5' :: encodePercent safe (a :: b :: rest)
  | c :: rest =>
    if safe c then c :: encodePercent safe rest
    else (encodeChar c).flatMap percentByte ++ encodePercent safe rest

/-- The bytes of the escapes at the front of a text, and what follows them. -/
def escapedBytes : List Char → List UInt8 × List Char
  | '%' :: a :: b :: rest =>
    match hexByte? a b with
    | some byte =>
      let (bytes, rest) := escapedBytes rest
      (byte :: bytes, rest)
    | none => ([], '%' :: a :: b :: rest)
  | cs => ([], cs)

/-- Decodes bytes, each ill-formed part becoming one replacement character. -/
def decodeLossy : (fuel : Nat) → List UInt8 → List Char
  | 0, _ => []
  | _ + 1, [] => []
  | fuel + 1, b :: rest =>
    match Text.decodeChar 0 b rest with
    | .ok (c, size) => c :: decodeLossy fuel ((b :: rest).drop size)
    | .error e => '\uFFFD' :: decodeLossy fuel ((b :: rest).drop e.length)

/-- Decodes every run of escapes as UTF-8. -/
def decodePercentAux : (fuel : Nat) → List Char → List Char
  | 0, cs => cs
  | _ + 1, [] => []
  | fuel + 1, c :: rest =>
    match escapedBytes (c :: rest) with
    | ([], _) => c :: decodePercentAux fuel rest
    | (bytes, rest) => decodeLossy bytes.length bytes ++ decodePercentAux fuel rest

/-- The text that percent-encoded text stands for; what is no escape stands for itself. -/
def decodePercent (cs : List Char) : List Char := decodePercentAux cs.length cs

end Continuity.Web
