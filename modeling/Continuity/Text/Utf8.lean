import Continuity.Text.Quoted

/-! # Reading UTF-8

A decoder from bytes to text that reports the first byte which no well-formed sequence allows. A
sequence is refused at its first byte, whatever follows it.
-/

namespace Continuity.Text

/-- Why the bytes at a position begin no character. -/
inductive Utf8Fault where
  | invalidStart
  | invalidContinuation
  | unexpectedEnd
  deriving Repr, DecidableEq

/-- Where and why bytes stop being UTF-8; the ill-formed part is `length` bytes long. -/
structure Utf8Error where
  byte : UInt8
  position : Nat
  length : Nat
  fault : Utf8Fault
  deriving Repr, DecidableEq

namespace Utf8Error

/-- The wording of a fault. -/
def reason : Utf8Fault → String
  | .invalidStart => "invalid start byte"
  | .invalidContinuation => "invalid continuation byte"
  | .unexpectedEnd => "unexpected end of data"

/-- The wording of an error: one byte is named, several are given as a range. -/
def message (e : Utf8Error) : String :=
  let what :=
    if e.length ≤ 1 then
      "byte 0x" ++ String.ofList (hexDigits e.byte.toNat 2) ++ " in position " ++ toString e.position
    else
      "bytes in position " ++ toString e.position ++ "-" ++ toString (e.position + e.length - 1)
  "'utf-8' codec can't decode " ++ what ++ ": " ++ reason e.fault

end Utf8Error

/-- The number of continuation bytes after a leading byte, and the bounds of the first of them. -/
def leadShape? (b : UInt8) : Option (Nat × UInt8 × UInt8) :=
  if 0xC2 ≤ b ∧ b ≤ 0xDF then some (1, 0x80, 0xBF)
  else if b = 0xE0 then some (2, 0xA0, 0xBF)
  else if b = 0xED then some (2, 0x80, 0x9F)
  else if 0xE1 ≤ b ∧ b ≤ 0xEF then some (2, 0x80, 0xBF)
  else if b = 0xF0 then some (3, 0x90, 0xBF)
  else if 0xF1 ≤ b ∧ b ≤ 0xF3 then some (3, 0x80, 0xBF)
  else if b = 0xF4 then some (3, 0x80, 0x8F)
  else none

/-- Reads `count` continuation bytes, the first within its own bounds. A failure gives the number
of bytes read. -/
def readTail (low high : UInt8) (value read : Nat) :
    (count : Nat) → List UInt8 → Except (Nat × Utf8Fault) Nat
  | 0, _ => .ok value
  | _ + 1, [] => .error (read, .unexpectedEnd)
  | count + 1, b :: rest =>
    if low ≤ b ∧ b ≤ high then
      readTail 0x80 0xBF (value * 64 + (b.toNat - 0x80)) (read + 1) count rest
    else .error (read, .invalidContinuation)

/-- The payload bits of a leading byte with `count` continuation bytes. -/
def leadValue (count : Nat) (b : UInt8) : Nat :=
  match count with
  | 1 => b.toNat - 0xC0
  | 2 => b.toNat - 0xE0
  | _ => b.toNat - 0xF0

/-- The character at the front of the bytes and the number of bytes it takes. -/
def decodeChar (position : Nat) (b : UInt8) (rest : List UInt8) : Except Utf8Error (Char × Nat) :=
  if b < 0x80 then .ok (Char.ofNat b.toNat, 1)
  else match leadShape? b with
    | none => .error ⟨b, position, 1, .invalidStart⟩
    | some (count, low, high) =>
      match readTail low high (leadValue count b) 1 count rest with
      | .ok value => .ok (Char.ofNat value, count + 1)
      | .error (read, fault) => .error ⟨b, position, read, fault⟩

/-- Decodes from a position on; `skip` bytes of the character before are still to be passed. -/
def decodeFrom (position skip : Nat) : List UInt8 → Except Utf8Error (List Char)
  | [] => .ok []
  | b :: rest =>
    match skip with
    | skip + 1 => decodeFrom (position + 1) skip rest
    | 0 =>
      match decodeChar position b rest with
      | .error e => .error e
      | .ok (c, size) => (decodeFrom (position + 1) (size - 1) rest).map (c :: ·)

/-- The text that bytes encode. -/
def decodeUtf8 (bytes : List UInt8) : Except Utf8Error (List Char) := decodeFrom 0 0 bytes

/-- The bytes of a character. -/
def encodeChar (c : Char) : List UInt8 :=
  let n := c.toNat
  if n < 0x80 then [UInt8.ofNat n]
  else if n < 0x800 then [UInt8.ofNat (0xC0 + n / 64), UInt8.ofNat (0x80 + n % 64)]
  else if n < 0x10000 then
    [UInt8.ofNat (0xE0 + n / 4096), UInt8.ofNat (0x80 + n / 64 % 64), UInt8.ofNat (0x80 + n % 64)]
  else
    [UInt8.ofNat (0xF0 + n / 262144), UInt8.ofNat (0x80 + n / 4096 % 64),
      UInt8.ofNat (0x80 + n / 64 % 64), UInt8.ofNat (0x80 + n % 64)]

/-- The bytes of a text. -/
def encodeUtf8 (cs : List Char) : List UInt8 := cs.flatMap encodeChar

/-- Every line end as a single line feed. -/
def unifyNewlines : List Char → List Char
  | [] => []
  | '\r' :: '\n' :: rest => '\n' :: unifyNewlines rest
  | c :: rest => (if c == '\r' then '\n' else c) :: unifyNewlines rest

end Continuity.Text
