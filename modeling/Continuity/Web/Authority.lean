import Continuity.Text.Blank
import Continuity.Text.Utf8

/-! # The authority of an address

An address that begins with two strokes, or goes on with them after its scheme, names a host. It is
well formed unless brackets in the host hold something other than an address of the sixth version
of the protocol, or a character of it would become a separator when written in a simpler form.
-/

namespace Continuity.Web

open Text (splitOn)

/-- Characters that are no separators, but whose simpler forms hold one. -/
def hiddenSeparators : List Char := [
  '\u2047', '\u2048', '\u2049', '\u2100', '\u2101', '\u2105', '\u2106', '\u2A74', '\uFE13', '\uFE16',
  '\uFE55', '\uFE56', '\uFE5F', '\uFE6B', '\uFF03', '\uFF0F', '\uFF1A', '\uFF1F', '\uFF20']

/-- A hexadecimal digit. -/
def isHexDigit (c : Char) : Bool := (Text.hexDigitValue? c).isSome

/-- A part of a numeric address in its fourth version: at most 255, without leading zeros. -/
def isOctet (cs : List Char) : Bool :=
  !cs.isEmpty && cs.all Char.isDigit && cs.length ≤ 3 && (cs.length = 1 || cs.head? != some '0') &&
    cs.foldl (fun n c => n * 10 + (c.toNat - '0'.toNat)) 0 ≤ 255

/-- A numeric address in its fourth version. -/
def isShortAddress (cs : List Char) : Bool :=
  let parts := splitOn '.' cs
  parts.length = 4 && parts.all isOctet

/-- A group of a numeric address in its sixth version. -/
def isGroup (cs : List Char) : Bool := !cs.isEmpty && cs.length ≤ 4 && cs.all isHexDigit

/-- The number of groups in a numeric address. -/
def groupCount : Nat := 8

/-- The parts between colons, with a fourth-version address at the end counted as two groups. -/
def addressParts? (cs : List Char) : Option (List (List Char)) :=
  let parts := splitOn ':' cs
  let last := parts.getLastD []
  if parts.length < 3 then none
  else if last.contains '.' then
    if isShortAddress last then some (parts.dropLast ++ [['0'], ['0']]) else none
  else some parts

/-- The groups before or after the gap; next to the gap they may be missing altogether. -/
def isSide (groups : List (List Char)) : Bool := groups == [[]] || groups.all isGroup

/-- A numeric address without its zone: eight groups, or fewer around one gap. -/
def isNumericAddress (cs : List Char) : Bool :=
  match addressParts? cs with
  | none => false
  | some parts =>
    let inner := (parts.drop 1).dropLast
    match inner.count [] with
    | 0 => parts.length = groupCount && parts.all isGroup
    | 1 =>
      let before := parts.take (inner.idxOf [] + 1)
      let after := parts.drop (inner.idxOf [] + 2)
      let size := fun (side : List (List Char)) => if side == [[]] then 0 else side.length
      isSide before && isSide after && size before + size after < groupCount
    | _ => false

/-- What may follow a percent sign in a numeric address. -/
def isZone (cs : List Char) : Bool := !cs.isEmpty && !cs.contains '%'

/-- A host that may stand in brackets. -/
def isBracketedHost (host : List Char) : Bool :=
  match host with
  | 'v' :: rest =>
    let version := rest.takeWhile isHexDigit
    match rest.drop version.length with
    | '.' :: more => !version.isEmpty && !more.isEmpty
    | _ => false
  | _ =>
    let address := host.takeWhile (· != '%')
    isNumericAddress address &&
      (address.length = host.length || isZone (host.drop (address.length + 1)))

/-- An authority with brackets: a host between them, at most a user before them and a port after
them. -/
def isBracketedAuthority (authority : List Char) : Bool :=
  let place := (authority.reverse.takeWhile (· != '@')).reverse
  match place with
  | '[' :: rest =>
    let host := rest.takeWhile (· != ']')
    let after := rest.drop (host.length + 1)
    (after.isEmpty || after.head? == some ':') && isBracketedHost host
  | _ => !place.contains '[' && isBracketedHost (place.takeWhile (· != ':'))

/-- An authority that can be used. -/
def isAuthority (authority : List Char) : Bool :=
  let opened := authority.contains '['
  let closed := authority.contains ']'
  opened == closed && (!opened || isBracketedAuthority authority) &&
    !authority.any hiddenSeparators.contains

/-- Letters of a scheme. -/
def isSchemeLetter (c : Char) : Bool := c.isAlphanum || c == '+' || c == '.' || c == '-'

/-- The scheme of an address, which begins with a letter and ends before a colon. -/
def scheme? (cs : List Char) : Option (List Char) :=
  let name := cs.takeWhile isSchemeLetter
  match cs.drop name.length with
  | ':' :: _ => if name.head?.any Char.isAlpha then some name else none
  | _ => none

/-- The authority of the part of an address that follows the scheme. -/
def authority? : List Char → Option (List Char)
  | '/' :: '/' :: rest => some (rest.takeWhile fun c => c != '/' && c != '?' && c != '#')
  | _ => none

/-- Schemes whose addresses need a host. -/
def isHostedScheme (scheme : List Char) : Bool :=
  ["http", "https", "ftp"].any fun s => s.toList == scheme.map Char.toLower

/-- An address that can lead somewhere: its authority is in order, and present where the scheme
needs one. -/
def isWellFormedAddress (cs : List Char) : Bool :=
  let cs := cs.filter fun c => c != '\t' && c != '\r' && c != '\n'
  let (hosted, rest) := match scheme? cs with
    | some scheme => (isHostedScheme scheme, cs.drop (scheme.length + 1))
    | none => (false, cs)
  match authority? rest with
  | some authority => isAuthority authority && (!hosted || !authority.isEmpty)
  | none => !hosted

end Continuity.Web
