import Continuity.Text.Blank
import Continuity.Text.Casing
import Continuity.Web.Percent
import Continuity.Web.Punycode

/-! # Link destinations as addresses

A destination is taken apart into scheme, host and the rest, leniently: what does not fit into a
host goes back to the path. `normalize` gives the form in which a destination is kept, with the host
and everything unsafe encoded; `display` gives the form in which it is shown, with both decoded as
far as that loses nothing. `isAllowed` refuses schemes that run or embed code.
-/

namespace Continuity.Web

open Text (trim startsWith patternKey lower)

/-- The parts of an address, in the order in which they are written. -/
structure Url where
  scheme : List Char
  slashes : Bool
  user : List Char
  host : List Char
  port : List Char
  path : List Char
  query : List Char
  fragment : List Char
  deriving Repr, DecidableEq

namespace Url

/-- Letters of a scheme, compared without case. -/
def isSchemeChar (c : Char) : Bool :=
  let k := patternKey c
  ('a' ≤ k && k ≤ 'z') || c.isDigit || c == '.' || c == '+' || c == '-'

/-- The scheme at the front, with its colon. -/
def splitScheme (cs : List Char) : List Char × List Char :=
  let name := cs.takeWhile isSchemeChar
  match cs.drop name.length with
  | ':' :: rest => if name.isEmpty then ([], cs) else (name ++ [':'], rest)
  | _ => ([], cs)

/-- Schemes that never have a host. -/
def isHostless (scheme : List Char) : Bool := scheme == "javascript:".toList

/-- Schemes whose host follows two slashes. -/
def isSlashed (scheme : List Char) : Bool :=
  ["http:", "https:", "ftp:", "gopher:", "file:"].any (·.toList == scheme)

/-- Characters that end the part in which user and host are sought. -/
def endsAuthority (c : Char) : Bool := c == '/' || c == '?' || c == '#'

/-- Characters that no host has. -/
def endsHost (c : Char) : Bool :=
  "%/?;#'{}|\\^`<>\" \r\n\t".toList.contains c

/-- Characters of a host's labels. -/
def isLabelChar (c : Char) : Bool := c.isAlphanum || c == '+' || c == '_' || c == '-'

/-- The user part before the last at sign of the authority, and what follows the sign. -/
def splitUser (cs : List Char) : List Char × List Char :=
  let authority := cs.takeWhile (!endsAuthority ·)
  let host := (authority.reverse.takeWhile (· != '@')).reverse
  if host.length = authority.length then ([], cs)
  else (authority.take (authority.length - host.length - 1), cs.drop (authority.length - host.length))

/-- A port at the end of a host, with its colon. -/
def splitPort (host : List Char) : List Char × List Char :=
  let digits := (host.reverse.takeWhile Char.isDigit).length
  match (host.reverse.drop digits) with
  | ':' :: front => (front.reverse, host.drop front.length)
  | _ => (host, [])

/-- A label of a host is short and plain; characters outside ASCII count as letters. -/
def isLabel (label : List Char) : Bool :=
  label.length ≤ 63 && label.all fun c => isLabelChar c || c.toNat > 127

/-- The labels up to the first that is none, and what has to go back to the path. -/
def validLabels : List (List Char) → List (List Char) × List (List Char)
  | [] => ([], [])
  | label :: rest =>
    if isLabel label then
      let (valid, back) := validLabels rest
      (label :: valid, back)
    else
      let front := (label.take 63).takeWhile isLabelChar
      ([front], label.drop front.length :: rest)

/-- A host without its brackets, and what has to go back to the path. -/
def checkHost (host : List Char) : List Char × List Char :=
  let limit := fun (h : List Char) => if h.length > 255 then [] else h
  if host.head? == some '[' && host.getLast? == some ']' then
    (((limit host).drop 1).dropLast, [])
  else
    let (valid, back) := validLabels (Text.splitOn '.' host)
    (limit (Text.joinWith '.' valid), Text.joinWith '.' back)

/-- The parts of an address. -/
def parse (cs : List Char) : Url :=
  let (scheme, rest) := splitScheme (trim cs)
  let slashes := startsWith ['/', '/'] rest && !isHostless scheme
  let rest := if slashes then rest.drop 2 else rest
  let hosted := !isHostless scheme && (slashes || (!scheme.isEmpty && !isSlashed scheme))
  let (user, host, port, rest) :=
    if hosted then
      let (user, rest) := splitUser rest
      let raw := rest.takeWhile (!endsHost ·)
      let raw := if raw.getLast? == some ':' then raw.dropLast else raw
      let rest := rest.drop raw.length
      let (name, port) := splitPort raw
      let (host, back) := checkHost name
      (user, host, port.drop 1, back ++ rest)
    else ([], [], [], rest)
  let fragment := rest.dropWhile (· != '#')
  let rest := rest.takeWhile (· != '#')
  ⟨scheme, slashes, user, host, port, rest.takeWhile (· != '?'), rest.dropWhile (· != '?'),
    fragment⟩

/-- The written address. -/
def format (u : Url) : List Char :=
  u.scheme ++ (if u.slashes then ['/', '/'] else []) ++
    (if u.user.isEmpty then [] else u.user ++ ['@']) ++
    (if u.host.contains ':' then '[' :: u.host ++ [']'] else u.host) ++
    (if u.port.isEmpty then [] else ':' :: u.port) ++ u.path ++ u.query ++ u.fragment

/-- Schemes under which the host is a name of the domain system. -/
def hasDomainName (u : Url) : Bool :=
  u.scheme.isEmpty || ["http:", "https:", "mailto:"].any (·.toList == u.scheme)

/-- The dots of every script that separate labels. -/
def isLabelDot (c : Char) : Bool :=
  c == '.' || c == '\u3002' || c == '\uFF0E' || c == '\uFF61'

/-- The labels of a host. -/
def labels : List Char → List (List Char)
  | [] => [[]]
  | c :: rest =>
    if isLabelDot c then [] :: labels rest
    else match labels rest with
      | [] => [[c]]
      | label :: more => (c :: label) :: more

/-- A host with its labels in ASCII. -/
def asciiHost (host : List Char) : List Char :=
  Text.joinWith '.' <| (labels host).map fun label =>
    if label.all (·.toNat < 0x7F) then label else "xn--".toList ++ Punycode.encode label

/-- A host with its labels decoded, unless one of them cannot be. -/
def readableHost (host : List Char) : List Char :=
  let decoded := (labels host).mapM fun label =>
    if startsWith "xn--".toList label then
      Punycode.decode? ((label.drop 4).map Char.toLower)
    else some label
  match decoded with
  | some labels => Text.joinWith '.' labels
  | none => host

/-- Characters that stay as they are in a kept destination. -/
def isKept (c : Char) : Bool :=
  c.isAlphanum || ";/?:@&=+$,-_.!~*'()#".toList.contains c

/-- The form in which a destination is kept. -/
def normalize (cs : List Char) : List Char :=
  let u := parse cs
  let u := if u.hasDomainName then { u with host := asciiHost u.host } else u
  encodePercent isKept u.format

/-- Escaped characters that would change their meaning without the escape. -/
def isReserved (c : Char) : Bool := ";/?:@&=+$,#%".toList.contains c

/-- The character of a sequence of escaped bytes of one shape, and the number of bytes. -/
def shownSequence (bytes : List UInt8) : List Char × Nat :=
  let replaced := fun n => (List.replicate n '\uFFFD', n)
  let decoded := fun n => match Text.decodeUtf8 (bytes.take n) with
    | .ok cs => (cs, n)
    | .error _ => replaced n
  let continues := fun n => ((bytes.drop 1).take n).length == n &&
    ((bytes.drop 1).take n).all fun b => 0x80 ≤ b && b ≤ 0xBF
  match bytes with
  | [] => ([], 0)
  | b :: _ =>
    if b < 0x80 then
      let c := Char.ofNat b.toNat
      (if isReserved c then percentByte b else [c], 1)
    else if 0xC0 ≤ b && b < 0xE0 && continues 1 then decoded 2
    else if 0xE0 ≤ b && b < 0xF0 && continues 2 then decoded 3
    else if 0xF0 ≤ b && b < 0xF8 && continues 3 then decoded 4
    else replaced 1

/-- The shown form of escaped bytes. -/
def shownBytes : (fuel : Nat) → List UInt8 → List Char
  | 0, _ => []
  | _ + 1, [] => []
  | fuel + 1, bytes =>
    let (cs, n) := shownSequence bytes
    cs ++ shownBytes fuel (bytes.drop n)

/-- Decodes the escapes of an address for display. -/
def shown : (fuel : Nat) → List Char → List Char
  | 0, cs => cs
  | _ + 1, [] => []
  | fuel + 1, c :: rest =>
    match escapedBytes (c :: rest) with
    | ([], _) => c :: shown fuel rest
    | (bytes, rest) => shownBytes bytes.length bytes ++ shown fuel rest

/-- The form in which a destination is shown. -/
def display (cs : List Char) : List Char :=
  let u := parse cs
  let u := if u.hasDomainName then { u with host := readableHost u.host } else u
  let written := u.format
  shown written.length written

/-- Destinations that run or embed code are refused, pictures in common formats excepted. -/
def isAllowed (cs : List Char) : Bool :=
  let cs := Text.lowerChars (trim cs)
  let refused := ["vbscript:", "javascript:", "file:", "data:"].any (startsWith ·.toList cs)
  let picture := ["gif;", "png;", "jpeg;", "webp;"].any fun kind =>
    startsWith ("data:image/" ++ kind).toList cs
  !refused || picture

end Url

end Continuity.Web
