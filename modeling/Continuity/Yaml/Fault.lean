import Continuity.Calendar
import Continuity.Data.Value

/-! # What is wrong with YAML

Two classes of faults. A malformed text breaks the rules of the language, and mostly the line is
known. An unusable scalar is well written, but its content is not of the kind that it claims.
-/

namespace Continuity.Yaml

/-- What a node is made of. -/
inductive Shape where
  | scalar
  | sequence
  | mapping
  deriving Repr, DecidableEq, Inhabited

/-- The name of a shape. -/
def Shape.name : Shape → String
  | .scalar => "scalar"
  | .sequence => "sequence"
  | .mapping => "mapping"

/-- Where tags are written: at a node, or in a directive that abbreviates them. -/
inductive TagPlace where
  | tag
  | directive
  deriving Repr, DecidableEq, Inhabited

/-- The name of a place of tags. -/
def TagPlace.name : TagPlace → String
  | .tag => "tag"
  | .directive => "directive"

/-- A breach of the rules of the language. -/
inductive Fault where
  | unprintable (c : Char)
  | directive
  | anchor
  | alias
  | tag
  | tagPart (place : TagPlace)
  | tagContent (place : TagPlace)
  | blockScalar
  | looseBlockScalar
  | doubleQuoted
  | quoted
  | token
  | simpleKey
  | sequenceHere
  | keyHere
  | valueHere
  | documentStart (found : String)
  | secondVersion
  | foreignVersion
  | secondHandle (handle : String)
  | node
  | blockNode
  | flowNode
  | blockCollection
  | blockMapping
  | flowSequence
  | flowMapping
  | unknownAlias (name : String)
  | secondDocument
  | mappingEntry
  | orderedMapping
  | pairs
  | unknownTag (name : String)
  | expected (wanted found : Shape)
  | timestamp (text : String)
  | base64Text
  | base64Padding
  | base64Length (digits : Nat)
  deriving Repr, DecidableEq, Inhabited

/-- A scalar whose content is not of its kind. -/
inductive ScalarFault where
  | whole (base : Nat) (text : String)
  | number (text : String)
  | noDigits
  | truth (text : String)
  | calendar (fault : CalendarFault)
  /-- A key that cannot be looked up, because it holds something of this kind. -/
  | key (kind : String)
  | codePoint
  /-- A version of the language whose scalars are not known. -/
  | version (major minor : Nat)
  deriving Repr, DecidableEq

/-- Why a text gives no value. -/
inductive Failure where
  /-- The line counts from zero. -/
  | malformed (fault : Fault) (line : Option Nat)
  | scalar (fault : ScalarFault)
  deriving Repr, DecidableEq

/-- The wording of a fault, the first line of it where there are several. -/
def Fault.message : Fault → String
  | .unprintable c =>
    let digits := Text.hexDigits c.toNat (if c.toNat < 0x10000 then 4 else 6)
    "unacceptable character #x" ++ String.ofList digits ++ ": special characters are not allowed"
  | .directive => "while scanning a directive"
  | .anchor => "while scanning an anchor"
  | .alias => "while scanning an alias"
  | .tag => "while scanning a tag"
  | .tagPart place => "while scanning an " ++ place.name
  | .tagContent place => "while parsing an " ++ place.name
  | .blockScalar => "while scanning a block scalar"
  | .looseBlockScalar => "more indented follow up line than first in a block scalar"
  | .doubleQuoted => "while scanning a double-quoted scalar"
  | .quoted => "while scanning a quoted scalar"
  | .token => "while scanning for the next token"
  | .simpleKey => "while scanning a simple key"
  | .sequenceHere => "sequence entries are not allowed here"
  | .keyHere => "mapping keys are not allowed here"
  | .valueHere => "mapping values are not allowed here"
  | .documentStart found =>
    "expected '<document start>', but found (" ++ Text.quoted found ++ ",)"
  | .secondVersion => "found duplicate YAML directive"
  | .foreignVersion => "found incompatible YAML document (version 1.* is required)"
  | .secondHandle handle => "duplicate tag handle " ++ Text.quoted handle
  | .node => "while parsing a node"
  | .blockNode => "while parsing a block node"
  | .flowNode => "while parsing a flow node"
  | .blockCollection => "while parsing a block collection"
  | .blockMapping => "while parsing a block mapping"
  | .flowSequence => "while parsing a flow sequence"
  | .flowMapping => "while parsing a flow mapping"
  | .unknownAlias name => "found undefined alias " ++ Text.quoted name
  | .secondDocument => "expected a single document in the stream"
  | .mappingEntry => "while constructing a mapping"
  | .orderedMapping => "while constructing an ordered map"
  | .pairs => "while constructing pairs"
  | .unknownTag name => "could not determine a constructor for the tag " ++ Text.quoted name
  | .expected wanted found =>
    "expected a " ++ wanted.name ++ " node, but found " ++ found.name
  | .timestamp text => "failed to construct timestamp from \"" ++ text ++ "\""
  | .base64Text => "failed to convert base64 data into ascii"
  | .base64Padding => "failed to decode base64 data: Incorrect padding"
  | .base64Length digits =>
    "failed to decode base64 data: Invalid base64-encoded string: number of data characters (" ++
      toString digits ++ ") cannot be 1 more than a multiple of 4"

/-- The sort of failure that an unusable scalar is. -/
def ScalarFault.sort : ScalarFault → String
  | .truth _ | .version .. => "KeyError"
  | .key _ => "TypeError"
  | .noDigits => "IndexError"
  | _ => "ValueError"

/-- The wording of an unusable scalar. -/
def ScalarFault.message : ScalarFault → String
  | .whole base text =>
    "invalid literal for int() with base " ++ toString base ++ ": " ++ Text.quoted text
  | .number text => "could not convert string to float: " ++ Text.quoted text
  | .noDigits => "string index out of range"
  | .truth text => Text.quoted text
  | .calendar fault => fault.message
  | .key kind => "unhashable type: '" ++ kind ++ "'"
  | .codePoint => "chr() arg not in range(0x110000)"
  | .version major minor => "(" ++ toString major ++ ", " ++ toString minor ++ ")"

end Continuity.Yaml
