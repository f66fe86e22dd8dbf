import Continuity.Document.Basic
import Continuity.Document.FrontMatter
import Continuity.Failure
import Continuity.Files.Tree
import Continuity.Markdown.Placement
import Continuity.Text.Utf8
import Continuity.Yaml.Reader

/-! # Reading documents

A file becomes a document by decoding, taking off the front matter, and reading the rest as
Markdown. Front matter that cannot be used is reported and otherwise ignored. For the reading of
the rest it is blanked out, so that places in the tree are places in the file.
-/

namespace Continuity.Document

/-- Why a file is no document. -/
inductive LoadFault where
  | unreadable (fault : FileFault)
  /-- The bytes from `offset` on, on a line, are no text. -/
  | encoding (offset line : Nat)
  /-- A scalar of the front matter cannot be used. -/
  | scalar (fault : Yaml.ScalarFault)
  deriving Repr, DecidableEq

/-- The kind of a fault under which it is reported; faults of scalars have none. -/
def LoadFault.kind? : LoadFault → Option String
  | .unreadable _ => some "read-error"
  | .encoding .. => some "encoding-error"
  | .scalar _ => none

/-- The sort of failure that a fault is. -/
def LoadFault.sort : LoadFault → String
  | .unreadable _ => "FileReadError"
  | .encoding .. => "EncodingError"
  | .scalar fault => fault.sort

/-- The wording of a fault. -/
def LoadFault.message : LoadFault → String
  | .unreadable fault => "Cannot read file: " ++ fault.reason
  | .encoding offset _ =>
    "File is not valid UTF-8 (byte offset " ++ toString offset ++ ")"
  | .scalar fault => fault.message

/-- The line of a fault, where one is known. -/
def LoadFault.line? : LoadFault → Option Nat
  | .encoding _ line => some line
  | _ => none

/-- The issue that a fault of the file with a name becomes; faults of scalars become none. -/
def LoadFault.issue? (name : String) (f : LoadFault) : Option Issue :=
  f.kind?.map fun kind => .ofEngine kind f.message .error (some name) (f.line?.map Int.ofNat)

/-- A fault as it is made known. -/
def LoadFault.toFailure (f : LoadFault) : Failure :=
  match f.kind? with
  | some kind => { kind, message := f.message, foreseen := true }
  | none => .unforeseen f.sort f.message

/-- The text without the mark of its byte order. -/
def withoutOrderMark : List Char → List Char
  | '\uFEFF' :: rest => rest
  | cs => cs

/-- The text that bytes encode, with line ends unified. -/
def decode (bytes : List UInt8) : Except LoadFault (List Char) :=
  match Text.decodeUtf8 bytes with
  | .ok cs => .ok (Text.unifyNewlines (withoutOrderMark cs))
  | .error e =>
    .error (.encoding e.position ((bytes.take e.position).count 0x0A + 1))

/-- An issue of the front matter. -/
def frontMatterIssue (name message : String) (line : Option Int) : Issue :=
  .ofEngine "front-matter-error" message .warning (some name) line

/-- The entries that front matter gives, and what is wrong with it. -/
def readFrontMatter (session : Yaml.Session) (name : String) (raw : List Char) :
    Except LoadFault (List (Value × Value) × List Issue) × Yaml.Session :=
  let (result, session) := Yaml.readAfter session raw
  let outcome := match result with
    | .ok .null => .ok ([], [])
    | .ok (.map entries) => .ok (entries, [])
    | .ok _ => .ok ([], [frontMatterIssue name "Front matter must be a mapping" (some 1)])
    | .error (.malformed fault line) =>
      let message := "Malformed YAML front matter: " ++
        String.ofList (Text.firstLine fault.message.toList)
      .ok ([], [frontMatterIssue name message (line.map fun l => (l : Int) + 2)])
    | .error (.scalar fault) => .error (.scalar fault)
  (outcome, session)

/-- The text with what precedes an offset blanked out, line feeds apart. -/
def blankUpTo (offset : Nat) (content : List Char) : List Char :=
  (content.take offset).map (fun c => if c == '\n' then c else ' ') ++ content.drop offset

/-- The document with a content. -/
def ofContent (session : Yaml.Session) (path : Path) (name : String) (content : List Char) :
    Except LoadFault Document × Yaml.Session :=
  let (raw, start) := splitFrontMatter content
  let (matter, session) := match raw with
    | some raw => readFrontMatter session name raw
    | none => (.ok ([], []), session)
  let index := Text.LineIndex.ofText content
  let document := matter.map fun (frontMatter, issues) =>
    let root := Markdown.parseWith (blankUpTo start content) index
    { path, name, content, root, frontMatter, index, issues }
  (document, session)

/-- The document in the file at an absolute path. -/
def read (tree : FileTree) (root : Path) (session : Yaml.Session) (path : Path) :
    Except LoadFault Document × Yaml.Session :=
  match tree.read path with
  | .error e => (.error (.unreadable e), session)
  | .ok bytes =>
    match decode bytes with
    | .error e => (.error e, session)
    | .ok content => ofContent session path (path.within root) content

end Continuity.Document
