import Continuity.Config.Basic
import Continuity.Data.Json.Reader
import Continuity.Data.JsonValue
import Continuity.Data.Merge
import Continuity.Files.Glob
import Continuity.Text.Utf8
import Continuity.Yaml.Reader

/-! # Configuration files

A configuration file has one of three names and lies in the directory where the search begins, or in
the nearest directory above that has one. What the command line asks for goes over what the file
says. A relative root is taken from the directory of the file.
-/

namespace Continuity

open Files (PathFault asking)

/-- Why there is no configuration. -/
inductive ConfigFault where
  | unreadable (fault : PathFault)
  | notFound (path : Path)
  | unsupported (path : Path)
  | json (path : Path) (text : List Char) (error : Json.ReadError)
  | yaml (path : Path) (fault : Yaml.Fault)
  | notMapping (path : Path)
  | invalid (source : Option Path) (problems : List Schema.Problem)
  | sectionNotMapping (name : String)
  | rootNotDirectory (root : Path)
  /-- The bytes of the file are no text. -/
  | encoding (error : Text.Utf8Error)
  /-- A scalar in the file cannot be used. -/
  | scalar (fault : Yaml.ScalarFault)
  /-- A path cannot be examined. -/
  | inaccessible (fault : PathFault)
  /-- A character of the root can be in no path. -/
  | nullCharacter
  deriving Repr

namespace ConfigFault

/-- The wording of a fault. -/
def message : ConfigFault → String
  | .unreadable fault =>
    "Cannot read config file " ++ fault.path.toString ++ ": " ++ fault.message
  | .notFound path => "Config path not found: " ++ path.toString
  | .unsupported path => "Unsupported config file format: " ++ path.toString
  | .json path text error => "Invalid JSON in " ++ path.toString ++ ": " ++ error.message text
  | .yaml path fault => "Invalid YAML in " ++ path.toString ++ ": " ++ fault.message
  | .notMapping path => "Config file " ++ path.toString ++ " must contain a mapping"
  | .invalid source problems =>
    "Invalid configuration" ++ source.elim "" (" in " ++ ·.toString) ++ ": " ++
      Schema.summary "LinterConfig" problems
  | .sectionNotMapping name => "Config section '" ++ name ++ "' must be a mapping"
  | .rootNotDirectory root => "Project root is not a directory: " ++ root.toString
  | .encoding error => error.message
  | .scalar fault => fault.message
  | .inaccessible fault => fault.message
  | .nullCharacter => "embedded null byte"

/-- A fault as it is made known. -/
def toFailure (f : ConfigFault) : Failure :=
  match f with
  | .invalid _ problems => .configuration f.message problems
  | .encoding _ => .unforeseen "UnicodeDecodeError" f.message
  | .scalar fault => .unforeseen fault.sort f.message
  | .inaccessible _ => .unforeseen "OSError" f.message
  | .nullCharacter => .unforeseen "ValueError" f.message
  | _ => .configuration f.message []

end ConfigFault

namespace Config

/-- The names of configuration files, the preferred one first. -/
def fileNames : List String := [".story-linter.yml", ".story-linter.yaml", ".story-linter.json"]

/-- The first of some paths that is a file. -/
def firstFile (t : FileTree) : List Path → Except PathFault (Option Path)
  | [] => .ok none
  | path :: rest => do
    if ← asking path (t.isFile path) then return some path else firstFile t rest

/-- The configuration file that holds for an absolute directory. -/
def findFile (t : FileTree) (start : Path) : Except PathFault (Option Path) :=
  firstFile t <| (start :: start.parents).flatMap fun directory =>
    fileNames.map fun name => directory ++ ⟨.relative, [name]⟩

/-- The value in a file with JSON; an empty file stands for an empty mapping. -/
def readJson (path : Path) (text : List Char) : Except ConfigFault Value :=
  if (Text.trim text).isEmpty then .ok (.map [])
  else match Json.read text with
    | .ok j => .ok (.ofJson j)
    | .error e => .error (.json path text e)

/-- The value in a file with YAML. -/
def readYaml (path : Path) (text : List Char) : Except ConfigFault Value :=
  match Yaml.read text with
  | .ok v => .ok v
  | .error (.malformed fault _) => .error (.yaml path fault)
  | .error (.scalar fault) => .error (.scalar fault)

/-- The entries of a configuration file. -/
def entriesOfFile (t : FileTree) (path : Path) : Except ConfigFault (List (Value × Value)) := do
  let bytes ← (asking path (t.read path)).mapError .unreadable
  let text ← (Text.decodeUtf8 bytes).mapError .encoding
  let text := Text.unifyNewlines text
  let v ←
    if path.suffix == ".json" then readJson path text
    else if path.suffix == ".yml" || path.suffix == ".yaml" then readYaml path text
    else throw (.unsupported path)
  match v with
  | .null => return []
  | .map entries => return entries
  | _ => throw (.notMapping path)

/-- The configuration file to use: the one that a path names or holds, when one stands `here`, or
else the one that holds for the directory where the search begins. -/
def sourceFile (t : FileTree) (here start : Path) (path : Option Path) :
    Except ConfigFault (Option Path) := do
  match path with
  | none => (findFile t start).mapError .inaccessible
  | some path =>
    if ← (asking path (t.isDirectory (here ++ path))).mapError .inaccessible then
      (findFile t (Path.resolve here path)).mapError .inaccessible
    else if ← (asking path (t.isFile (here ++ path))).mapError .inaccessible then
      return some (Path.resolve here path)
    else throw (.notFound path)

/-- The root of a project, as an absolute directory. -/
def resolveRoot (t : FileTree) (base root : Path) : Except ConfigFault Path := do
  if root.parts.any fun name => name.toList.contains '\x00' then throw .nullCharacter
  let root := Path.resolve base root
  if ← (asking root (t.isDirectory root)).mapError .inaccessible then return root
  else throw (.rootNotDirectory root)

/-- The configuration with the root of its project, which is taken from `base`. -/
def rooted (c : Config) (t : FileTree) (base : Path) : Except ConfigFault Config := do
  if let some name := c.badSection? then throw (.sectionNotMapping name)
  let root ← resolveRoot t base c.project.root
  return { c with project := { c.project with root } }

/-- The configuration that some entries give, which come from a file or from nowhere. -/
def ofEntries (t : FileTree) (base : Path) (source : Option Path) (entries : List (Value × Value)) :
    Except ConfigFault Config :=
  match read (.map entries) with
  | .ok config => config.rooted t base
  | .bad problems => .error (.invalid source problems)

/-- The configuration when one stands `here`, where the search for a file begins at `start` unless a
path is given, and where some entries go over those of the file. -/
def load (t : FileTree) (here start : Path) (path : Option Path)
    (overrides : List (Value × Value)) : Except ConfigFault Config := do
  let source ← sourceFile t here start path
  let entries ← match source with
    | some file => entriesOfFile t file
    | none => pure []
  ofEntries t (source.elim start Path.parent) source (Value.mergeEntries entries overrides)

end Config

end Continuity
