import Continuity.CommandLine.Response
import Std.Time.DateTime.Timestamp

/-! # The program

The outer layer: it looks at the files and the clock, leaves the answer to the library, and writes
it. Of most files it is enough to know their names; those that are read are the configuration files
and the files that the request is about.
-/

namespace Continuity.Program

open CommandLine

/-- What a computation gives, or something else where it fails. -/
def orElse {α : Type} (absent : α) (action : IO α) : IO α :=
  try action catch _ => pure absent

/-- The names of what lies at a path. Directories behind links are not entered. -/
partial def listing (name : String) : IO FileTree := do
  let place ← IO.FS.realPath name
  if ← place.isDir then
    let entries ← (← place.readDir).toList.mapM fun entry => do
      let isLink := (← entry.path.symlinkMetadata).type matches .symlink
      if isLink then
        let below := if ← entry.path.isDir then FileTree.directory [] else .file []
        return (entry.fileName, below)
      else return (entry.fileName, ← orElse (.file []) (listing entry.path.toString))
    return .directory entries
  else return .file []

/-- The tree with what lies at a path, if anything does. -/
def addListing (t : FileTree) (path : Path) : IO FileTree :=
  orElse t do return t.put (← listing path.toString) path.parts

/-- The tree with the content of a file, if there is one. -/
def addContent (t : FileTree) (path : Path) : IO FileTree :=
  orElse t do
    let content ← IO.FS.readBinFile path.toString
    return t.put (.file content.toList) path.parts

/-- The places that a request names. -/
def placesOf (here : Path) (r : Request) : List Path :=
  (r.targets ++ r.root.toList ++ r.config.toList).map fun name =>
    Path.resolve here (.ofString name)

/-- The paths where configuration files may lie that hold for some places. -/
def configPaths (places : List Path) : List Path :=
  places.flatMap fun place =>
    place :: (place :: place.parents).flatMap fun directory =>
      Config.fileNames.map fun name => directory ++ ⟨.relative, [name]⟩

/-- The tree with the content of the configuration files that may hold for some places. -/
def addConfigs (t : FileTree) (places : List Path) : IO FileTree :=
  (configPaths places).foldlM (fun t path => do
    if (t.isFile path).toOption == some true || (path.name ∈ Config.fileNames) then
      addContent t path
    else return t) t

/-- The tree with the root that a configuration names, unless it lies in one of some places. -/
def addRoot (s : Surroundings) (r : Request) (places : List Path) : IO FileTree := do
  match r.loadConfig s with
  | .ok config =>
    let root := config.project.root
    if places.any fun place => (root.relativeTo? place).isSome then return s.tree
    else addListing s.tree root
  | .error (.rootNotDirectory root) => addListing s.tree root
  | .error _ => return s.tree

/-- The tree with the content of the files that a request is about. -/
def addTargets (s : Surroundings) (r : Request) : IO FileTree :=
  match r.loadConfig s with
  | .error _ => pure s.tree
  | .ok config =>
    match r.files s config with
    | .error _ => pure s.tree
    | .ok files => files.foldlM addContent s.tree

/-- What a request needs to know about the files. -/
def lookAround (s : Surroundings) (r : Request) : IO Surroundings := do
  let places := s.here :: placesOf s.here r
  let tree ← places.foldlM addListing s.tree
  let tree ← addConfigs tree places
  let tree ← addRoot { s with tree } r places
  let tree ← addConfigs tree places
  let tree ← addTargets { s with tree } r
  return { s with tree }

/-- The moment of the clock. -/
def now : IO Moment := do
  let stamp ← Std.Time.Timestamp.now
  return (Moment.ofEpoch stamp.toSecondsSinceUnixEpoch.toInt.toNat).toOption.getD default

/-- Writes an answer; the result is the status with which the program ends. -/
def write (r : Response) : IO UInt32 := do
  let output ← IO.getStdout
  let messages ← IO.getStderr
  messages.putStr (r.messages (← messages.isTty))
  output.putStr (r.output (← output.isTty))
  if let .broken f := r.ending then messages.putStrLn (f.kind ++ ": " ++ f.message)
  return r.status.toUInt32

/-- Runs a command. -/
def run (command : Command) : IO UInt32 := do
  let here := Path.ofString (← IO.currentDir).toString
  let epoch := (← IO.getEnv "SOURCE_DATE_EPOCH").getD ""
  let s : Surroundings := { here, tree := .directory [], epoch, now := ← now }
  match command with
  | .validate request => write (command.respond (← lookAround s request))
  | _ => write (command.respond s)

end Continuity.Program

/-- Runs the program with the arguments of the command line. -/
def main (arguments : List String) : IO UInt32 := do
  match Continuity.CommandLine.Command.read arguments with
  | .ok command => Continuity.Program.run command
  | .error fault =>
    (← IO.getStderr).putStrLn (fault.message ++ "\n" ++ Continuity.CommandLine.helpText)
    return 2
