import Continuity.CommandLine.Request
import Continuity.Config.File
import Continuity.Report.Meta
import Continuity.Run.Standard
import Continuity.Text.Ansi

/-! # How the program answers

The configuration is loaded, the files are found, the standard validators run, and the report is
written. A failure that the program foresees is told in words, and as a JSON document where reports
are written as such; any other breaks the program off.
-/

namespace Continuity.CommandLine

/-- What the program finds around it. -/
structure Surroundings where
  /-- The directory where one stands. -/
  here : Path
  tree : FileTree
  /-- The setting that fixes the date of reports. -/
  epoch : String
  now : Moment

/-- How the program ends. -/
inductive Ending where
  | answered (text : String) (status : Nat)
  /-- A foreseen failure, while reports are to be written in a form. -/
  | refused (failure : Failure) (format : ReportFormat)
  | broken (failure : Failure)

/-- The program's answer: what it tells of its progress, and how it ends. -/
structure Response where
  progress : List String := []
  ending : Ending

/-- What is told of an event. -/
def progressLine? : Event → Option String
  | .runStart count => some ("Validating " ++ toString count ++ " file(s)...")
  | .runPhase phase _ => some ("  " ++ phase ++ " finished")
  | .error context kind _ => some ("  " ++ kind ++ ": " ++ context)
  | _ => none

/-- A section with some settings, if there are any. -/
def sectionOf (name : String) (settings : List (Value × Value)) : List (Value × Value) :=
  if settings.isEmpty then [] else [(.text name, .map settings)]

/-- The severity from which a run is to fail. -/
def Request.validationSettings (r : Request) : List (Value × Value) :=
  (r.failOn.map fun f => (Value.text "failOn", Value.text f.name)).toList

/-- How the output is to be written. -/
def Request.outputSettings (r : Request) : List (Value × Value) :=
  let format := r.format.map fun f => (Value.text "format", Value.text f.name)
  let color := if r.noColor then some (Value.text "color", Value.bool false) else none
  format.toList ++ color.toList

/-- Where the project is to lie. -/
def Request.projectSettings (here : Path) (r : Request) : List (Value × Value) :=
  let root := r.root.map fun root => (Path.resolve here (.ofString root)).toString
  (root.map fun root => (Value.text "root", Value.text root)).toList

/-- The entries of a configuration for which the command line asks. -/
def Request.overrides (here : Path) (r : Request) : List (Value × Value) :=
  sectionOf "validation" r.validationSettings ++ sectionOf "output" r.outputSettings ++
    sectionOf "project" (r.projectSettings here)

/-- The configuration for a request. -/
def Request.loadConfig (r : Request) (s : Surroundings) : Except ConfigFault Config :=
  Config.load s.tree s.here (Path.resolve s.here (.ofString (r.root.getD "")))
    (r.config.map .ofString) (r.overrides s.here)

/-- The files that a request is about. -/
def Request.files (r : Request) (s : Surroundings) (c : Config) :
    Except Files.DiscoveryFault (List Path) :=
  Files.resolveTargets s.tree s.here c.project.root c.project.files (r.targets.map .ofString)

/-- How the program ends with a failure. -/
def Ending.ofFailure (format : ReportFormat) (f : Failure) : Ending :=
  if f.foreseen then .refused f format else .broken f

/-- How the program ends with a report. -/
def Ending.ofReport (s : Surroundings) (output : OutputSettings) (report : Report) : Ending :=
  match ReportMeta.make s.epoch s.now with
  | .error fault => .broken fault.toFailure
  | .ok about =>
    .answered (output.format.render output.color { report with about := some about })
      report.exitCode

/-- The answer to a request for validation. -/
def Request.respond (r : Request) (s : Surroundings) : Response :=
  match r.loadConfig s with
  | .error fault => ⟨[], .ofFailure (r.format.getD .text) fault.toFailure⟩
  | .ok config =>
    match r.files s config with
    | .error fault => ⟨[], .ofFailure config.output.format fault.toFailure⟩
    | .ok files =>
      let outcome := Run.execute
        { config, files, tree := s.tree, validators := Run.standardValidators } false
      let progress :=
        if r.quiet then [] else outcome.progress.desk.events.filterMap progressLine?
      match outcome.result with
      | .error fault => ⟨progress, .ofFailure config.output.format fault.toFailure⟩
      | .ok report => ⟨progress, .ofReport s config.output report⟩

/-- How to use the program. -/
def helpText : String := "Usage: story-linter COMMAND

  Consistency checks for Markdown narratives.

Commands:
  validate [OPTIONS] [FILES]...  Validate a Markdown project and report issues.
  version                        Print the version.

Options of validate:
  -c, --config PATH                Config file or directory.
  -f, --format [text|json|html]
  -q, --quiet                      Suppress progress output.
  --no-color
  --fail-on [error|warning|none]
  --root PATH                      Project root directory.
  -v, --verbose"

/-- The answer to a command. -/
def Command.respond (s : Surroundings) : Command → Response
  | .validate request => request.respond s
  | .version => ⟨[], .answered ("story-linter " ++ programVersion) 0⟩
  | .help => ⟨[], .answered helpText 0⟩

namespace Response

/-- A text as it is written, on a line of its own: without control sequences, unless it goes to a
terminal. -/
def written (isTerminal : Bool) (text : String) : String :=
  (if isTerminal then text else String.ofList (Text.withoutSequences text.toList)) ++ "\n"

/-- What is written as the answer. -/
def output (r : Response) (isTerminal : Bool) : String :=
  match r.ending with
  | .answered text _ => written isTerminal text
  | _ => ""

/-- What is told of a failure. -/
def refusal (f : Failure) (format : ReportFormat) : List String :=
  let told := [("kind", Json.text f.kind), ("message", Json.text f.message)]
  let document := Json.object [("error", .object told)]
  ("story-linter: " ++ f.kind ++ ": " ++ f.message) ::
    if format == .json then [document.oneLine Decimal.text] else []

/-- What is written beside the answer. -/
def messages (r : Response) (isTerminal : Bool) : String :=
  let told := match r.ending with
    | .refused f format => refusal f format
    | _ => []
  String.join ((r.progress ++ told).map (written isTerminal))

/-- The status with which the program ends. -/
def status (r : Response) : Nat :=
  match r.ending with
  | .answered _ status => status
  | .refused .. => 2
  | .broken _ => 1

end Response

end Continuity.CommandLine
