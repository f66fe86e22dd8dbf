import Continuity.Issue.Basic
import Continuity.Report.Format

/-! # What the command line asks for

A command line names a command. The command that validates takes settings and files, in any order;
two strokes end the settings. A setting has a long name, and some have a letter; letters may stand
together, and a value may follow its setting's letter, or its long name after an equals sign.
-/

namespace Continuity.CommandLine

/-- Why a command line cannot be used. -/
inductive UsageFault where
  | noCommand
  | unknownCommand (name : String)
  | unknownSetting (name : String)
  | missingValue (name : String)
  | unwantedValue (name : String)
  | badChoice (name value : String)
  | unexpectedArgument (argument : String)
  deriving Repr, DecidableEq

/-- The wording of a fault. -/
def UsageFault.message : UsageFault → String
  | .noCommand => "Missing command."
  | .unknownCommand name => "No such command '" ++ name ++ "'."
  | .unknownSetting name => "No such option: " ++ name
  | .missingValue name => "Option '" ++ name ++ "' requires an argument."
  | .unwantedValue name => "Option '" ++ name ++ "' does not take a value."
  | .badChoice name value => "Invalid value for '" ++ name ++ "': '" ++ value ++ "'."
  | .unexpectedArgument argument => "Got unexpected extra argument (" ++ argument ++ ")"

/-- What is to be validated, and how. -/
structure Request where
  targets : List String := []
  /-- A configuration file, or a directory where the search for one begins. -/
  config : Option String := none
  format : Option ReportFormat := none
  failOn : Option FailOn := none
  /-- The directory of the project. -/
  root : Option String := none
  /-- Progress is not told. -/
  quiet : Bool := false
  noColor : Bool := false
  deriving Repr, DecidableEq, Inhabited

/-- A command. -/
inductive Command where
  | validate (request : Request)
  | version
  | help
  deriving Repr, DecidableEq, Inhabited

/-- The settings of the command that validates. -/
inductive Setting where
  | config
  | format
  | failOn
  | root
  | quiet
  | noColor
  | verbose
  | help
  deriving Repr, DecidableEq, Inhabited

namespace Setting

/-- The settings by their long names. -/
def named : List (String × Setting) := [
  ("--config", .config), ("--format", .format), ("--fail-on", .failOn), ("--root", .root),
  ("--quiet", .quiet), ("--no-color", .noColor), ("--verbose", .verbose), ("--help", .help)]

/-- The settings by their letters. -/
def lettered : List (Char × Setting) := [
  ('c', .config), ('f', .format), ('q', .quiet), ('v', .verbose)]

/-- The setting takes a value. -/
def takesValue : Setting → Bool
  | .config | .format | .failOn | .root => true
  | .quiet | .noColor | .verbose | .help => false

end Setting

/-- A setting with its value; one that takes none has an empty one. -/
abbrev Given := Setting × String

/-- What an argument gives: settings, and maybe one whose value is still to follow. -/
structure Found where
  given : List Given
  unfinished : Option Setting := none

/-- The argument is one or more settings. -/
def isSetting (argument : String) : Bool :=
  argument.toList.head? == some '-' && argument != "-"

/-- The settings whose letters stand together. -/
def readLetters : List Char → Except UsageFault Found
  | [] => .ok ⟨[], none⟩
  | c :: rest =>
    match Setting.lettered.lookup c with
    | none => .error (.unknownSetting (String.ofList ['-', c]))
    | some setting =>
      if setting.takesValue then
        if rest.isEmpty then .ok ⟨[], some setting⟩
        else .ok ⟨[(setting, String.ofList rest)], none⟩
      else do
        let found ← readLetters rest
        return { found with given := (setting, "") :: found.given }

/-- The setting with a long name, and maybe a value after an equals sign. -/
def readLong (setting : Setting) (name : String) : Option String → Except UsageFault Found
  | some value =>
    if setting.takesValue then .ok ⟨[(setting, value)], none⟩ else .error (.unwantedValue name)
  | none =>
    if setting.takesValue then .ok ⟨[], some setting⟩ else .ok ⟨[(setting, "")], none⟩

/-- What stands before the first equals sign, and what stands after it. -/
def splitValue (argument : String) : String × Option String :=
  let cs := argument.toList
  match cs.dropWhile (· != '=') with
  | [] => (argument, none)
  | _ :: value => (String.ofList (cs.takeWhile (· != '=')), some (String.ofList value))

/-- The settings that an argument gives. -/
def readSetting (argument : String) : Except UsageFault Found :=
  let (name, value) := splitValue argument
  match Setting.named.lookup name with
  | some setting => readLong setting name value
  | none =>
    if "--".toList.isPrefixOf argument.toList then .error (.unknownSetting name)
    else readLetters (argument.toList.drop 1)

/-- The settings and the other arguments, each in their order. -/
def readArguments : List String → Except UsageFault (List Given × List String)
  | [] => .ok ([], [])
  | argument :: rest =>
    if argument == "--" then .ok ([], rest)
    else if !isSetting argument then do
      let (given, others) ← readArguments rest
      return (given, argument :: others)
    else do
      let found ← readSetting argument
      match found.unfinished, rest with
      | none, rest =>
        let (given, others) ← readArguments rest
        return (found.given ++ given, others)
      | some setting, value :: rest =>
        let (given, others) ← readArguments rest
        return (found.given ++ (setting, value) :: given, others)
      | some _, [] => throw (.missingValue argument)

/-- One of some choices by its name. -/
def choose {α : Type} (choices : List (String × α)) (name value : String) :
    Except UsageFault (Option α) :=
  match choices.lookup value with
  | some a => .ok (some a)
  | none => .error (.badChoice name value)

/-- The request with one more setting; a later one counts. -/
def Request.apply (r : Request) : Given → Except UsageFault Request
  | (.config, value) => .ok { r with config := some value }
  | (.format, value) => do
    return { r with format := ← choose ReportFormat.choices "--format" value }
  | (.failOn, value) => do
    return { r with failOn := ← choose FailOn.choices "--fail-on" value }
  | (.root, value) => .ok { r with root := some value }
  | (.quiet, _) => .ok { r with quiet := true }
  | (.noColor, _) => .ok { r with noColor := true }
  | (.verbose, _) | (.help, _) => .ok r

namespace Command

/-- The arguments of the command that validates. -/
def readValidate (arguments : List String) : Except UsageFault Command := do
  let (given, targets) ← readArguments arguments
  if given.any (·.1 == .help) then return .help
  return .validate (← given.foldlM Request.apply { targets })

/-- The arguments of a command that takes none. -/
def readBare (command : Command) (arguments : List String) : Except UsageFault Command :=
  let settings := (arguments.takeWhile (· != "--")).filter isSetting
  let others := (arguments.takeWhile (· != "--")).filter (!isSetting ·) ++
    (arguments.dropWhile (· != "--")).drop 1
  match settings.find? (· != "--help"), settings, others with
  | some setting, _, _ => .error (.unknownSetting setting)
  | none, _ :: _, _ => .ok .help
  | none, [], [] => .ok command
  | none, [], argument :: _ => .error (.unexpectedArgument argument)

/-- The command with a name. -/
def readNamed (name : String) (arguments : List String) : Except UsageFault Command :=
  if name == "validate" then readValidate arguments
  else if name == "version" then readBare .version arguments
  else .error (.unknownCommand name)

/-- The argument is a setting in front of a command. -/
def isLeading (argument : String) : Bool := isSetting argument && argument != "--"

/-- The command that a command line asks for. -/
def read (arguments : List String) : Except UsageFault Command :=
  let settings := arguments.takeWhile isLeading
  match settings.find? (· != "--help"), settings, arguments.dropWhile isLeading with
  | some setting, _, _ => .error (.unknownSetting setting)
  | none, _ :: _, _ => .ok .help
  | none, [], "--" :: name :: rest => readNamed name rest
  | none, [], [] | none, [], ["--"] => .error .noCommand
  | none, [], name :: rest => readNamed name rest

end Command

end Continuity.CommandLine
