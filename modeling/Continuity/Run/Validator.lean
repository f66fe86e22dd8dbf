import Continuity.Run.Hook

/-! # Validators

A validator is a set of hooks. A run calls upon them in phases: once at the start, then for every
file to take what it needs from it, then once to merge what was taken, then for every file and for
the project to find issues, and once at the end. A validator need not have all of them.
-/

namespace Continuity.Run

/-- What a validator is told about the run. -/
structure Context where
  options : List (Value × Value)
  /-- The directory of the project. -/
  root : Path
  /-- The files of the run, in order. -/
  files : List Path
  tree : FileTree
  deriving Inhabited

/-- A validator. -/
structure Validator where
  /-- The name that its issues go by. -/
  id : String
  /-- The endings of the files that it is concerned with. -/
  extensions : List String := [".md", ".markdown"]
  /-- The section of the configuration with options for it. -/
  sectionName : Option String := none
  start : Option (Context → Hook Unit) := none
  extract : Option (Context → Document → Hook Entry) := none
  /-- Without it, what was extracted is taken as a list. -/
  merge : Option (Context → List Entry → Hook Entry) := none
  validate : Option (Context → Document → Hook (List Issue)) := none
  validateProject : Option (Context → List Document → Hook (List Issue)) := none
  finish : Option (Context → Hook Unit) := none

namespace Validator

/-- The validator is concerned with a document. -/
def supports (v : Validator) (d : Document) : Bool := v.extensions.contains d.suffix

/-- The validator leaves an entry in the shared state. -/
def leavesEntry (v : Validator) : Bool := v.extract.isSome || v.merge.isSome

/-- What the validator does at the start; without a hook for it, nothing. -/
def starting (v : Validator) (c : Context) : Hook Unit :=
  match v.start with
  | some start => start c
  | none => pure ()

/-- How the validator merges its parts; without a hook for it, they become a list. -/
def merging (v : Validator) (c : Context) (parts : List Entry) : Hook Entry :=
  match v.merge with
  | some merge => merge c parts
  | none => pure (.list parts)

/-- What the validator does at the end; without a hook for it, nothing. -/
def finishing (v : Validator) (c : Context) : Hook Unit :=
  match v.finish with
  | some finish => finish c
  | none => pure ()

end Validator

/-- A call of a hook. -/
inductive Call where
  | start
  | extract (file : String)
  | merge (parts : List Entry)
  | validate (file : String)
  | validateProject (files : List String)
  | finish
  deriving Inhabited

namespace Call

/-- The name of the hook that is called. -/
def hookName : Call → String
  | .start => "initialize"
  | .extract _ => "extract"
  | .merge _ => "merge_global_state"
  | .validate _ => "validate"
  | .validateProject _ => "project_validate"
  | .finish => "finalize"

/-- The file that a call is about. -/
def file? : Call → Option String
  | .extract file | .validate file => some file
  | _ => none

end Call

/-- The issue that a failed call becomes. -/
def Validator.failureIssue (v : Validator) (call : Call) (fault : HookFault) : Issue where
  code := "internal-error"
  severity := .error
  message := "Validator '" ++ v.id ++ "' failed in " ++ call.hookName ++ ": " ++ fault.sort ++
    ": " ++ fault.message
  validator := v.id
  file := call.file?

end Continuity.Run
