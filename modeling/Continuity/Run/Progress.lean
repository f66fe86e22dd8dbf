import Continuity.Config.Basic
import Continuity.Run.Desk
import Continuity.Run.Validator

/-! # The progress of a run

A run passes through states, on a fixed setup. What it has come to is its progress; a step of the
run changes the progress, and may end the run with a fault.

The deeds of a run are taken down one after another, so that one can tell afterwards in which order
they came and what they came to: the questions whether the run is to be cancelled, the readings of
files, and the turns of validators.
-/

namespace Continuity.Run

/-- A hook that was called, what it was called on, and what it came to. -/
inductive Turn where
  | start (outcome : Except HookFault Unit)
  | extract (document : Document) (outcome : Except HookFault Entry)
  | merge (parts : List Entry) (outcome : Except HookFault Entry)
  | validate (document : Document) (outcome : Except HookFault (List Issue))
  | validateProject (documents : List Document) (outcome : Except HookFault (List Issue))
  | finish (outcome : Except HookFault Unit)

/-- Something that a run does. -/
inductive Deed where
  /-- The run asks whether it is to be cancelled. -/
  | asked (cancelled : Bool)
  /-- The run reads a file. -/
  | read (path : Path) (result : Except Document.LoadFault Document)
  /-- A validator has its turn, while the shared state is as given. -/
  | turn (validator : String) (found : SharedState Entry) (turn : Turn)

/-- The states of a run. -/
inductive Status where
  | idle
  | registered
  | initialized
  | extracting
  | mergingState
  | validating
  | aggregating
  | finalized
  deriving Repr, DecidableEq, Inhabited

/-- The name of a state. -/
def Status.name : Status → String
  | .idle => "idle"
  | .registered => "registered"
  | .initialized => "initialized"
  | .extracting => "extracting"
  | .mergingState => "merging_state"
  | .validating => "validating"
  | .aggregating => "aggregating"
  | .finalized => "finalized"

/-- What a run is about. -/
structure Setup where
  config : Config
  /-- The files to examine. -/
  files : List Path
  tree : FileTree
  /-- The validators, in the order in which they are called. -/
  validators : List Validator
  listener : Listener := fun _ => false
  /-- Whether anyone else has asked for the run to be cancelled by the time that it has done this. -/
  interrupted : List Deed → Bool := fun _ => false

/-- What a run has come to. -/
structure Progress where
  desk : Desk := {}
  /-- The states passed through. -/
  history : List Status := []
  /-- The validators that take part. -/
  validators : List Validator := []
  /-- The validators that have started. -/
  started : List Validator := []
  /-- The documents read, in order. -/
  documents : List Document := []
  /-- What validators have taken from the documents, in order. -/
  parts : List (String × Entry) := []
  /-- The validators called upon in the present phase, in the order of their first calls. -/
  busy : List String := []
  /-- A request to cancel the run has been noticed. -/
  cancelled : Bool := false
  /-- What the run has done, in order. -/
  deeds : List Deed := []
  deriving Inhabited

/-- Why a run ends without a report. -/
inductive RunFault where
  | duplicate (validator : String)
  /-- A validator cannot use its options. -/
  | configuration (message : String) (problems : List Schema.Problem)
  /-- A validator cannot start. -/
  | notStarted (validator : String) (cause : HookFault)
  /-- A validator wrote to the shared state when it was frozen. -/
  | frozen (message : String)
  /-- A file cannot be read, for a reason that no issue stands for. -/
  | document (fault : Document.LoadFault)
  deriving Repr

namespace RunFault

/-- The wording of a fault. -/
def message : RunFault → String
  | .duplicate validator => "Duplicate validator id '" ++ validator ++ "'"
  | .configuration message _ => message
  | .notStarted validator cause =>
    "Validator '" ++ validator ++ "' failed to initialize: " ++ cause.message
  | .frozen message => message
  | .document fault => fault.message

/-- A fault as it is made known. -/
def toFailure (f : RunFault) : Failure :=
  match f with
  | .duplicate _ => .configuration f.message []
  | .configuration _ problems => .configuration f.message problems
  | .notStarted validator cause =>
    { kind := "init-failed", message := f.message, foreseen := true, problems := cause.problems
      validator := some validator }
  | .frozen _ => .unforeseen "FrozenStateError" f.message
  | .document fault => fault.toFailure

end RunFault

/-- A step of a run. -/
abbrev Step (α : Type) := ExceptT RunFault (StateM Progress) α

/-- What a step comes to, and the progress after it. -/
def Step.exec {α : Type} (step : Step α) (p : Progress) : Except RunFault α × Progress :=
  step.run.run p

namespace Setup

/-- The directory of the project. -/
def root (s : Setup) : Path := s.config.project.root

/-- The files to examine, in order and each once. -/
def paths (s : Setup) : List Path := Files.sortPaths s.files

/-- What a validator is told about the run. -/
def contextOf (s : Setup) (v : Validator) : Context where
  options := s.config.optionsFor v.id v.sectionName
  root := s.root
  files := s.paths
  tree := s.tree

/-- What is fixed while the hooks of a validator are called. -/
def hostOf (s : Setup) (v : Validator) : Host := ⟨v.id, s.root, s.tree, s.listener⟩

end Setup

namespace Progress

/-- Asks whether the run is to be cancelled; the first time that it is, this becomes an issue. -/
def ask (s : Setup) (p : Progress) : Bool × Progress :=
  let cancelled := p.cancelled || p.desk.cancelRequested || s.interrupted p.deeds
  let issue := Issue.ofEngine "cancelled" "Run cancelled" .info none none
  let desk := if cancelled && !p.cancelled then p.desk.report Issue.engineId issue else p.desk
  (cancelled, { p with cancelled, desk, deeds := p.deeds ++ [.asked cancelled] })

/-- Reads the document at a path. -/
def read (s : Setup) (path : Path) (p : Progress) :
    Except Document.LoadFault Document × Progress :=
  let (result, desk) := p.desk.load s.tree s.root path
  (result, { p with desk, deeds := p.deeds ++ [.read path result] })

/-- Performs a hook of a validator, which is a turn of it. -/
def perform {α : Type} (s : Setup) (v : Validator) (turn : Except HookFault α → Turn)
    (hook : Hook α) (p : Progress) : Except HookFault α × Progress :=
  let (outcome, desk) := hook.run (s.hostOf v) p.desk
  (outcome, { p with desk, deeds := p.deeds ++ [.turn v.id p.desk.shared (turn outcome)] })

/-- Writes an entry of the shared state. -/
def write (key : String) (entry : Entry) (p : Progress) : Except FrozenWrite Unit × Progress :=
  let (result, desk) := p.desk.write key entry
  (result, { p with desk })

/-- Enters a call in the journal. -/
def enterCall (v : Validator) (call : Call) (p : Progress) : Progress :=
  { p with desk := p.desk.enter v.id (.called call p.desk.shared) }

end Progress

namespace Step

variable (s : Setup)

/-- Changes what hooks can reach. -/
def onDesk (f : Desk → Desk) : Step Unit := modify fun p => { p with desk := f p.desk }

/-- Passes into a state. -/
def enter (status : Status) : Step Unit :=
  modify fun p => { p with history := p.history ++ [status] }

/-- Tells of an event. -/
def emit (e : Event) : Step Unit := onDesk (·.emit s.listener e)

/-- The run is to be cancelled. -/
def isCancelled : Step Bool := modifyGet (Progress.ask s)

/-- A step that is taken unless the run is to be cancelled. -/
def unlessCancelled (step : Step Unit) : Step Unit := do
  if ← isCancelled s then pure () else step

/-- Enters a call in the journal. -/
def enterCall (v : Validator) (call : Call) : Step Unit := modify (·.enterCall v call)

/-- Performs a hook of a validator. -/
def perform {α : Type} (v : Validator) (turn : Except HookFault α → Turn) (hook : Hook α) :
    Step (Except HookFault α) :=
  modifyGet (·.perform s v turn hook)

/-- Counts a validator among those called upon in this phase. -/
def markBusy (v : Validator) : Step Unit :=
  modify fun p =>
    if p.busy.contains v.id then p else { p with busy := p.busy ++ [v.id] }

/-- Turns the failure of a hook into an issue. -/
def reportFailure (v : Validator) (call : Call) (fault : HookFault) : Step Unit := do
  let issue := v.failureIssue call fault
  onDesk (·.report v.id issue)
  emit s (.error (call.file?.getD v.id) issue.code issue.message)

/-- Calls a hook of a validator. A failure becomes an issue; but a write to the frozen state ends
the run. -/
def attempt {α : Type} (v : Validator) (call : Call) (turn : Except HookFault α → Turn)
    (hook : Hook α) : Step (Option α) := do
  markBusy v
  match ← perform s v turn hook with
  | .ok a => return some a
  | .error (.frozen message) => throw (.frozen message)
  | .error fault =>
    reportFailure s v call fault
    return none

/-- Passes into the state of a phase, in which no validator has been called upon yet. -/
def beginPhase (status : Status) : Step Unit := do
  enter status
  modify fun p => { p with busy := [] }

/-- Tells that a phase is over, and before it that it is over for each validator called upon. -/
def endPhase (phase : String) : Step Unit := do
  (← get).busy.forM fun id => emit s (.validatorPhase id phase none)
  emit s (.runPhase phase none)

end Step

end Continuity.Run
