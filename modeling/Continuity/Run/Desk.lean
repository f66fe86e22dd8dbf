import Continuity.Document.Cache
import Continuity.Event.Basic
import Continuity.Report.Collector
import Continuity.Run.Validator

/-! # What hooks work on

The desk of a run holds what hooks can reach: the issues found so far, the shared state, the
documents read, and the events of which listeners have been told. Every call of a hook is entered in
a journal, and so is whatever the hook looks at.
-/

namespace Continuity.Run

/-- What is entered in the journal. -/
inductive Act where
  /-- A hook is called while the shared state is as given. -/
  | called (call : Call) (found : SharedState Entry)
  /-- A hook has looked at the shared state. -/
  | looked (found : SharedState Entry)
  /-- A hook has read a document. -/
  | loaded (document : Document)
  deriving Inhabited

/-- A line of the journal. -/
structure JournalLine where
  validator : String
  act : Act
  deriving Inhabited

/-- What hooks can reach. -/
structure Desk where
  collector : Collector := {}
  /-- All issues handed in, each with the validator that it was handed in for, also those that were
  recorded before. -/
  submitted : List (String × Issue) := []
  shared : SharedState Entry := {}
  cache : Document.Cache := {}
  /-- The events so far, the latest last. -/
  events : List Event := []
  journal : List JournalLine := []
  /-- Someone has asked for the run to be cancelled. -/
  cancelRequested : Bool := false
  deriving Inhabited

/-- Who listens to events: whether one asks for the run to be cancelled when told of the latest. -/
abbrev Listener := List Event → Bool

/-- What is fixed while the hooks of a validator are called. -/
structure Host where
  validator : String
  root : Path
  tree : FileTree
  listener : Listener

namespace Desk

/-- Tells the listener of an event. -/
def emit (listener : Listener) (e : Event) (d : Desk) : Desk :=
  let events := d.events ++ [e]
  { d with events, cancelRequested := d.cancelRequested || listener events }

/-- Records an issue for a validator. -/
def report (validator : String) (issue : Issue) (d : Desk) : Desk :=
  { d with
    collector := d.collector.add validator issue
    submitted := d.submitted ++ [(validator, issue)] }

/-- Records issues for a validator. -/
def reportAll (validator : String) (issues : List Issue) (d : Desk) : Desk :=
  { d with
    collector := d.collector.addAll validator issues
    submitted := d.submitted ++ issues.map (validator, ·) }

/-- Enters an act in the journal. -/
def enter (validator : String) (act : Act) (d : Desk) : Desk :=
  { d with journal := d.journal ++ [⟨validator, act⟩] }

/-- Writes an entry of the shared state, unless it is frozen. -/
def write (key : String) (entry : Entry) (d : Desk) : Except FrozenWrite Unit × Desk :=
  match d.shared.set key entry with
  | .ok shared => (.ok (), { d with shared })
  | .error refused => (.error refused, d)

/-- The document at an absolute path, from the cache if it has been read before. -/
def load (tree : FileTree) (root path : Path) (d : Desk) :
    Except Document.LoadFault Document × Desk :=
  let (reading, cache) := d.cache.load tree root path
  (reading.map (·.document), { d with cache })

/-- Enters a document that a hook has read in the journal. -/
def enterLoaded (validator : String) (r : Except Document.LoadFault Document) (d : Desk) : Desk :=
  match r with
  | .ok document => d.enter validator (.loaded document)
  | .error _ => d

end Desk

/-- What a hook comes to, and the desk after it. -/
def Hook.run {α : Type} (host : Host) : Hook α → Desk → Except HookFault α × Desk
  | .done outcome, d => (outcome, d)
  | .report issue next, d => next.run host (d.report host.validator issue)
  | .emit event payload next, d =>
    let origin := ("validator", Value.text host.validator)
    next.run host (d.emit host.listener (.custom event (Entries.update [origin] payload)))
  | .cancel next, d => next.run host { d with cancelRequested := true }
  | .look next, d => (next d.shared).run host (d.enter host.validator (.looked d.shared))
  | .write key entry next, d =>
    let (r, d) := d.write key entry
    (next r).run host d
  | .load path next, d =>
    let (r, d) := d.load host.tree host.root (Path.resolve host.root path)
    (next r).run host (d.enterLoaded host.validator r)

end Continuity.Run
