import Continuity.Character.State
import Continuity.Data.Schema
import Continuity.Document.Reader
import Continuity.Link.Graph
import Continuity.SharedState

/-! # Entries and hooks

A validator takes an entry from every file and merges its entries into one, which it finds again
when it checks the project. An entry is whatever its validator makes of it.

A hook is what a validator does when a run calls upon it: some acts in turn, then an outcome. The
acts are all that a hook can do to a run; each that asks something goes on with the answer.
-/

namespace Continuity.Run

/-- What a validator takes from a file, or from all files together. -/
inductive Entry where
  | value (v : Value)
  | page (p : Link.Page)
  | graph (g : Link.Graph)
  | notes (f : Character.FileNotes)
  | characters (s : Character.State)
  | list (entries : List Entry)
  deriving Inhabited

namespace Entry

/-- What a kind of entry is called in messages. -/
def kindName : Entry → String
  | .value v => v.kindName
  | .page _ => "FileLinks"
  | .graph _ => "LinkGraph"
  | .notes _ => "FileCharacters"
  | .characters _ => "CharacterState"
  | .list _ => "list"

end Entry

/-- Why a hook has no result. -/
inductive HookFault where
  /-- The options cannot be used. -/
  | configuration (message : String) (problems : List Schema.Problem)
  /-- An entry was written when no more could be. -/
  | frozen (message : String)
  /-- A file cannot be read as a document. -/
  | load (fault : Document.LoadFault)
  /-- Data that is no such thing as `subject`. -/
  | invalid (subject : String) (problems : List Schema.Problem)
  /-- Any other failure, of a sort. -/
  | failure (sort message : String)
  deriving Repr

namespace HookFault

/-- The sort of failure that a fault is. -/
def sort : HookFault → String
  | .configuration .. => "ConfigError"
  | .frozen _ => "FrozenStateError"
  | .load fault => fault.sort
  | .invalid .. => "ValidationError"
  | .failure sort _ => sort

/-- The wording of a fault. -/
def message : HookFault → String
  | .configuration message _ => message
  | .frozen message => message
  | .load fault => fault.message
  | .invalid subject problems => Schema.summary subject problems
  | .failure _ message => message

/-- What is wrong with the data that a fault is about. -/
def problems : HookFault → List Schema.Problem
  | .configuration _ problems | .invalid _ problems => problems
  | _ => []

/-- A value of a kind has no part with this name. -/
def noSuchPart (kind part : String) : HookFault :=
  .failure "AttributeError" ("'" ++ kind ++ "' object has no attribute '" ++ part ++ "'")

/-- The options of a validator are not what it wants. -/
def badOptions (validator subject : String) (problems : List Schema.Problem) : HookFault :=
  .configuration ("Invalid options for validator '" ++ validator ++ "': " ++
    Schema.summary subject problems) problems

end HookFault

/-- Acts in turn, and then an outcome. -/
inductive Hook (α : Type) where
  | done (outcome : Except HookFault α)
  /-- Records an issue. -/
  | report (issue : Issue) (next : Hook α)
  /-- Tells of something under a name of the validator's own. -/
  | emit (event : String) (payload : List (String × Value)) (next : Hook α)
  /-- Asks for the run to be cancelled. -/
  | cancel (next : Hook α)
  /-- Looks at the shared state. -/
  | look (next : SharedState Entry → Hook α)
  /-- Writes an entry of the shared state. -/
  | write (key : String) (entry : Entry) (next : Except FrozenWrite Unit → Hook α)
  /-- Reads the document at a path, which may start at the project's root. -/
  | load (path : Path) (next : Except Document.LoadFault Document → Hook α)

namespace Hook

variable {α β : Type}

/-- One hook and then another that goes on from its result. -/
def bind (f : α → Hook β) : Hook α → Hook β
  | .done (.ok a) => f a
  | .done (.error e) => .done (.error e)
  | .report issue next => .report issue (next.bind f)
  | .emit event payload next => .emit event payload (next.bind f)
  | .cancel next => .cancel (next.bind f)
  | .look next => .look fun s => (next s).bind f
  | .write key entry next => .write key entry fun r => (next r).bind f
  | .load path next => .load path fun r => (next r).bind f

instance : Monad Hook where
  pure a := .done (.ok a)
  bind h f := h.bind f

/-- No result. -/
def fail (fault : HookFault) : Hook α := .done (.error fault)

/-- The shared state. -/
def sharedState : Hook (SharedState Entry) := .look pure

/-- Writes an entry of the shared state, or fails where it is frozen. -/
def setEntry (key : String) (entry : Entry) : Hook Unit :=
  .write key entry fun
    | .ok () => pure ()
    | .error refused => fail (.frozen refused.message)

/-- The document at a path, or a failure where there is none. -/
def document (path : Path) : Hook Document :=
  .load path fun
    | .ok d => pure d
    | .error fault => fail (.load fault)

end Hook

end Continuity.Run
