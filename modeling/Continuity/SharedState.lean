import Continuity.Text.Quoted

/-! # State that validators share

Each validator may leave one entry for the checks that follow. Once all have done so the state is
frozen, and nothing can be written any more.
-/

namespace Continuity

/-- Entries by validator, in the order in which they were first written. -/
structure SharedState (α : Type) where
  entries : List (String × α) := []
  frozen : Bool := false
  deriving Repr, Inhabited

/-- An attempt to write to a frozen state, for a validator. -/
structure FrozenWrite where
  key : String
  deriving Repr, DecidableEq, Inhabited

/-- The wording of a refused write. -/
def FrozenWrite.message (f : FrozenWrite) : String :=
  "Global state is frozen; cannot write entry for '" ++ f.key ++ "'"

namespace SharedState

variable {α : Type}

/-- The entries with one written; an entry that is there keeps its place. -/
def write (key : String) (entry : α) : List (String × α) → List (String × α)
  | [] => [(key, entry)]
  | (k, e) :: rest => if k == key then (k, entry) :: rest else (k, e) :: write key entry rest

/-- Writes an entry. -/
def set (s : SharedState α) (key : String) (entry : α) : Except FrozenWrite (SharedState α) :=
  if s.frozen then .error ⟨key⟩ else .ok { s with entries := write key entry s.entries }

/-- Refuses all further writes. -/
def freeze (s : SharedState α) : SharedState α := { s with frozen := true }

/-- The entry of a validator. -/
def get? (s : SharedState α) (key : String) : Option α := s.entries.lookup key

/-- The state at a glance: whether it is frozen, and whose entries it has. -/
def summary (s : SharedState α) : String :=
  "GlobalState(" ++ (if s.frozen then "frozen" else "open") ++ ", " ++
    Text.quotedList ((s.entries.map (·.1)).mergeSort (· ≤ ·)) ++ ")"

end SharedState

end Continuity
