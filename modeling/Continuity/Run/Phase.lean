import Continuity.Run.Progress

/-! # The phases of a run

First every document is read, and validators take from it what they need. Then each validator merges
what it has taken into an entry of the shared state, which is frozen thereafter. Last, validators
look for issues in every document and in the project as a whole. A run that is cancelled leaves a
phase between two documents.
-/

namespace Continuity.Run.Step

variable (s : Setup)

/-- Performs a step for each member of a list, as long as the run is not to be cancelled. The answer
is whether all had their turn. -/
def whileRunning {α : Type} (step : α → Step Unit) : List α → Step Bool
  | [] => return true
  | a :: rest => do
    if ← isCancelled s then return false
    step a
    whileRunning step rest

/-! ## Extraction -/

/-- A validator takes what it needs from a document. -/
def extractWith (d : Document) (v : Validator) : Step Unit := do
  match v.extract with
  | none => pure ()
  | some extract =>
    if v.supports d then
      enterCall v (.extract d.name)
      let hook := extract (s.contextOf v) d
      if let some entry ← attempt s v (.extract d.name) (.extract d) hook then
        modify fun p => { p with parts := p.parts ++ [(v.id, entry)] }
        emit s (.fileExtracted d.name v.id)

/-- The document at a path; one that cannot be read becomes an issue. -/
def readDocument (path : Path) : Step (Option Document) := do
  match ← modifyGet (Progress.read s path) with
  | .ok d =>
    modify fun p => { p with documents := p.documents ++ [d] }
    onDesk (·.reportAll Issue.engineId d.issues)
    emit s (.fileParsed d.name)
    return some d
  | .error fault =>
    let name := path.within s.root
    match fault.issue? name with
    | none => throw (.document fault)
    | some issue =>
      onDesk (·.report Issue.engineId issue)
      emit s (.error name issue.code issue.message)
      return none

/-- Reads a file, and lets all validators take what they need from it. -/
def extractFile (path : Path) : Step Unit := do
  match ← readDocument s path with
  | none => pure ()
  | some d => (← get).validators.forM (extractWith s d)

/-- Reads all files. -/
def extract : Step Unit := do
  beginPhase .extracting
  if ← whileRunning s (extractFile s) s.paths then endPhase s "extract"

/-! ## Merging -/

/-- What a validator has taken from the documents, in order. -/
def partsOf (p : Progress) (v : Validator) : List Entry :=
  (p.parts.filter (·.1 == v.id)).map (·.2)

/-- The entry that a validator merges its parts into. -/
def mergeParts (v : Validator) (parts : List Entry) : Step (Option Entry) := do
  if v.merge.isSome then enterCall v (.merge parts)
  attempt s v (.merge parts) (.merge parts) (v.merging (s.contextOf v) parts)

/-- A validator leaves its entry in the shared state, if it has one. -/
def mergeWith (v : Validator) : Step Unit := do
  if v.leavesEntry then
    if let some entry ← mergeParts s v (partsOf (← get) v) then
      if let .error refused ← modifyGet (Progress.write v.id entry) then
        throw (.frozen refused.message)

/-- All validators leave their entries, and the shared state is frozen. -/
def merge : Step Unit := do
  beginPhase .mergingState
  (← get).validators.forM (mergeWith s)
  onDesk fun d => { d with shared := d.shared.freeze }
  endPhase s "merge"

/-! ## Validation -/

/-- A validator looks for issues in a document. -/
def validateWith (d : Document) (v : Validator) : Step Unit := do
  match v.validate with
  | none => pure ()
  | some validate =>
    if v.supports d then
      enterCall v (.validate d.name)
      let hook := validate (s.contextOf v) d
      if let some issues ← attempt s v (.validate d.name) (.validate d) hook then
        onDesk (·.reportAll v.id issues)
        emit s (.fileValidated d.name v.id issues.length)

/-- All validators look for issues in a document. -/
def validateDocument (d : Document) : Step Unit := do
  (← get).validators.forM (validateWith s d)

/-- A validator looks for issues in the project as a whole. -/
def validateProjectWith (v : Validator) : Step Unit := do
  match v.validateProject with
  | none => pure ()
  | some validate =>
    let documents := (← get).documents.filter v.supports
    let call := Call.validateProject (documents.map (·.name))
    enterCall v call
    let hook := validate (s.contextOf v) documents
    if let some issues ← attempt s v call (.validateProject documents) hook then
      onDesk (·.reportAll v.id issues)

/-- All validators look for issues. -/
def validate : Step Unit := do
  beginPhase .validating
  if ← whileRunning s (validateDocument s) (← get).documents then
    let validators := (← get).validators.filter (·.validateProject.isSome)
    if ← whileRunning s (validateProjectWith s) validators then endPhase s "validate"

end Continuity.Run.Step
