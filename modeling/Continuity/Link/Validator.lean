import Continuity.Link.Options
import Continuity.Link.Page
import Continuity.Link.Rules
import Continuity.Run.Validator

/-! # The validator of links -/

namespace Continuity.Link

open Run (Context Entry Hook Validator)

/-- The options of the validator; those that cannot be used are taken as not given. -/
def optionsOf (c : Context) : Options :=
  match Options.read (.map c.options) with
  | .ok options => options
  | .bad _ => {}

/-- The options can be used. -/
def start (c : Context) : Hook Unit :=
  match Options.read (.map c.options) with
  | .ok _ => pure ()
  | .bad problems => .fail (.badOptions validatorId "LinkOptions" problems)

/-- The documents among entries. -/
def pagesOf (entries : List Entry) : List Page :=
  entries.filterMap fun
    | .page p => some p
    | _ => none

/-- The first question about files that cannot be answered. -/
def firstFault? (c : Context) (pages : List Page) : Option Files.PathFault :=
  (Graph.asks pages).findSome? fun name =>
    let path := c.root ++ .ofString name
    match Files.asking path (c.tree.isFile path) with
    | .ok _ => none
    | .error fault => some fault

/-- There is a file with this path in the project. -/
def hasFile (c : Context) (name : String) : Bool :=
  (c.tree.isFile (c.root ++ .ofString name)).toOption.getD false

/-- The graph of the documents. -/
def merge (c : Context) (entries : List Entry) : Hook Entry :=
  let pages := pagesOf entries
  match firstFault? c pages with
  | some fault => .fail (.failure "OSError" fault.message)
  | none => pure (.graph (.ofPages pages (hasFile c) !(optionsOf c).skipExternal))

/-- What is to be done with the graph, if the shared state has one. -/
def withGraph (asked : String) (f : Graph → List Issue) : Hook (List Issue) := do
  match (← Hook.sharedState).get? validatorId with
  | none | some (.value .null) => return []
  | some (.graph g) => return f g
  | some other => .fail (.noSuchPart other.kindName asked)

/-- The issues of a document. -/
def validate (c : Context) (d : Document) : Hook (List Issue) :=
  withGraph "edges_from" fun g => fileIssues g (optionsOf c).titleSimilarity d.name

/-- The issues of the project. -/
def validateProject (c : Context) (_ : List Document) : Hook (List Issue) :=
  let options := optionsOf c
  if !options.checkOrphans && !options.reportMutual then pure []
  else withGraph (if options.checkOrphans then "roots" else "bidirectional_pairs") fun g =>
    (if options.checkOrphans then orphanIssues g options.entryPoints else []) ++
      (if options.reportMutual then mutualIssues g else [])

/-- The validator of links. -/
def validator : Validator where
  id := validatorId
  sectionName := some "linkValidator"
  start := some start
  extract := some fun _ d => pure (.page (.ofDocument d))
  merge := some merge
  validate := some validate
  validateProject := some validateProject

end Continuity.Link
