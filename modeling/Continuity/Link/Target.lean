import Continuity.Path
import Continuity.Text.Casing
import Continuity.Web.Authority
import Continuity.Web.Percent

/-! # Where links lead

A destination refers to an address outside, to the document that holds it, or to a path, which is
taken from the document's directory, or from the root of the project if it begins with a stroke.
What a path leads to depends on the files that are known.
-/

namespace Continuity.Link

/-- What a destination refers to. -/
inductive Reference where
  | address (wellFormed : Bool)
  | here (fragment : String)
  | path (place : Path) (fragment : String)
  deriving Repr, DecidableEq

/-- What kind of place a link leads to. -/
inductive Kind where
  | internal
  | external
  | anchor
  | broken
  deriving Repr, DecidableEq, Inhabited

/-- The name of a kind. -/
def Kind.name : Kind → String
  | .internal => "internal"
  | .external => "external"
  | .anchor => "anchor"
  | .broken => "broken"

/-- Where a link leads. -/
structure Destination where
  kind : Kind
  target : Option String
  fragment : String
  deriving Repr, DecidableEq, Inhabited

/-- A destination that begins with a scheme or with two strokes. -/
def isAddress (target : List Char) : Bool :=
  (Web.scheme? target).isSome || Text.startsWith ['/', '/'] target

/-- The path that a destination gives in a document, without names for "up" behind its front. -/
def pathFrom (source path : List Char) : Path :=
  if path.head? == some '/' then (Path.ofChars (path.dropWhile (· == '/'))).normalize
  else (Path.directoryOfChars source ++ Path.ofChars path).normalize

/-- What a destination in a document refers to. -/
def Reference.ofChars (raw source : List Char) : Reference :=
  let target := Web.decodePercent (Text.trim raw)
  if isAddress target then .address (Web.isWellFormedAddress target)
  else
    let beforeHash := target.takeWhile (· != '#')
    let fragment := String.ofList (target.drop (beforeHash.length + 1))
    let path := beforeHash.takeWhile (· != '?')
    if path.isEmpty then .here fragment else .path (pathFrom source path) fragment

/-- The name of the file that stands for its directory, in lowercase. -/
def indexName : String := "readme.md"

/-- The file stands for its directory. -/
def isIndex (path : String) : Bool := Text.lower (Path.ofString path).name == indexName

/-- The file that stands for a directory. -/
def indexOf? (known : List String) (directory : String) : Option String :=
  known.find? fun path => isIndex path && (Path.ofString path).parent.toString == directory

/-- A path below the root that is no document: it may exist without being known. -/
def isAsset (path : String) : Bool :=
  !Text.startsWith "..".toList path.toList &&
    [".md", ".markdown"].all fun ending =>
      !Text.startsWith ending.toList.reverse (Text.lower path).toList.reverse

/-- Where a reference leads, given the known files, those that exist, and whether addresses are
examined. -/
def Reference.resolve (known : List String) (exists? : String → Bool) (strict : Bool)
    (source : String) : Reference → Destination
  | .address wellFormed =>
    ⟨if strict && !wellFormed then .broken else .external, none, ""⟩
  | .here fragment => ⟨.anchor, some source, fragment⟩
  | .path place fragment =>
    let path := place.toString
    if known.contains path then ⟨.internal, some path, fragment⟩
    else match indexOf? known path with
      | some file => ⟨.internal, some file, fragment⟩
      | none =>
        ⟨if isAsset path && exists? path then .internal else .broken, some path, fragment⟩

/-- The file whose existence matters to a reference, if one does. -/
def Reference.asks? (known : List String) : Reference → Option String
  | .path place _ =>
    let path := place.toString
    if known.contains path || (indexOf? known path).isSome || !isAsset path then none
    else some path
  | _ => none

/-- What a destination in a document refers to. -/
def Reference.ofStrings (raw source : String) : Reference :=
  .ofChars raw.toList source.toList

/-- Where a destination in a document leads. -/
def resolve (known : List String) (exists? : String → Bool) (strict : Bool)
    (raw source : String) : Destination :=
  (Reference.ofStrings raw source).resolve known exists? strict source

end Continuity.Link
