import Continuity.Data.Json
import Continuity.Markdown.Node

/-! # Markdown trees as JSON documents -/

namespace Continuity

/-- A stretch as a document: line, column and offset of its start, then of its end. -/
def Text.Span.toJson (s : Text.Span) : Json :=
  let numbers : List Nat := [s.start.line, s.start.column, s.start.offset, s.stop.line, s.stop.column,
    s.stop.offset]
  .list (numbers.map fun (n : Nat) => .int n)

/-- A member, if there is a value for it. -/
def Json.member? {α : Type} (name : String) (f : α → Json) (value : Option α) :
    List (String × Json) :=
  (value.map fun a => (name, f a)).toList

namespace Markdown

mutual

/-- A node as a document, without the members that have no value. -/
def Node.toJson : Node → Json
  | .mk kind span value url title depth children =>
    .object <| [("type", .text kind.name)] ++ Json.member? "pos" Text.Span.toJson span ++
      Json.member? "value" .text value ++ Json.member? "url" .text url ++
      Json.member? "title" .text title ++ Json.member? "depth" .int depth ++
      if children.isEmpty then [] else [("children", .list (Node.listToJson children))]

/-- Nodes as documents. -/
def Node.listToJson : List Node → List Json
  | [] => []
  | n :: rest => n.toJson :: Node.listToJson rest

end

end Markdown

end Continuity
