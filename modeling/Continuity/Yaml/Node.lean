import Continuity.Yaml.Fault

/-! # Nodes of YAML

The tree of a document. Every node has the tag that says what kind of data it stands for, written
or found from its content, and the line on which it begins. Aliases are replaced by what they
stand for.
-/

namespace Continuity.Yaml

/-- A node of a document. -/
inductive Node where
  | scalar (tag : String) (line : Nat) (text : String)
  | sequence (tag : String) (line : Nat) (items : List Node)
  | mapping (tag : String) (line : Nat) (entries : List (Node × Node))
  deriving Inhabited

namespace Node

/-- The tag of a node. -/
def tag : Node → String
  | .scalar t .. | .sequence t .. | .mapping t .. => t

/-- The line of a node. -/
def line : Node → Nat
  | .scalar _ l _ | .sequence _ l _ | .mapping _ l _ => l

/-- What a node is made of. -/
def shape : Node → Shape
  | .scalar .. => .scalar
  | .sequence .. => .sequence
  | .mapping .. => .mapping

end Node

/-- A tag of the language's own repository. -/
def coreTag (name : String) : String := "tag:yaml.org,2002:" ++ name

end Continuity.Yaml
