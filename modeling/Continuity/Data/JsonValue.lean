import Continuity.Data.Json
import Continuity.Data.Value

/-! # JSON documents as untyped data -/

namespace Continuity.Value

mutual

/-- The data that a document holds. -/
def ofJson : Json → Value
  | .null => .null
  | .bool b => .bool b
  | .int n => .int n
  | .float x => .float x
  | .text s => .text s
  | .list items => .list (ofJsonItems items)
  | .object members => .map (ofJsonMembers members)

/-- The data of a list's items. -/
def ofJsonItems : List Json → List Value
  | [] => []
  | item :: rest => ofJson item :: ofJsonItems rest

/-- The data of an object's members. -/
def ofJsonMembers : List (String × Json) → List (Value × Value)
  | [] => []
  | (name, item) :: rest => (.text name, ofJson item) :: ofJsonMembers rest

end

end Continuity.Value
