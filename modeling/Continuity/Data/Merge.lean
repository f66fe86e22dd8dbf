import Continuity.Data.Value

/-! # Entries and mappings

Named values stand in the order in which their names first came. A later value for a name takes the
place of the earlier one.

A mapping laid over another one adds its entries and replaces those with the same key, except that
where both have a mapping under a key, these two are merged in turn.
-/

namespace Continuity.Entries

variable {α : Type}

/-- The entries with one more; a name already present keeps its place. -/
def insert (name : String) (a : α) : List (String × α) → List (String × α)
  | [] => [(name, a)]
  | (n, b) :: rest => if n == name then (n, a) :: rest else (n, b) :: insert name a rest

/-- The entries with the value of a name changed, which is `absent` if the name has none. -/
def modify (name : String) (absent : α) (f : α → α) : List (String × α) → List (String × α)
  | [] => [(name, f absent)]
  | (n, b) :: rest =>
    if n == name then (n, f b) :: rest else (n, b) :: modify name absent f rest

/-- The entries of a list; of several with one name the last counts. -/
def ofList (entries : List (String × α)) : List (String × α) :=
  entries.foldl (fun found (n, a) => insert n a found) []

/-- The entries of two lists; those of the second count where both have a name. -/
def update (entries more : List (String × α)) : List (String × α) :=
  more.foldl (fun found (n, a) => insert n a found) entries

end Continuity.Entries

namespace Continuity.Value

mutual

/-- One mapping's entries with those of another laid over them. -/
def mergeEntries (base : List (Value × Value)) :
    List (Value × Value) → List (Value × Value)
  | [] => base
  | (key, value) :: rest =>
    mergeEntries (insertEntry key (mergeOver (lookup key base) value) base) rest

/-- A value laid over the one that was there. -/
def mergeOver (base : Option Value) : Value → Value
  | .map entries =>
    match base with
    | some (.map below) => .map (mergeEntries below entries)
    | _ => .map entries
  | value => value

end

end Continuity.Value
