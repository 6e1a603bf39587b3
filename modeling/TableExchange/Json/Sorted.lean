import TableExchange.Json.Value
import TableExchange.SortedMap

/-!
JSON values whose members stand in ascending order of their names, at every depth.
-/

namespace TableExchange.Json

mutual

/-- The same value with its members in order; the last one of a name counts. -/
def sorted : Json → Json
  | .array items => .array (sortedItems items)
  | .object members => .object (SortedMap.ofList (sortedMembers members)).entries
  | .null => .null
  | .bool b => .bool b
  | .integer n => .integer n
  | .decimal d => .decimal d
  | .string s => .string s
  | .broken => .broken

def sortedItems : List Json → List Json
  | [] => []
  | j :: rest => sorted j :: sortedItems rest

/-- The members, each value with its own members in order. -/
def sortedMembers : List (String × Json) → List (String × Json)
  | [] => []
  | (name, j) :: rest => (name, sorted j) :: sortedMembers rest

end

end TableExchange.Json
