/-
**JSON values with the members of every object in the order of their keys.**
-/

import MetricRelay.Json.Basic
import MetricRelay.Table

namespace MetricRelay.Json

mutual

/-- The value with the members of every object in the order of their keys. Of members with one key
the last one stays. -/
def sorted : Json → Json
  | array items => .array (sortedItems items)
  | object members => .object (Table.ofList (sortedMembers members)).entries
  | leaf => leaf

/-- `sorted` for the items of an array. -/
def sortedItems : List Json → List Json
  | [] => []
  | item :: rest => sorted item :: sortedItems rest

/-- `sorted` for the values of the members of an object. -/
def sortedMembers : List (String × Json) → List (String × Json)
  | [] => []
  | (key, value) :: rest => (key, sorted value) :: sortedMembers rest

end

end MetricRelay.Json
