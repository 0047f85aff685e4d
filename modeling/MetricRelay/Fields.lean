/-
**The fields of a record.**

A record is read from named values. `Fields.known?` keeps those with a known name and refuses a name
that is given twice; `Fields.required` and `Fields.optional` read one of them.
-/

namespace MetricRelay.Fields

variable {α β : Type}

/-- No name is given twice. -/
def distinct : List (String × α) → Bool
  | [] => true
  | (name, _) :: rest => !(rest.any fun field => field.1 == name) && distinct rest

/-- The values with known names, unless one of these is given twice. -/
def known? (names : List String) (members : List (String × α)) : Option (List (String × α)) :=
  let fields := members.filter fun member => names.contains member.1
  if distinct fields then some fields else none

/-- Reads a field that must be there. -/
def required (read : α → Option β) (fields : List (String × α)) (name : String) : Option β :=
  (fields.lookup name).bind read

/-- Reads a field, which has a default where it is missing. -/
def optional (read : α → Option β) (fields : List (String × α)) (name : String) (default : β) :
    Option β :=
  match fields.lookup name with
  | some field => read field
  | none => some default

end MetricRelay.Fields
