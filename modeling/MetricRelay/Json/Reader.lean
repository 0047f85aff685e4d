/-
**Reading typed data from JSON values.**

Each reader answers `none` for a value of another shape. Records are read by the names of their
fields:

* `Json.fields?`: the known members of an object, each at most once, or the items of an array in
  the order of the names, of which the last ones may be missing;
* `Json.flatFields?`: the same for a record whose fields come from several parts: only an object,
  and every member must denote something, read or not.
-/

import MetricRelay.Fields
import MetricRelay.Json.Basic
import MetricRelay.Table

namespace MetricRelay

namespace Json

/-- The words of a 64-bit whole number with a sign. -/
def fitsInt64 (n : Int) : Bool := -9223372036854775808 ≤ n && n ≤ 9223372036854775807

/-- A 64-bit whole number with a sign. -/
def int64? : Json → Option Int64
  | int n => if fitsInt64 n then some (Int64.ofInt n) else none
  | _ => none

/-- A natural number up to a bound. -/
def natural? (bound : Nat) : Json → Option Nat
  | int n => if 0 ≤ n ∧ n ≤ bound then some n.toNat else none
  | _ => none

/-- A natural number that 64 bits hold. -/
def natural64? : Json → Option Nat := natural? 18446744073709551615

/-- A number as a double. -/
def float? : Json → Option Float
  | int n => some (Float.ofInt n)
  | float x => some x
  | _ => none

/-- A text. -/
def text? : Json → Option String
  | text value => some value
  | _ => none

/-- The items of an array. -/
def items? : Json → Option (List Json)
  | array items => some items
  | _ => none

/-- The members of an object. -/
def members? : Json → Option (List (String × Json))
  | object members => some members
  | _ => none

/-- The name of a choice without data: the name itself, or an object whose only member has that
key and the value `null`. -/
def choice? : Json → Option String
  | text name => some name
  | object [(name, null)] => some name
  | _ => none

/-- The values of the known fields of a record, by their names. -/
def fields? (names : List String) : Json → Option (List (String × Json))
  | object members => Fields.known? names members
  | array items => if items.length ≤ names.length then some (names.zip items) else none
  | _ => none

/-- The fields of a record that is put together from parts, inside `depth` containers. -/
def flatFields? (depth : Nat) (names : List String) : Json → Option (List (String × Json))
  | object members =>
    if areSoundMembers (maxDepth - (depth + 1)) members then Fields.known? names members else none
  | _ => none

/-- The members of an object as a table: every value is read, the last one of a key stays. -/
def table? {α : Type} (read : Json → Option α) (value : Json) : Option (Table α) := do
  let members ← value.members?
  let entries ← members.mapM fun member => (read member.2).map (member.1, ·)
  return Table.ofList entries

end Json

end MetricRelay
