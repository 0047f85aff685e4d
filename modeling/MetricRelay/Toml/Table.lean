/-
**Building tables.**

A value is put into a table by a path of names, and tables are made on the way. What exists already
on the way must be a table that may still be added to:

* a value, also a table between braces, is complete;
* of the tables with a header in double brackets the last one is meant;
* a dotted key does not enter a table with a header of its own.

A dotted key puts its value into a table that was itself made by a dotted key, any other key into
one that was not, and no name is given twice.
-/

import MetricRelay.Toml.Basic

namespace MetricRelay.Toml

variable {α : Type}

/-- The members with another value for a name that is there. -/
def replace (name : String) (value : Toml) (members : Members) : Members :=
  members.map fun member => if member.1 == name then (name, value) else member

/-- The origin of a table that is made on the way to a value. -/
def madeOnTheWay (byKey : Bool) : Origin :=
  if byKey then .dotted else .passed

/-- Values may be added to a table of this origin, by a key or by a header. -/
def mayEnter (byKey : Bool) : Origin → Bool
  | .inline => false
  | .header => !byKey
  | .passed | .dotted => true

/-- Changes the table at the end of a path. The path is that of a key, or that of a header. -/
def descend (byKey : Bool) (change : Origin → Members → Option (Members × α)) :
    List String → Origin → Members → Option (Members × α)
  | [], origin, members => change origin members
  | name :: path, _, members => do
    let inside := descend byKey change path
    match members.lookup name with
    | none =>
      let origin := madeOnTheWay byKey
      let (inner, answer) ← inside origin []
      return (members ++ [(name, .table origin inner)], answer)
    | some (.table origin inner) =>
      if mayEnter byKey origin then
        let (inner, answer) ← inside origin inner
        return (replace name (.table origin inner) members, answer)
      else none
    | some (.tables items) =>
      match items.getLast? with
      | some (.table origin inner) =>
        let (inner, answer) ← inside origin inner
        return (replace name (.tables (items.dropLast ++ [.table origin inner])) members, answer)
      | _ => none
    | some _ => none

/-- Puts a value under a name that is free, into a table that was itself made as the key demands. -/
def put (isDotted : Bool) (name : String) (value : Toml) (origin : Origin) (members : Members) :
    Option (Members × Unit) :=
  if isDotted = (origin == .dotted) ∧ (members.lookup name).isNone then
    some (members ++ [(name, value)], ())
  else none

/-- Puts a value where a key leads. -/
def insertKey (origin : Origin) (members : Members) (key : List String) (value : Toml) :
    Option Members := do
  let path := key.dropLast
  let name ← key.getLast?
  let (members, _) ← descend true (put (!path.isEmpty) name value) path origin members
  return members

/-- The table of some keys with their values. -/
def ofPairs? (pairs : List (List String × Toml)) : Option Members :=
  pairs.foldlM (fun members pair => insertKey .inline members pair.1 pair.2) []

end MetricRelay.Toml
