/-
**The values of a row: a tree of named values.**

A `Record` lists its entries in the order of their names; an entry is a leaf with a value or a node
with a record of its own. A path names a leaf by the names on the way to it.

* `Record.merge`: sets the value at a path and says what it did. A path that would turn a leaf into
  a node, or a node into a leaf, changes nothing;
* `Record.find`: what stands at a path;
* `Record.leaves`: the paths of all leaves with their values.
-/

import MetricRelay.Json.Basic

namespace MetricRelay

/-- Named values, in the order of the names. -/
inductive Record (α : Type) where
  | nil
  | leaf (key : String) (value : α) (rest : Record α)
  | node (key : String) (children : Record α) (rest : Record α)
  deriving Inhabited

/-- What setting a value did. -/
inductive MergeOutcome where
  /-- A new leaf was written. -/
  | inserted
  /-- A leaf got another value. -/
  | replaced
  /-- The path runs through a leaf or ends at a node. -/
  | conflict
  /-- The path is empty. -/
  | emptyPath
  deriving DecidableEq, Repr

namespace MergeOutcome

/-- The value was written. -/
def isWritten : MergeOutcome → Bool
  | inserted | replaced => true
  | conflict | emptyPath => false

end MergeOutcome

/-- What stands at a path. -/
inductive Place (α : Type) where
  | missing
  | leaf (value : α)
  | node (children : Record α)

namespace Record

variable {α β : Type}

/-- There is no entry. -/
def isEmpty : Record α → Bool
  | nil => true
  | _ => false

/-- Puts a new path in front of a record. -/
def graft (key : String) : List String → α → Record α → Record α
  | [], value, rest => leaf key value rest
  | next :: path, value, rest => node key (graft next path value nil) rest

/-- Sets the value at a path that begins with `key`. -/
def mergeAt : Record α → String → List String → α → Record α × MergeOutcome
  | nil, key, path, value => (graft key path value nil, .inserted)
  | leaf other held rest, key, path, value =>
    if key < other then (graft key path value (leaf other held rest), .inserted)
    else if key = other then
      match path with
      | [] => (leaf other value rest, .replaced)
      | _ :: _ => (leaf other held rest, .conflict)
    else
      let (rest, outcome) := mergeAt rest key path value
      (leaf other held rest, outcome)
  | node other children rest, key, path, value =>
    if key < other then (graft key path value (node other children rest), .inserted)
    else if key = other then
      match path with
      | [] => (node other children rest, .conflict)
      | next :: path =>
        let (children, outcome) := mergeAt children next path value
        (node other children rest, outcome)
    else
      let (rest, outcome) := mergeAt rest key path value
      (node other children rest, outcome)

/-- Sets the value at a path. -/
def merge (record : Record α) : List String → α → Record α × MergeOutcome
  | [], _ => (record, .emptyPath)
  | key :: path, value => mergeAt record key path value

/-- What stands at a path that begins with `key`. -/
def findAt : Record α → String → List String → Place α
  | nil, _, _ => .missing
  | leaf other value rest, key, path =>
    if key = other then
      match path with
      | [] => .leaf value
      | _ :: _ => .missing
    else findAt rest key path
  | node other children rest, key, path =>
    if key = other then
      match path with
      | [] => .node children
      | next :: path => findAt children next path
    else findAt rest key path

/-- What stands at a path; nothing stands at the empty path. -/
def find (record : Record α) : List String → Place α
  | [] => .missing
  | key :: path => findAt record key path

/-- How many leaves the record has. -/
def leafCount : Record α → Nat
  | nil => 0
  | leaf _ _ rest => 1 + leafCount rest
  | node _ children rest => leafCount children + leafCount rest

/-- The paths of the leaves and their values, in order. -/
def leaves : Record α → List (List String × α)
  | nil => []
  | leaf key value rest => ([key], value) :: leaves rest
  | node key children rest =>
    (leaves children).map (fun entry => (key :: entry.1, entry.2)) ++ leaves rest

/-- The record with every value replaced. -/
def map (f : α → β) : Record α → Record β
  | nil => nil
  | leaf key value rest => leaf key (f value) (map f rest)
  | node key children rest => node key (map f children) (map f rest)

/-- The JSON members of a record. -/
def members (value : α → Json) : Record α → List (String × Json)
  | nil => []
  | leaf key held rest => (key, value held) :: members value rest
  | node key children rest => (key, .object (members value children)) :: members value rest

/-- The JSON form of a record: an object, nested like the record. -/
def toJson (value : α → Json) (record : Record α) : Json :=
  .object (record.members value)

/-- Only the record without entries is empty. -/
theorem isEmpty_iff {record : Record α} : record.isEmpty = true ↔ record = nil := by
  cases record <;> simp [isEmpty]

/-- As many leaves are listed as are counted. -/
theorem length_leaves (record : Record α) : record.leaves.length = record.leafCount := by
  induction record with
  | nil => rfl
  | leaf key value rest ih => simp [leaves, leafCount, ih, Nat.add_comm]
  | node key children rest ihChildren ihRest => simp [leaves, leafCount, ihChildren, ihRest]

end Record

end MetricRelay
