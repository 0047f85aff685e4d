/-
**JSON values.**

A `Json` is a value as it is written or read. Numbers come in two kinds: whole numbers that 64 bits
hold, and doubles. `Json.faulty` stands for a leaf that is spelled correctly and denotes nothing: a
number beyond every double, or a text with half of a surrogate pair. A reader never accepts it, but
it may stand in a part that nobody reads.
-/

namespace MetricRelay

/-- A JSON value. -/
inductive Json where
  | null
  | bool (value : Bool)
  | int (value : Int)
  | float (value : Float)
  | text (value : String)
  | array (items : List Json)
  | object (members : List (String × Json))
  | faulty
  deriving Inhabited

namespace Json

mutual

/-- The value and all its parts denote something, and containers are nested at most `room` deep. -/
def isSound (room : Nat) : Json → Bool
  | null | bool _ | int _ | float _ | text _ => true
  | array items => 0 < room && areSound (room - 1) items
  | object members => 0 < room && areSoundMembers (room - 1) members
  | faulty => false

/-- `isSound` for the items of an array. -/
def areSound (room : Nat) : List Json → Bool
  | [] => true
  | item :: rest => item.isSound room && areSound room rest

/-- `isSound` for the members of an object. -/
def areSoundMembers (room : Nat) : List (String × Json) → Bool
  | [] => true
  | (_, value) :: rest => value.isSound room && areSoundMembers room rest

end

/-- The greatest number of containers around a value that is read. -/
def maxDepth : Nat := 127

end Json

end MetricRelay
