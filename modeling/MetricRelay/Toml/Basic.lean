/-
**TOML values.**

A `Toml` is a value as it is written in a settings file. Tables remember how they came about, since
that decides what may still be added to them: by braces, by a header, on the way to another header,
or on the way to a dotted key. Numbers with a fraction and moments in time keep nothing but their
sort; no setting is one of them.
-/

namespace MetricRelay

/-- How a table came about. -/
inductive Toml.Origin where
  /-- It was written between braces. -/
  | inline
  /-- It has a header of its own. -/
  | header
  /-- It was passed on the way to another header. -/
  | passed
  /-- It was passed by a dotted key. -/
  | dotted
  deriving DecidableEq, Repr

/-- A TOML value. -/
inductive Toml where
  | text (value : String)
  | integer (value : Int)
  | float
  | bool (value : Bool)
  | moment
  | array (items : List Toml)
  | table (origin : Toml.Origin) (members : List (String × Toml))
  /-- The tables with one header in double brackets, from the first to the last. -/
  | tables (items : List Toml)
  deriving Inhabited

namespace Toml

/-- Named values in the order in which they were written. -/
abbrev Members := List (String × Toml)

end Toml

end MetricRelay
