/-
**Tables of code points as texts.**

A table is a text of runs, from U+0000 on: a mark that says what the code points of a run have in
common, and their number.
-/

import MetricRelay.Text.Integer
import MetricRelay.Text.Reader
import MetricRelay.Unicode.CharSet

namespace MetricRelay.Unicode

open Text (Reader)
open Text.Reader

/-- A run of code points with one mark. -/
structure Run where
  mark : String
  first : Nat
  length : Nat
  deriving Repr

namespace Run

/-- Reads the mark of a run and its length. -/
def entry : Reader (String × Nat) := do
  let mark ← someRun fun c => !c.isDigit
  let length ← someRun Char.isDigit
  return (String.ofList mark, Text.digitsValue length)

/-- Runs one after the other, from a code point on. -/
def place (first : Nat) : List (String × Nat) → List Run
  | [] => []
  | (mark, length) :: rest => ⟨mark, first, length⟩ :: place (first + length) rest

/-- The runs of a table. A text that is no table has none. -/
def list (table : String) : List Run :=
  place 0 ((whole? (collect entry) table.toList).getD [])

/-- The code points whose mark passes a test. -/
def among (runs : List Run) (test : String → Bool) : CharSet :=
  .ofRanges ((runs.filter fun run => test run.mark).map fun run =>
    (run.first, run.first + run.length - 1))

/-- The code points of a table that are marked by a plus. -/
def set (table : String) : CharSet :=
  among (list table) (· == "+")

end Run

end MetricRelay.Unicode
