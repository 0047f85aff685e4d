/-
**TOML texts.**

A text is a list of lines that count: keys with their values, and headers. The keys after a header
belong to its table.

* `Toml.lines`: reads the lines of a text;
* `Toml.ofLines?`: the table that they describe;
* `Toml.parse?`: the table of a text.

Arrays and tables between braces are nested less than eighty deep.
-/

import MetricRelay.Toml.Number
import MetricRelay.Toml.Table

namespace MetricRelay.Toml

open Text (Reader)
open Text.Reader

/-- A list between brackets; a comma may follow the last item. -/
def list (item : Reader Toml) : Reader Toml := do
  char '['
  gap
  let items ← maybe (separated (do char ','; gap) (do let value ← item; gap; return value))
  let _ ← match items with
    | some _ => maybe (char ',')
    | none => pure none
  gap
  char ']'
  return .array (items.getD [])

/-- Reads a key with its value. -/
def pair (value : Reader Toml) : Reader (List String × Toml) := do
  let key ← key
  char '='
  blanks
  let value ← value
  return (key, value)

/-- Reads a table between braces. -/
def inlineTable (value : Reader Toml) : Reader Toml := do
  char '\x7b'
  blanks
  let pairs ← maybe (separated (char ',') (do let found ← pair value; blanks; return found))
  blanks
  char '\x7d'
  match ofPairs? (pairs.getD []) with
  | some members => return .table .inline members
  | none => failure

/-- Reads a truth value. -/
def truth : Reader Toml :=
  (do word ['t', 'r', 'u', 'e']; return .bool true) <|>
    (do word ['f', 'a', 'l', 's', 'e']; return .bool false)

/-- Reads a value that holds no others. -/
def leaf : Reader Toml := do
  match ← peek with
  | some '"' | some '\'' => return .text (← quoted)
  | _ => truth <|> numeric

/-- A value, with at most `depth` arrays and tables inside each other. -/
def valueWithin : Nat → Reader Toml
  | 0 => leaf
  | depth + 1 => do
    match ← peek with
    | some '[' => list (valueWithin depth)
    | some '\x7b' => inlineTable (valueWithin depth)
    | _ => leaf

/-- How deep arrays and tables between braces are nested at most. -/
def maxDepth : Nat := 79

/-- A line that counts. -/
inductive Line where
  | pair (key : List String) (value : Toml)
  /-- The header of a table. -/
  | header (path : List String)
  /-- The header of one more table of several. -/
  | element (path : List String)

/-- The end of a line, with a comment perhaps, or of the text. -/
def lineRest : Reader Unit := do
  blanks
  let _ ← maybe comment
  lineEnd <|> atEnd

/-- Reads a header, in single or in double brackets. -/
def header : Reader Line := do
  let rest ← get
  if ['[', '['].isPrefixOf rest then
    word ['[', '[']
    let path ← key
    word [']', ']']
    return .element path
  else
    char '['
    let path ← key
    char ']'
    return .header path

/-- A line of a text, `none` if it does not count. -/
def line : Reader (Option Line) := do
  blanks
  match ← peek with
  | some '#' => do
    comment
    lineEnd <|> atEnd
    return none
  | some '\n' | some '\r' => do
    lineEnd
    return none
  | some '[' => do
    let found ← header
    lineRest
    return some found
  | _ => do
    let (key, value) ← pair (valueWithin maxDepth)
    lineRest
    return some (.pair key value)

/-- The lines of a text that count. A byte order mark at the beginning does not. -/
def lines : Reader (List Line) := do
  let _ ← maybe (char '\ufeff')
  let found ← collect line
  blanks
  return found.filterMap id

/-- Where keys are put. -/
inductive Place where
  | top
  | table (path : List String)
  | element (path : List String)

/-- A text that has been read in part: the finished tables, and the one that keys are put into. -/
structure Draft where
  finished : Members := []
  current : Members := []
  place : Place := .top

namespace Draft

/-- Puts a finished table under a name that is free. -/
def settle (members : Members) (name : String) (_ : Origin) (siblings : Members) :
    Option (Members × Unit) :=
  if (siblings.lookup name).isNone then some (siblings ++ [(name, .table .header members)], ())
  else none

/-- Puts one more table to those with the same header. -/
def settleElement (members : Members) (name : String) (_ : Origin) (siblings : Members) :
    Option (Members × Unit) :=
  match siblings.lookup name with
  | none => some (siblings ++ [(name, .tables [.table .header members])], ())
  | some (.tables items) =>
    some (replace name (.tables (items ++ [.table .header members])) siblings, ())
  | some _ => none

/-- The finished tables together with the current one. -/
def finish? (draft : Draft) : Option Members := do
  match draft.place with
  | .top => return draft.current
  | .table path =>
    let name ← path.getLast?
    let (members, _) ←
      descend false (settle draft.current name) path.dropLast .header draft.finished
    return members
  | .element path =>
    let name ← path.getLast?
    let (members, _) ←
      descend false (settleElement draft.current name) path.dropLast .header draft.finished
    return members

/-- Takes out the table that a header names, which may only have been passed before. -/
def claim (name : String) (_ : Origin) (siblings : Members) : Option (Members × Members) :=
  match siblings.lookup name with
  | none => some (siblings, [])
  | some (.table .passed members) => some (siblings.filter fun member => member.1 != name, members)
  | some _ => none

/-- Checks that a header in double brackets does not name something else. -/
def claimElement (name : String) (_ : Origin) (siblings : Members) : Option (Members × Unit) :=
  match siblings.lookup name with
  | none | some (.tables _) => some (siblings, ())
  | some _ => none

/-- One more line. A header finishes the table before it and claims the one that it names. -/
def step? (draft : Draft) : Line → Option Draft
  | .pair key value => do
    return { draft with current := ← insertKey .header draft.current key value }
  | .header path => do
    let finished ← draft.finish?
    let name ← path.getLast?
    let (finished, current) ← descend false (claim name) path.dropLast .header finished
    return { finished, current, place := .table path }
  | .element path => do
    let finished ← draft.finish?
    let name ← path.getLast?
    let (finished, _) ← descend false (claimElement name) path.dropLast .header finished
    return { finished, current := [], place := .element path }

end Draft

/-- The table that some lines describe, unless they contradict each other. -/
def ofLines? (lines : List Line) : Option Members :=
  (lines.foldlM Draft.step? ({} : Draft)).bind Draft.finish?

/-- The table of a text. -/
def parse? (text : String) : Option Members :=
  (whole? lines text.toList).bind ofLines?

end MetricRelay.Toml
