/-
**Patterns in normal form.**

A pattern is put together from parts by functions that keep it in a normal form: sequences and
choices nest to the right and hold none of their own kind, characters in a row are one literal, a
choice between characters is a set, and what all branches of a choice begin with stands before it.

* `Expr.ofSet`, `Expr.sequence`, `Expr.choice`, `Expr.repeated`: patterns from their parts.
-/

import MetricRelay.Pattern.Extent

namespace MetricRelay.Pattern.Expr

open Unicode (CharSet)

/-- The parts of a sequence. -/
def parts {α : Type} : Expr α → List (Expr α)
  | nothing => []
  | both first rest => first :: parts rest
  | other => [other]

/-- The branches of a choice. -/
def branches {α : Type} : Expr α → List (Expr α)
  | either first rest => first :: branches rest
  | other => [other]

/-- One character of a set. No character is the same in both kinds of sets, and a single one is a
literal. -/
def ofSet (set : CharSet) (isBytes : Bool) : Expr Leaf :=
  match set.ranges with
  | [] => leaf (.chars set true)
  | [(first, last)] =>
    if first = last then leaf (.literal [Char.ofNat first]) else leaf (.chars set isBytes)
  | _ => leaf (.chars set isBytes)

/-- Parts in a row, of which literals next to each other are one. -/
def joinLiterals (parts : List (Expr Leaf)) : List (Expr Leaf) :=
  parts.foldr (fun part rest =>
    match part, rest with
    | leaf (.literal text), leaf (.literal further) :: rest =>
      leaf (.literal (text ++ further)) :: rest
    | part, rest => part :: rest) []

/-- The sequence of some parts, as it nests. -/
def ofParts {α : Type} : List (Expr α) → Expr α
  | [] => nothing
  | [part] => part
  | part :: rest => both part (ofParts rest)

/-- Some patterns in a row. -/
def sequence (exprs : List (Expr Leaf)) : Expr Leaf :=
  ofParts (joinLiterals (exprs.flatMap parts))

/-- The set of one character, if the pattern is that character. -/
def char? : Expr Leaf → Option CharSet
  | leaf (.literal [c]) => some (.single c.toNat)
  | _ => none

/-- The set that a character is taken from. -/
def set? : Expr Leaf → Option CharSet
  | leaf (.chars set _) => some set
  | _ => none

/-- The choice between some branches, as it nests; without a branch nothing matches. -/
def ofBranches : List (Expr Leaf) → Expr Leaf
  | [] => ofSet .empty true
  | [branch] => branch
  | branch :: rest => either branch (ofBranches rest)

/-- One of some branches; characters only, or sets only, are a set together. -/
def unite (branches : List (Expr Leaf)) : Expr Leaf :=
  match branches with
  | [branch] => branch
  | branches =>
    match branches.mapM char? <|> branches.mapM set? with
    | some sets => ofSet (.unionAll sets) false
    | none => ofBranches branches

/-- What two lists begin with. -/
def sharedBy {α : Type} [DecidableEq α] : List α → List α → List α
  | first :: rest, other :: others => if first = other then first :: sharedBy rest others else []
  | _, _ => []

/-- The parts of a sequence of at least two. -/
def severalParts? : Expr Leaf → Option (List (Expr Leaf))
  | both first rest => some (first :: parts rest)
  | _ => none

/-- What all branches begin with, and what follows in each of them, if they begin alike. -/
def shared? (branches : List (Expr Leaf)) :
    Option (List (Expr Leaf) × List (List (Expr Leaf))) := do
  match ← branches.mapM severalParts? with
  | first :: second :: rest =>
    let common := (second :: rest).foldl sharedBy first
    if common.isEmpty then none
    else return (common, (first :: second :: rest).map (·.drop common.length))
  | _ => none

/-- A choice between some patterns. What all of them begin with stands before it. -/
def choice (exprs : List (Expr Leaf)) : Expr Leaf :=
  let all := exprs.flatMap branches
  match shared? all with
  | some (common, rests) => sequence (common ++ [unite ((rests.map sequence).flatMap branches)])
  | none => unite all

/-- A repetition. What takes no byte is taken once at most. -/
def repeated (inner : Expr Leaf) (least : Nat) (most : Option Nat) (isLazy : Bool) : Expr Leaf :=
  let isEmpty := (inner.extent Leaf.extent).isEmpty
  let least := if isEmpty then min least 1 else least
  let most := if isEmpty then some (min (most.getD 1) 1) else most
  if most = some 0 then nothing
  else if least = 1 ∧ most = some 1 then inner
  else many inner least most isLazy

end MetricRelay.Pattern.Expr
