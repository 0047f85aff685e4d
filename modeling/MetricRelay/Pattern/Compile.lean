/-
**Compiled patterns.**

A pattern is a text in a language for sets of texts: literal characters, classes, repetitions,
groups and choices, and requirements on what stands before and after a place.

* `Pattern.compile`: the pattern in a text, or why there is none;
* `Pattern.occursIn`: some part of a text matches the pattern.
-/

import MetricRelay.Pattern.Group
import MetricRelay.Pattern.Size

namespace MetricRelay

/-- A compiled pattern. -/
structure Pattern where
  expr : Pattern.Expr Pattern.Leaf

namespace Pattern

/-- Why a text is no pattern. -/
inductive Fault where
  | malformed
  | tooLarge
  deriving DecidableEq, Repr

/-- What is said of a pattern that cannot be used. -/
def Fault.message : Fault → String
  | malformed => "regex parse error: the pattern is malformed"
  | tooLarge => "Compiled regex exceeds size limit of " ++ toString Draft.limit ++ " bytes."

/-- The pattern that a text describes, or what is wrong with it. -/
def compile (text : String) : Except Fault Pattern :=
  match Reading.expr? text.toList with
  | none => .error .malformed
  | some expr => if Plan.isWithinLimit expr then .ok ⟨expr⟩ else .error .tooLarge

/-- Some part of a text matches. -/
def occursIn (pattern : Pattern) (text : String) : Bool :=
  pattern.expr.occursIn text

end Pattern

end MetricRelay
