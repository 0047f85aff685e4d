/-
**Which metrics a report shows.**

A `Filter` decides by the name and the kind of a metric. `Filter.names` is made from patterns that
are looked for in the name: a metric is shown when one of the wanted patterns occurs in it, or when
none is given, and no unwanted pattern does.
-/

import MetricRelay.Failure
import MetricRelay.Metric.Kind
import MetricRelay.Pattern.Compile

namespace MetricRelay

/-- Decides which metrics a report shows. -/
structure Filter where
  accepts : String → MetricKind → Bool

/-- The texts of the patterns of a filter. -/
structure FilterPatterns where
  wanted : List String := []
  unwanted : List String := []
  deriving DecidableEq, Repr

namespace FilterPatterns

/-- There is no pattern at all. -/
def isEmpty (patterns : FilterPatterns) : Bool :=
  patterns.wanted.isEmpty && patterns.unwanted.isEmpty

/-- A pattern that does not compile. -/
structure Refusal where
  pattern : String
  fault : Pattern.Fault
  deriving DecidableEq, Repr

/-- Compiles patterns; the first one that does not compile is named. -/
def compileAll : List String → Except Refusal (List Pattern)
  | [] => .ok []
  | text :: rest =>
    match Pattern.compile text with
    | .error fault => .error ⟨text, fault⟩
    | .ok pattern => (compileAll rest).map (pattern :: ·)

/-- Compiles the wanted patterns, then the unwanted ones. -/
def compile (patterns : FilterPatterns) : Except Refusal (List Pattern × List Pattern) := do
  let wanted ← compileAll patterns.wanted
  let unwanted ← compileAll patterns.unwanted
  return (wanted, unwanted)

end FilterPatterns

namespace Filter

/-- Shows every metric. -/
def everything : Filter := ⟨fun _ _ => true⟩

/-- Shows the metrics of some kinds. -/
def kinds (kinds : List MetricKind) : Filter := ⟨fun _ kind => kinds.contains kind⟩

/-- Shows the metrics whose name holds a wanted pattern and no unwanted one. -/
def names (wanted unwanted : List Pattern) : Filter :=
  ⟨fun name _ =>
    (wanted.isEmpty || wanted.any fun pattern => pattern.occursIn name) &&
      !unwanted.any fun pattern => pattern.occursIn name⟩

/-- The filter that some patterns describe, unless one of them cannot be used. -/
def ofPatterns (patterns : FilterPatterns) : Except FilterPatterns.Refusal Filter :=
  patterns.compile.map fun compiled => names compiled.1 compiled.2

end Filter

end MetricRelay
