/-
**Settings in a document.**

Settings can be written in several formats. `Document` says what is read from a value of a format,
and `Settings.ofDocument?` reads settings from it: what is not said keeps its standard value, and
members with other names are ignored.

The sink is chosen by its member `kind`, or by the first item of an array; all parts of its value
must denote something, read or not.
-/

import MetricRelay.Fields
import MetricRelay.Settings.Basic

namespace MetricRelay

/-- The values of a format in which settings are written. -/
class Document (α : Type) where
  text? : α → Option String
  integer? : α → Option Int
  items? : α → Option (List α)
  members? : α → Option (List (String × α))
  /-- The name of a choice without data. -/
  choice? : α → Option String
  /-- The value says that there is none. -/
  isAbsent : α → Bool
  /-- All parts of a value denote something, inside so many containers. -/
  isSound : Nat → α → Bool
  /-- An array may have more items than the record it stands for has fields. -/
  allowsExtraItems : Bool

namespace Document

variable {α : Type} [Document α]

/-- The fields of a record: members by name, or items in the order of the names. -/
def fields? (names : List String) (value : α) : Option (List (String × α)) :=
  match members? value, items? value with
  | some members, _ => Fields.known? names members
  | none, some items =>
    if items.length ≤ names.length || allowsExtraItems α then some (names.zip items) else none
  | none, none => none

/-- A natural number up to a bound. -/
def natural? (bound : Nat) (value : α) : Option Nat :=
  match integer? value with
  | some n => if 0 ≤ n ∧ n ≤ bound then some n.toNat else none
  | none => none

/-- A list of texts. -/
def texts? (value : α) : Option (List String) := do
  (← items? value).mapM text?

/-- A path. -/
def path? (value : α) : Option Path :=
  (text? value).map Path.mk

/-- A text, or nothing. -/
def maybeText? (value : α) : Option (Option String) :=
  if isAbsent value then some none else (text? value).map some

end Document

open Document

variable {α : Type} [Document α]

namespace SinkChoice

/-- Reads the choice of a sink from its kind and the fields of that kind. -/
def ofFields? (kind : String) (fields : List (String × α)) : Option SinkChoice :=
  match kind with
  | "durable_log" => (Fields.required path? fields "directory").map durableLog
  | "publish" => do
    return publish (← Fields.required text? fields "host")
      (← Fields.optional (natural? 65535) fields "port" defaultPort)
  | _ => none

/-- The names of the fields of the choice with a name. -/
def names : String → List String
  | "durable_log" => ["directory"]
  | "publish" => ["host", "port"]
  | _ => []

/-- Reads the choice of a sink: from an object by names, with the kind among them, or from an array
that begins with the kind. -/
def ofDocument? (value : α) : Option SinkChoice :=
  if isSound 1 value then
    match members? value, items? value with
    | some members, _ => do
      let tag ← Fields.known? ["kind"] members
      let kind ← Fields.required text? tag "kind"
      ofFields? kind (← Fields.known? (names kind) members)
    | none, some (first :: items) => do
      let kind ← text? first
      if items.length ≤ (names kind).length then ofFields? kind ((names kind).zip items) else none
    | _, _ => none
  else none

end SinkChoice

namespace FilterPatterns

/-- Reads patterns. Where a list of them is missing, there are none. -/
def ofDocument? (value : α) : Option FilterPatterns := do
  let fields ← fields? ["include", "exclude"] value
  return {
    wanted := ← Fields.optional texts? fields "include" []
    unwanted := ← Fields.optional texts? fields "exclude" [] }

end FilterPatterns

namespace Settings

/-- The names of the settings in a document. -/
def names : List String :=
  ["sink", "rate_unit", "duration_unit", "filter", "value_mode", "sync_every", "hostname"]

/-- A unit, by its name in the plural. -/
def unit? (value : α) : Option TimeUnit :=
  (choice? value).bind TimeUnit.ofPlural?

/-- A mode, by its name. -/
def mode? (value : α) : Option ValueMode :=
  (choice? value).bind ValueMode.ofName?

/-- Reads settings; what is not said is taken from `standard`. -/
def ofDocument? (standard : Settings) (value : α) : Option Settings := do
  let fields ← fields? names value
  return {
    sink := ← Fields.optional SinkChoice.ofDocument? fields "sink" standard.sink
    units := {
      rate := ← Fields.optional unit? fields "rate_unit" standard.units.rate
      duration := ← Fields.optional unit? fields "duration_unit" standard.units.duration }
    filter := ← Fields.optional FilterPatterns.ofDocument? fields "filter" standard.filter
    mode := ← Fields.optional mode? fields "value_mode" standard.mode
    syncEvery := ← Fields.optional (natural? 18446744073709551615) fields "sync_every"
      standard.syncEvery
    hostname := ← Fields.optional maybeText? fields "hostname" standard.hostname }

end Settings

end MetricRelay
