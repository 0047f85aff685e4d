/-
**Settings from files.**

A file whose name ends in `.json`, in any letter case, holds JSON, every other one TOML.

* `Settings.load`: reads a file;
* `Settings.resolve`: finds the file to read. A file that is named explicitly comes before one that
  the environment names, and both have to be there; the file in the user's directory for settings is
  read if it exists. The settings that are found are checked.
-/

import MetricRelay.Disk.Basic
import MetricRelay.Json.Parser
import MetricRelay.Json.Reader
import MetricRelay.Settings.Document
import MetricRelay.Toml.Document

namespace MetricRelay

instance : Document Json where
  text? := Json.text?
  integer? := fun value =>
    match value with
    | .int n => some n
    | _ => none
  items? := Json.items?
  members? := Json.members?
  choice? := Json.choice?
  isAbsent := fun value =>
    match value with
    | .null => true
    | _ => false
  isSound := fun depth value => value.isSound (Json.maxDepth - depth)
  allowsExtraItems := false

namespace Toml

/-- The name under which a moment is the only member of a table. -/
def momentName : String := "$moment"

/-- A text. -/
def text? : Toml → Option String
  | text value => some value
  | _ => none

/-- A whole number. -/
def integer? : Toml → Option Int
  | integer value => some value
  | _ => none

/-- The items of an array, or the tables with one header. -/
def items? : Toml → Option (List Toml)
  | array items | tables items => some items
  | _ => none

/-- The members of a table; a moment is a table with one member. -/
def members? : Toml → Option Members
  | table _ members => some members
  | moment => some [(momentName, .text "")]
  | _ => none

/-- There is nothing in the value. -/
def isEmpty : Toml → Bool
  | array items | tables items => items.isEmpty
  | table _ members => members.isEmpty
  | _ => false

/-- The name of a choice without data: a text, or the only member of a table, which has no part. -/
def choice? : Toml → Option String
  | text name => some name
  | table _ [(name, value)] => if value.isEmpty then some name else none
  | _ => none

instance : Document Toml where
  text? := text?
  integer? := integer?
  items? := items?
  members? := members?
  choice? := choice?
  isAbsent := fun _ => false
  isSound := fun _ _ => true
  allowsExtraItems := true

end Toml

namespace Settings

/-- The file is read as JSON; every other one is read as TOML. -/
def isJsonPath (path : Path) : Bool :=
  match path.extension? with
  | some ending => ending.map Char.toLower == ['j', 's', 'o', 'n']
  | none => false

/-- The settings of a JSON text. What is missing is as in the standard ones. -/
def ofJsonText? (standard : Settings) (text : String) : Option Settings :=
  (Json.parse? text).bind (ofDocument? standard)

/-- The settings of a TOML text. What is missing is as in the standard ones. -/
def ofTomlText? (standard : Settings) (text : String) : Option Settings :=
  (Toml.parse? text).bind fun members => ofDocument? standard (Toml.table .header members)

/-- The settings of a file, or why it holds none. -/
def load (disk : Disk) (standard : Settings) (path : Path) : Except SettingsError Settings :=
  match (disk.read? path).bind String.fromUTF8? with
  | none => .error (.unreadable path "no text can be read")
  | some text =>
    if isJsonPath path then
      match ofJsonText? standard text with
      | some settings => .ok settings
      | none => .error (.malformedJson path "these are no settings")
    else
      match ofTomlText? standard text with
      | some settings => .ok settings
      | none => .error (.malformedToml path "these are no settings")

/-- Where settings came from. -/
inductive Source where
  | explicit (path : Path)
  | environment (path : Path)
  | directory (path : Path)
  | standard
  deriving DecidableEq, Repr

/-- The file with settings below the directory for settings. -/
def fileBelow (directory : Path) : Path :=
  (directory.join ⟨"execmetrics"⟩).join ⟨"config.toml"⟩

/-- The source of the settings, of those that are given. -/
def source (disk : Disk) (explicit environment directory : Option Path) : Source :=
  match explicit, environment, directory with
  | some path, _, _ => .explicit path
  | none, some path, _ => .environment path
  | none, none, some directory =>
    if disk.isFile (fileBelow directory) then .directory (fileBelow directory) else .standard
  | none, none, none => .standard

/-- The settings of a source. -/
def ofSource (disk : Disk) (standard : Settings) : Source → Except SettingsError Settings
  | .explicit path | .environment path | .directory path => load disk standard path
  | .standard => .ok standard

/-- The settings that stand where they are looked for first, and where that is. They are checked,
too. -/
def resolve (disk : Disk) (standard : Settings) (explicit environment directory : Option Path) :
    Except SettingsError (Settings × Source) := do
  let source := source disk explicit environment directory
  let settings ← ofSource disk standard source
  settings.check
  return (settings, source)

end Settings

end MetricRelay
