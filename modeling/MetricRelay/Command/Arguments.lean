/-
**The arguments of a run.**

A run is told what to do by a command, which may have a command of its own, and by options before
and after it. An option has a long name, some have a short one too, and those with a value take it
from behind an equals sign, from the rest of a cluster of short names, or from the next argument,
unless that one begins with a dash. An option is given at most once for each command, except for the
one that counts; where it is given for several commands, the innermost one decides.

* `Arguments.parse`: what the arguments ask for, or why they ask for nothing.
-/

import MetricRelay.Command.LogLevel
import MetricRelay.Disk.Path

namespace MetricRelay

/-- The options. -/
inductive CliOption where
  | settings
  | logFormat
  | verbose
  | quiet
  | help
  | version
  | input
  | directory
  | dryRun
  | hostname
  deriving DecidableEq, Repr

/-- The commands. -/
inductive CliCommand where
  | top
  | replay
  | config
  | printSettings
  | printSchema
  | checkSettings
  deriving DecidableEq, Repr

/-- How messages are written. -/
inductive LogFormat where
  | text
  | json
  deriving DecidableEq, Repr

/-- Why nothing is run. -/
inductive Halt where
  /-- A description of the arguments is asked for. -/
  | help
  /-- The version is asked for. -/
  | version
  /-- The arguments cannot be understood. -/
  | misuse (reason : String)
  deriving DecidableEq, Repr

namespace CliOption

/-- The long name, without its dashes. -/
def long : CliOption → String
  | settings => "config"
  | logFormat => "log-format"
  | verbose => "verbose"
  | quiet => "quiet"
  | help => "help"
  | version => "version"
  | input => "input"
  | directory => "directory"
  | dryRun => "dry-run"
  | hostname => "hostname"

/-- The short name, without its dash, if there is one. -/
def short? : CliOption → Option Char
  | verbose => some 'v'
  | quiet => some 'q'
  | help => some 'h'
  | version => some 'V'
  | input => some 'i'
  | _ => none

/-- The option stands before a value. -/
def takesValue : CliOption → Bool
  | settings | logFormat | input | directory | hostname => true
  | verbose | quiet | help | version | dryRun => false

/-- The option can be given several times, and is counted. -/
def isCounted (option : CliOption) : Bool := option == verbose

/-- The value can be used: a path is not empty, and a format has a name. -/
def accepts (option : CliOption) (value : String) : Bool :=
  match option with
  | settings | input | directory => value != ""
  | logFormat => value == "text" || value == "json"
  | _ => true

end CliOption

namespace CliCommand

/-- The options that every command has. -/
def shared : List CliOption := [.settings, .logFormat, .verbose, .quiet, .help]

/-- The options of a command. -/
def options : CliCommand → List CliOption
  | top => .version :: shared
  | replay => [.input, .directory, .dryRun, .hostname] ++ shared
  | _ => shared

/-- The commands of a command, by their names. -/
def commands : CliCommand → List (String × CliCommand)
  | top => [("replay", replay), ("config", config)]
  | config =>
    [("show", printSettings), ("schema", printSchema), ("validate", checkSettings)]
  | _ => []

/-- The command asks for one of its own. -/
def isIncomplete (command : CliCommand) : Bool := !command.commands.isEmpty

/-- What a request to describe a command leads to: the words are the way to it. -/
def describe (command : CliCommand) : List String → Halt
  | [] => .help
  | word :: rest =>
    match command.commands.lookup word with
    | some inner => describe inner rest
    | none =>
      if command.isIncomplete && word == "help" && rest.isEmpty then .help
      else .misuse ("unrecognized command '" ++ word ++ "'")

end CliCommand

/-- The options of one command with their values, from the first to the last; an option without a
value has an empty one. -/
abbrev Given := List (CliOption × String)

namespace Given

/-- Takes one more option with its value. An option that is not counted is refused when it is given
again, and so is a value that the option cannot have. -/
def add (given : Given) (option : CliOption) (value : String) : Except Halt Given :=
  match option with
  | .help => .error .help
  | .version => .error .version
  | option =>
    if !option.accepts value then
      .error (.misuse ("invalid value '" ++ value ++ "' for --" ++ option.long))
    else if !option.isCounted && given.any fun entry => entry.1 == option then
      .error (.misuse ("--" ++ option.long ++ " cannot be used several times"))
    else .ok (given ++ [(option, value)])

/-- The value of an option that was given; of one that was counted, the last one. -/
def value? (given : Given) (option : CliOption) : Option String :=
  given.reverse.lookup option

/-- The option was given. -/
def has (given : Given) (option : CliOption) : Bool :=
  given.any fun entry => entry.1 == option

/-- How often the option was given. -/
def count (given : Given) (option : CliOption) : Nat :=
  given.countP fun entry => entry.1 == option

end Given

namespace CliCommand

/-- What a cluster of short names says: the options, and one that still needs its value. -/
def cluster (command : CliCommand) (given : Given) :
    List Char → Except Halt (Given × Option CliOption)
  | [] => .ok (given, none)
  | c :: rest =>
    match command.options.find? fun option => option.short? == some c with
    | none => .error (.misuse ("unexpected argument '-" ++ String.singleton c ++ "'"))
    | some option =>
      if option.takesValue then
        match rest with
        | [] => .ok (given, some option)
        | '=' :: value => (given.add option (String.ofList value)).map (·, none)
        | value => (given.add option (String.ofList value)).map (·, none)
      else
        match given.add option "" with
        | .ok given => cluster command given rest
        | .error halt => .error halt

/-- What a long name says, with a value behind an equals sign perhaps. -/
def longName (command : CliCommand) (given : Given) (text : List Char) :
    Except Halt (Given × Option CliOption) :=
  let name := String.ofList (text.takeWhile (· != '='))
  let attached := text.dropWhile (· != '=')
  match command.options.find? fun option => option.long == name with
  | none => .error (.misuse ("unexpected argument '--" ++ name ++ "'"))
  | some option =>
    match option.takesValue, attached with
    | true, [] => .ok (given, some option)
    | true, _ :: value => (given.add option (String.ofList value)).map (·, none)
    | false, [] => (given.add option "").map (·, none)
    | false, _ :: _ => .error (.misuse ("unexpected value for '--" ++ name ++ "'"))

/-- The argument is an option. A dash alone is a value. -/
def isOption (argument : String) : Bool :=
  argument.toList.head? == some '-' && argument != "-"

/-- Reads the arguments of a command, up to the name of a command of its own. An option may be
waiting for its value. -/
def scan (command : CliCommand) (given : Given) (waiting : Option CliOption) :
    List String → Except Halt (Given × Option (CliCommand × List String))
  | [] =>
    match waiting with
    | some option => .error (.misuse ("a value is required for --" ++ option.long))
    | none => .ok (given, none)
  | argument :: rest =>
    match waiting with
    | some option =>
      if isOption argument then .error (.misuse ("a value is required for --" ++ option.long))
      else
        match given.add option argument with
        | .ok given => scan command given none rest
        | .error halt => .error halt
    | none =>
      let read (found : Except Halt (Given × Option CliOption)) :
          Except Halt (Given × Option (CliCommand × List String)) :=
        match found with
        | .ok (given, waiting) => scan command given waiting rest
        | .error halt => .error halt
      match argument.toList with
      | ['-', '-'] =>
        if rest.isEmpty then .ok (given, none)
        else .error (.misuse ("unexpected argument '" ++ rest.headD "" ++ "'"))
      | '-' :: '-' :: name => read (command.longName given name)
      | '-' :: c :: names => read (command.cluster given (c :: names))
      | _ =>
        if command.isIncomplete && argument == "help" then .error (command.describe rest)
        else
          match command.commands.lookup argument with
          | some inner => .ok (given, some (inner, rest))
          | none => .error (.misuse ("unexpected argument '" ++ argument ++ "'"))

end CliCommand

/-- What a replay is told. -/
structure ReplayOptions where
  input : Path
  directory : Option Path := none
  dryRun : Bool := false
  hostname : Option String := none
  deriving DecidableEq, Repr

/-- What is to be done. -/
inductive Task where
  | replay (options : ReplayOptions)
  | showSettings
  | showSchema
  | checkSettings
  deriving DecidableEq, Repr

/-- The arguments of a run. -/
structure Arguments where
  task : Task
  settings : Option Path
  logFormat : LogFormat
  logLevel : LogLevel
  deriving DecidableEq, Repr

/-- The options of a command and of those around it, the innermost first. -/
abbrev Levels := List Given

namespace Levels

/-- The value of an option, as the innermost command that has one gives it. -/
def value? (levels : Levels) (option : CliOption) : Option String :=
  levels.findSome? fun given => given.value? option

/-- The option was given for one of the commands. -/
def has (levels : Levels) (option : CliOption) : Bool :=
  levels.any fun given => given.has option

/-- How often the innermost command that has an option gives it. -/
def count (levels : Levels) (option : CliOption) : Nat :=
  match levels.find? fun given => given.has option with
  | some given => given.count option
  | none => 0

end Levels

namespace Arguments

/-- The most commands that can stand inside one another. -/
def maxDepth : Nat := 3

/-- Reads the arguments of a command and of the commands inside it: the innermost command, and the
options. The depth that is left bounds the reading. -/
def descend : Nat → CliCommand → Levels → List String → Except Halt (CliCommand × Levels)
  | 0, _, _, _ => .error (.misuse "too many commands")
  | depth + 1, command, outer, arguments => do
    let (given, inner) ← command.scan [] none arguments
    match inner with
    | some (inner, rest) => descend depth inner (given :: outer) rest
    | none => return (command, given :: outer)

/-- The task that the innermost command asks for, with its options. -/
def taskOf (command : CliCommand) (levels : Levels) : Except Halt Task :=
  match command with
  | .top | .config => .error (.misuse "a command is required")
  | .replay =>
    match levels.value? .input with
    | none => .error (.misuse "--input is required")
    | some input =>
      .ok (.replay {
        input := ⟨input⟩
        directory := (levels.value? .directory).map Path.mk
        dryRun := levels.has .dryRun
        hostname := levels.value? .hostname })
  | .printSettings => .ok .showSettings
  | .printSchema => .ok .showSchema
  | .checkSettings => .ok .checkSettings

/-- What arguments ask for. A variable of the environment may name the settings for every command
that does not; it must not be empty then. -/
def parse (arguments : List String) (settingsVariable : Option String) : Except Halt Arguments := do
  let (command, levels) ← descend maxDepth .top [] arguments
  let task ← taskOf command levels
  if settingsVariable = some "" && levels.any (fun given => !given.has .settings) then
    throw (.misuse "the path of the settings is empty")
  return {
    task
    settings := ((levels.value? .settings).or settingsVariable).map Path.mk
    logFormat := if levels.value? .logFormat = some "json" then .json else .text
    logLevel := .ofVerbosity (levels.count .verbose) (levels.has .quiet) }

end Arguments

end MetricRelay
