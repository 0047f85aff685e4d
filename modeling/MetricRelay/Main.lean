/-
**The command line.**

A run is computed on a copy of the part of the disk that it touches, and what it wrote there is
written to the real disk at the end. The copy begins with what the run may read. When the run comes
to a place that is not in the copy and that exists, the place is copied too, and the run is computed
again.
-/

import MetricRelay.Command.Run

namespace MetricRelay.Main

/-- Reads a stream to its end. -/
partial def readAll (input : IO.FS.Stream) (before : ByteArray) : IO ByteArray := do
  let chunk ← input.read 65536
  if chunk.isEmpty then return before
  readAll input (before ++ chunk)

/-- The path of a place, from the root. -/
def pathText (place : List String) : String :=
  "/" ++ "/".intercalate place

/-- The directories in which the system shows itself. -/
def sealedPlaces : List (List String) := [["proc"], ["sys"]]

/-- Copies what stands at a place, if anything does. What is neither a directory nor a file can be
read perhaps, and it is not written to. -/
def copyPlace (isRead : Bool) (disk : Disk) (place : List String) : IO Disk := do
  let path := (← IO.currentDir) / pathText place
  try
    match (← path.metadata).type with
    | .dir =>
      let isSealed := sealedPlaces.any (·.isPrefixOf place)
      return disk.setNode place (if isSealed then .sealed else .directory)
    | .file => return disk.setNode place (.file (← IO.FS.readBinFile path))
    | _ =>
      if isRead then return disk.setNode place (.file (← IO.FS.readBinFile path))
      else return disk.setNode place .full
  catch _ => return disk

/-- Copies what stands on the way along a path. -/
def copyPath (disk : Disk) (path : Path) : IO Disk :=
  let components := path.components
  (Disk.placesAlong (disk.start components) components).foldlM (copyPlace true) disk

/-- The places of a disk that are not on another one. -/
def newPlaces (before after : Disk) : List (List String) :=
  (after.nodes.map fun entry => entry.1).filter fun place => (before.node? place).isNone

/-- Runs on copies of the disk until the copy shows all that the run touches. -/
partial def compute (surroundings : Surroundings) (arguments : List String) :
    IO (Surroundings × Outcome) := do
  let outcome := Command.run surroundings arguments
  let places := newPlaces surroundings.disk outcome.disk
  let disk ← places.foldlM (copyPlace false) surroundings.disk
  if disk.nodes.length = surroundings.disk.nodes.length then return (surroundings, outcome)
  compute { surroundings with disk } arguments

/-- Brings a directory or the new bytes of a file to the real disk. -/
def writePlace (before : Disk) (place : List String) (node : Node) : IO Unit := do
  let path := (← IO.currentDir) / pathText place
  match node with
  | .directory => if (before.node? place).isNone then IO.FS.createDirAll path
  | .file content =>
    let old :=
      match before.node? place with
      | some (.file old) => some old.size
      | _ => none
    if old ≠ some content.size then
      let handle ← IO.FS.Handle.mk path .append
      handle.write (content.extract (old.getD 0) content.size)
      handle.flush
  | .sealed | .full => return

/-- The value of a variable of the environment, unless it is empty. -/
def pathFrom? (name : String) : IO (Option Path) := do
  return ((← IO.getEnv name).filter (· ≠ "")).map Path.mk

/-- The name of the machine; empty if it cannot be found out. -/
def machineName : IO String := do
  try return (← IO.FS.readFile "/proc/sys/kernel/hostname").trimAscii.toString
  catch _ => return ""

/-- A disk that shows the way to the working directory. -/
def emptyDisk : IO Disk := do
  let components := (Path.mk (← IO.currentDir).toString).components
  let places := Disk.placesAlong [] components
  return {
    nodes := (places.filter (· ≠ [])).map fun place => (place, .directory)
    working := places.getLastD [] }

/-- What the run finds around it. There is no transport, so no broker answers. -/
def surroundings (arguments : List String) : IO Surroundings := do
  let around : Surroundings := {
    disk := ← emptyDisk
    hostname := ← machineName
    broker := { reachable := false }
    home := ← pathFrom? "HOME"
    settingsHome := ← pathFrom? "XDG_CONFIG_HOME"
    dataHome := ← pathFrom? "XDG_DATA_HOME"
    settingsVariable := ← IO.getEnv "EM_CONFIG" }
  let disk ← (Command.wanted around arguments).foldlM copyPath around.disk
  if Command.readsStandardInput around arguments then
    let bytes ← readAll (← IO.getStdin) .empty
    return { around with disk, standardInput := bytes.toList }
  return { around with disk }

end MetricRelay.Main

/-- Computes a run, brings what it wrote to the disk, and prints. -/
def main (arguments : List String) : IO UInt32 := do
  let around ← MetricRelay.Main.surroundings arguments
  let (around, outcome) ← MetricRelay.Main.compute around arguments
  for (place, node) in outcome.disk.nodes do
    MetricRelay.Main.writePlace around.disk place node
  for notice in outcome.notices do
    IO.eprintln notice
  IO.print outcome.output
  return outcome.status.toUInt32
