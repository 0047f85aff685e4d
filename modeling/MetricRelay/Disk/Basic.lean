/-
**A disk: directories, files, and a device that is always full.**

A `Disk` is a value. Its nodes are listed by their place, the names on the way from the root. Paths
that are not absolute start at the working directory.

Calls can fail for what they find, and they can be made to fail: `Disk.faults` says of each of the
next calls that create, open, write or settle whether it fails. A write puts all its bytes at the
end of a file, or none.
-/

import MetricRelay.Disk.Path

namespace MetricRelay

/-- What stands at a place. -/
inductive Node where
  | directory
  /-- A directory in which nothing can be created. -/
  | sealed
  | file (content : ByteArray)
  /-- A link to a device that takes no bytes. -/
  | full

/-- Directories and files. -/
structure Disk where
  nodes : List (List String × Node) := [(["work"], .directory)]
  working : List String := ["work"]
  faults : List Bool := []

namespace Disk

/-- The most bytes of a name. -/
def maxName : Nat := 255

/-- The bytes that a path must stay below. -/
def maxPath : Nat := 4096

/-- The node at a place; the root is a directory. -/
def node? (disk : Disk) (place : List String) : Option Node :=
  if place = [] then some .directory else disk.nodes.lookup place

/-- Puts a node at a place. -/
def setNode (disk : Disk) (place : List String) (node : Node) : Disk :=
  { disk with nodes := disk.nodes.filter (fun entry => entry.1 != place) ++ [(place, node)] }

/-- Takes away the node at a place. -/
def dropNode (disk : Disk) (place : List String) : Disk :=
  { disk with nodes := disk.nodes.filter fun entry => entry.1 != place }

/-- A directory stands at the place. -/
def isDirectory (disk : Disk) (place : List String) : Bool :=
  match disk.node? place with
  | some .directory | some .sealed => true
  | _ => false

/-- Something can be created at the place, as far as its directory is concerned. -/
def canCreate (disk : Disk) (place : List String) : Bool :=
  match disk.node? place.dropLast with
  | some .sealed => false
  | _ => true

/-- A path that the disk can be asked for. -/
def isUsable (path : Path) : Bool :=
  path.text ≠ "" && path.text.utf8ByteSize < maxPath && path.text.toList.all (· != '\x00')

/-- Where the components of a path start. -/
def start (disk : Disk) (components : List Path.Component) : List String :=
  if components.head? = some .root then [] else disk.working

/-- One component further from a directory. -/
def enter (place : List String) : Path.Component → Option (List String)
  | .root => some []
  | .here => some place
  | .up => some place.dropLast
  | .name text =>
    let name := String.ofList text
    if name.utf8ByteSize ≤ maxName then some (place ++ [name]) else none

/-- Follows components; every one but the last must lead to a directory. -/
def follow (disk : Disk) (place : List String) : List Path.Component → Option (List String)
  | [] => some place
  | component :: rest =>
    if disk.isDirectory place then (enter place component).bind fun next => follow disk next rest
    else none

/-- The places on the way along components, whatever stands there. -/
def placesAlong (place : List String) : List Path.Component → List (List String)
  | [] => []
  | component :: rest =>
    match enter place component with
    | some next => next :: placesAlong next rest
    | none => []

/-- The place that a path names. -/
def place? (disk : Disk) (path : Path) : Option (List String) := do
  let components := path.components
  if !isUsable path then none
  let place ← disk.follow (disk.start components) components
  if path.namesDirectory && !disk.isDirectory place then none
  return place

/-- The bytes of the file at a place. -/
def content? (disk : Disk) (place : List String) : Option ByteArray :=
  match disk.node? place with
  | some (.file content) => some content
  | _ => none

/-- The bytes of a file. -/
def read? (disk : Disk) (path : Path) : Option ByteArray :=
  (disk.place? path).bind disk.content?

/-- A file stands at a path. -/
def isFile (disk : Disk) (path : Path) : Bool :=
  (disk.read? path).isSome

/-- The next call is made to fail, and the disk after saying so. -/
def nextFault (disk : Disk) : Bool × Disk :=
  match disk.faults with
  | [] => (false, disk)
  | fault :: rest => (fault, { disk with faults := rest })

/-- Creates the directories along components. -/
def create (disk : Disk) (place : List String) : List Path.Component → Bool × Disk
  | [] => (true, disk)
  | component :: rest =>
    match enter place component with
    | none => (false, disk)
    | some next =>
      if disk.isDirectory next then create disk next rest
      else if (disk.node? next).isSome || !disk.canCreate next then (false, disk)
      else create (disk.setNode next .directory) next rest

/-- Creates a directory and all those that lead to it. -/
def createDirectories (disk : Disk) (path : Path) : Bool × Disk :=
  match disk.nextFault with
  | (true, disk) => (false, disk)
  | (false, disk) =>
    if path.text = "" then (true, disk)
    else if isUsable path then disk.create (disk.start path.components) path.components
    else (false, disk)

/-- Opens a file for writing at its end, and creates it if there is none. -/
def openAppend (disk : Disk) (path : Path) : Option (List String) × Disk :=
  match disk.nextFault with
  | (true, disk) => (none, disk)
  | (false, disk) =>
    match disk.place? path with
    | none => (none, disk)
    | some place =>
      if disk.isDirectory place then (none, disk)
      else if (disk.node? place).isSome then (some place, disk)
      else if disk.canCreate place then (some place, disk.setNode place (.file .empty))
      else (none, disk)

/-- Writes bytes at the end of a file: all of them, or none. -/
def append (disk : Disk) (place : List String) (bytes : ByteArray) : Bool × Disk :=
  match disk.nextFault with
  | (true, disk) => (false, disk)
  | (false, disk) =>
    match disk.node? place with
    | some (.file content) => (true, disk.setNode place (.file (content ++ bytes)))
    | _ => (false, disk)

/-- Makes the bytes of a file durable. -/
def settle (disk : Disk) (place : List String) : Bool × Disk :=
  match disk.nextFault with
  | (true, disk) => (false, disk)
  | (false, disk) =>
    match disk.node? place with
    | some (.file _) => (true, disk)
    | _ => (false, disk)

/-- Puts a file at a path, with the directories that lead to it. -/
def write (disk : Disk) (path : Path) (content : ByteArray) : Disk :=
  let disk :=
    match path.parent? with
    | some parent => (disk.createDirectories parent).2
    | none => disk
  match disk.place? path with
  | none => disk
  | some place => if disk.isDirectory place then disk else disk.setNode place (.file content)

/-- Puts a link to the full device at a path where nothing stands, with the directories that lead
to it. -/
def linkFull (disk : Disk) (path : Path) : Disk :=
  let disk :=
    match path.parent? with
    | some parent => (disk.createDirectories parent).2
    | none => disk
  match disk.place? path with
  | none => disk
  | some place => if (disk.node? place).isSome then disk else disk.setNode place .full

/-- Takes away the file at a path. -/
def remove (disk : Disk) (path : Path) : Disk :=
  match disk.place? path with
  | none => disk
  | some place => if disk.isDirectory place then disk else disk.dropNode place

/-- The files below the working directory: their paths from there, and their bytes. -/
def files (disk : Disk) : List (String × ByteArray) :=
  disk.nodes.filterMap fun entry =>
    match entry.2 with
    | .file content =>
      if disk.working.isPrefixOf entry.1 && disk.working.length < entry.1.length then
        some ("/".intercalate (entry.1.drop disk.working.length), content)
      else none
    | _ => none

end Disk

end MetricRelay
