/-
**A sink that appends each row to a file.**

The file of a stream lies in a directory of its application and is named for its host tag. Lines
are collected in a buffer and reach the file when the buffer is full, when they are made durable,
and when the file is closed:

* a line that does not fit into the buffer any more makes it be written first;
* a line as long as the buffer or longer is written at once;
* a line that could not be written is lost, and all lines in the buffer with it.
-/

import MetricRelay.Disk.Basic
import MetricRelay.Sink.Basic

namespace MetricRelay

/-- A file that is open, and the bytes that are still to be written to it. -/
structure OpenLog where
  path : Path
  place : List String
  pending : ByteArray

/-- A sink that appends to files below a directory. -/
structure Journal where
  directory : Path
  disk : Disk
  log : Option OpenLog := none

namespace Journal

/-- The name of this sort of sink. -/
def name : String := "durable_log"

/-- The bytes that the buffer holds. -/
def capacity : Nat := 8192

/-- The file of a stream. -/
def logPath (directory : Path) (stream : StreamKey) : Path :=
  (directory.join ⟨stream.application.text⟩).join ⟨stream.host.text ++ ".json"⟩

/-- The path of the open file. -/
def path? (journal : Journal) : Option Path :=
  journal.log.map OpenLog.path

/-- A file operation that failed at a path. -/
def failed (path : Path) : Except Failure Unit :=
  .error (.fileAt path.text "the file system refused")

/-- Writes what is pending. Nothing is lost when that fails. -/
def flush (log : OpenLog) (disk : Disk) : Bool × OpenLog × Disk :=
  if log.pending.size = 0 then (true, log, disk)
  else
    match disk.append log.place log.pending with
    | (true, disk) => (true, { log with pending := .empty }, disk)
    | (false, disk) => (false, log, disk)

/-- Lets go of a file: one more attempt to write what is pending. -/
def release (log : Option OpenLog) (disk : Disk) : Disk :=
  match log with
  | none => disk
  | some log => (flush log disk).2.2

/-- Lets go of the file that is open. -/
def letGo (journal : Journal) : Journal :=
  { journal with disk := release journal.log journal.disk, log := none }

/-- Opens the file of a stream, unless it is open already. -/
def openStream (stream : StreamKey) (journal : Journal) : Attempt Journal :=
  let path := logPath journal.directory stream
  if journal.path?.any path.same then (.ok (), journal)
  else
    let (created, disk) :=
      match path.parent? with
      | none => (true, journal.disk)
      | some parent => journal.disk.createDirectories parent
    if !created then (failed (path.parent?.getD path), { journal with disk })
    else
      match disk.openAppend path with
      | (none, disk) => (failed path, { journal with disk })
      | (some place, disk) =>
        (.ok (), { journal with
          disk := release journal.log disk
          log := some ⟨path, place, .empty⟩ })

/-- Puts a line into the buffer, or writes it. -/
def emit (line : String) (journal : Journal) : Attempt Journal :=
  match journal.log with
  | none => (.error (.sinkClosed name), journal)
  | some log =>
    let bytes := (line ++ "\n").toUTF8
    let lost (disk : Disk) : Attempt Journal :=
      (failed log.path, { journal with disk, log := some { log with pending := .empty } })
    let (written, log, disk) :=
      if log.pending.size + bytes.size > capacity then flush log journal.disk
      else (true, log, journal.disk)
    if !written then lost disk
    else if bytes.size < capacity then
      (.ok (), { journal with disk, log := some { log with pending := log.pending ++ bytes } })
    else
      match disk.append log.place bytes with
      | (true, disk) => (.ok (), { journal with disk, log := some log })
      | (false, disk) => lost disk

/-- Writes what is pending and makes the file durable. -/
def sync (journal : Journal) : Attempt Journal :=
  match journal.log with
  | none => (.error (.sinkClosed name), journal)
  | some log =>
    match flush log journal.disk with
    | (false, log, disk) => (failed log.path, { journal with disk, log := some log })
    | (true, log, disk) =>
      match disk.settle log.place with
      | (true, disk) => (.ok (), { journal with disk, log := some log })
      | (false, disk) => (failed log.path, { journal with disk, log := some log })

/-- Makes the file durable and lets go of it, also when that failed. -/
def close (journal : Journal) : Attempt Journal :=
  match journal.log with
  | none => (.ok (), journal)
  | some _ =>
    let (result, journal) := journal.sync
    (result, journal.letGo)

instance : Sink Journal := ⟨openStream, emit, sync, close⟩

end Journal

end MetricRelay
