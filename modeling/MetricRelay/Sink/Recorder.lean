/-
**A sink that keeps a list of its calls.**

Calls can be made to fail: the next few of each kind, by a number that is set. A call that fails is
not kept. The recorder takes lines without being opened first.
-/

import MetricRelay.Sink.Basic

namespace MetricRelay

/-- The calls so far, and how many of the next ones fail. -/
structure Recorder where
  calls : List SinkCall := []
  failOpens : Nat := 0
  failEmits : Nat := 0
  failSyncs : Nat := 0
  failCloses : Nat := 0
  deriving DecidableEq, Repr

namespace Recorder

/-- The name of the sink in messages. -/
def name : String := "recording"

/-- Keeps one more call. -/
def keep (recorder : Recorder) (call : SinkCall) : Recorder :=
  { recorder with calls := recorder.calls ++ [call] }

/-- Keeps that a stream was opened, after the failures that are left. -/
def openStream (stream : StreamKey) (recorder : Recorder) : Attempt Recorder :=
  match recorder.failOpens with
  | 0 => (.ok (), recorder.keep (.opened stream))
  | left + 1 => (.error (.sinkRefused name "open refused"), { recorder with failOpens := left })

/-- Keeps a line, after the failures that are left. -/
def emit (line : String) (recorder : Recorder) : Attempt Recorder :=
  match recorder.failEmits with
  | 0 => (.ok (), recorder.keep (.emitted line))
  | left + 1 => (.error (.file "emit refused"), { recorder with failEmits := left })

/-- Keeps that safety was asked for, after the failures that are left. -/
def sync (recorder : Recorder) : Attempt Recorder :=
  match recorder.failSyncs with
  | 0 => (.ok (), recorder.keep .synced)
  | left + 1 => (.error (.broker "sync refused"), { recorder with failSyncs := left })

/-- Keeps that it was closed, after the failures that are left. -/
def close (recorder : Recorder) : Attempt Recorder :=
  match recorder.failCloses with
  | 0 => (.ok (), recorder.keep .closed)
  | left + 1 => (.error (.broker "close refused"), { recorder with failCloses := left })

instance : Sink Recorder := ⟨openStream, emit, sync, close⟩

/-- The lines that were taken. -/
def lines (recorder : Recorder) : List String :=
  recorder.calls.filterMap fun call =>
    match call with
    | .emitted line => some line
    | _ => none

/-- How often a stream was opened. -/
def opens (recorder : Recorder) : Nat :=
  recorder.calls.countP fun call =>
    match call with
    | .opened _ => true
    | _ => false

/-- How often safety was asked for. -/
def syncs (recorder : Recorder) : Nat :=
  recorder.calls.countP fun call => call == .synced

end Recorder

end MetricRelay
