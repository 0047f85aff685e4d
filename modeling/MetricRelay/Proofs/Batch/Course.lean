/-
**The course of a cycle.**

In a cycle a batcher takes samples of one second. `Batcher.Course` lists what can have happened so
far, from any phase at the beginning, with the calls that were made:

* nothing, since every sample belongs to another stream;
* the sink refused to open for the first sample, and all samples wait;
* the batch of the second is open: the first sample opened the sink, or the batch was open before, or
  the first sample of the stream closed the batch of another second.

Every sample goes on with the course (`Batcher.Course.step`), so a cycle has one
(`Batcher.course_of_cycle`). It makes at most one call of each kind (`Batcher.Course.one_of_each`),
and after an open that succeeded there is no other one in any run (`Batcher.opens_once`).

A batch that is open for the second only collects samples of its stream
(`Batcher.Gathering.take_second`), so a value that was written in the cycle is there at its end, or
one of the same name that came later (`Batcher.written_stays`).
-/

import MetricRelay.Proofs.Batch.Answers
import MetricRelay.Proofs.Batch.Protocol

namespace MetricRelay

namespace SinkCall

def isOpened : SinkCall → Bool
  | opened _ => true
  | emitted _ | synced | closed => false

def isEmitted : SinkCall → Bool
  | emitted _ => true
  | opened _ | synced | closed => false

def isSynced : SinkCall → Bool
  | synced => true
  | opened _ | emitted _ | closed => false

end SinkCall

/-! ### Values that were set -/

namespace Record

variable {α : Type} {record : Record α}

theorem mergeAll_append (record : Record α) (first later : List (List String × α)) :
    record.mergeAll (first ++ later) = (record.mergeAll first).mergeAll later :=
  List.foldl_append

/-- **A leaf stays a leaf,** with its value or with one that was set later at its path. -/
theorem find_mergeAll (ordered : Ordered record) {path : List String} {value : α}
    (found : record.find path = .leaf value) (entries : List (List String × α)) :
    ∃ held, (record.mergeAll entries).find path = .leaf held ∧
      (held = value ∨ (path, held) ∈ entries) := by
  induction entries generalizing record value with
  | nil => exact ⟨value, found, .inl rfl⟩
  | cons entry rest ih =>
    have orderedAfter := merge_ordered ordered entry.1 entry.2
    have later {next : α} (foundAfter : (record.merge entry.1 entry.2).1.find path = .leaf next) :=
      ih orderedAfter foundAfter
    by_cases replaced : path = entry.1 ∧ (record.merge entry.1 entry.2).2.isWritten = true
    · obtain ⟨rfl, written⟩ := replaced
      obtain ⟨held, foundLater, same | member⟩ := later (find_merge ordered written)
      · exact ⟨held, foundLater, .inr (same ▸ List.mem_cons_self)⟩
      · exact ⟨held, foundLater, .inr (List.mem_cons_of_mem _ member)⟩
    · have kept : (record.merge entry.1 entry.2).1.find path = .leaf value := by
        rw [find_eq_leaf_iff ordered] at found
        rw [find_eq_leaf_iff orderedAfter, mem_leaves_merge_ite ordered, if_neg replaced]
        exact found
      obtain ⟨held, foundLater, same | member⟩ := later kept
      · exact ⟨held, foundLater, .inl same⟩
      · exact ⟨held, foundLater, .inr (List.mem_cons_of_mem _ member)⟩

end Record

namespace Offered

/-- What the samples of a stream set in a record. -/
def entries (hostname : String) (stream : StreamKey) (samples : List Offered) :
    List (List String × Measure) :=
  (samples.filter fun sample => sample.stream hostname = stream).map fun sample =>
    (sample.route.path, sample.value)

variable {hostname : String} {stream : StreamKey} {sample : Offered}

theorem entries_append (first later : List Offered) :
    entries hostname stream (first ++ later) =
      entries hostname stream first ++ entries hostname stream later := by
  unfold entries
  rw [List.filter_append, List.map_append]

theorem entries_own (own : sample.stream hostname = stream) :
    entries hostname stream [sample] = [(sample.route.path, sample.value)] := by
  simp [entries, own]

theorem entries_of_foreign {samples : List Offered}
    (foreign : ∀ sample ∈ samples, sample.stream hostname ≠ stream) :
    entries hostname stream samples = [] := by
  unfold entries
  rw [List.map_eq_nil_iff, List.filter_eq_nil_iff]
  exact fun sample member => by simpa using foreign sample member

/-- Behind some samples of other streams, a sample sets its value alone. -/
theorem entries_concat {samples : List Offered}
    (foreign : ∀ other ∈ samples, other.stream hostname ≠ sample.stream hostname) :
    entries hostname (sample.stream hostname) (samples ++ [sample]) =
      [(sample.route.path, sample.value)] := by
  rw [entries_append, entries_of_foreign foreign, entries_own rfl, List.nil_append]

/-- Samples of one stream and one path have one route. -/
theorem route_eq_of_stream {other : Offered} (stream : sample.stream hostname = other.stream hostname)
    (path : sample.route.path = other.route.path) : sample.route = other.route := by
  have application := congrArg StreamKey.application stream
  have executor := congrArg StreamKey.executor stream
  change sample.route.application = other.route.application at application
  change sample.route.executor = other.route.executor at executor
  cases route : sample.route
  cases otherRoute : other.route
  simp only [route, otherRoute] at application executor path
  rw [application, executor, path]

end Offered

namespace Batcher

variable {σ : Type} [Sink σ]

/-! ### While the batch of the second is open -/

theorem takeAll_append (batcher : Batcher σ) (first later : List Offered) :
    batcher.takeAll (first ++ later) = (batcher.takeAll first).takeAll later :=
  List.foldl_append

/-- Samples keep what all states of a run have in common. -/
theorem takeAll_keeps {batcher : Batcher σ} (consistent : batcher.Consistent)
    (orderly : batcher.Orderly) (samples : List Offered) :
    (batcher.takeAll samples).Consistent ∧ (batcher.takeAll samples).Orderly ∧
      (batcher.takeAll samples).hostname = batcher.hostname := by
  induction samples generalizing batcher with
  | nil => exact ⟨consistent, orderly, rfl⟩
  | cons sample rest ih =>
    have taking := take_cases consistent sample
    obtain ⟨consistentAfter, orderlyAfter, named⟩ :=
      ih (taking.consistent consistent) (taking.orderly orderly)
    exact ⟨consistentAfter, orderlyAfter, named.trans taking.frame.1⟩

section Gathering

variable {batcher : Batcher σ} {second : Int} {stream : StreamKey}

/-- **While the batch of a second is open, a sample of this second is merged or foreign.** It makes no
call. -/
theorem Gathering.take_second (gathering : Gathering batcher second stream) {sample : Offered}
    (same : sample.timestamp = second) :
    Gathering (batcher.take sample).2 second stream ∧
      (batcher.take sample).2.sink = batcher.sink ∧
      (batcher.take sample).2.hostname = batcher.hostname ∧
      (batcher.take sample).2.record =
        batcher.record.mergeAll (Offered.entries batcher.hostname stream [sample]) := by
  by_cases own : sample.stream batcher.hostname = stream
  · have belongs : Belongs batcher second stream sample := ⟨own, same⟩
    refine ⟨gathering.take belongs, ?_⟩
    rw [gathering.take_eq belongs, Offered.entries_own own]
    exact ⟨rfl, rfl, rfl⟩
  · have foreign : Taking batcher sample _ :=
      .foreign stream second gathering.phase gathering.stream (Ne.symm own)
    have none : Offered.entries batcher.hostname stream [sample] = [] :=
      Offered.entries_of_foreign fun other member => by rwa [List.mem_singleton.mp member]
    rw [foreign.eq gathering.consistent, none]
    refine ⟨⟨foreign.consistent gathering.consistent, foreign.orderly gathering.orderly,
      gathering.phase, gathering.stream⟩, rfl, rfl, rfl⟩

theorem Gathering.takeAll_second (gathering : Gathering batcher second stream)
    {samples : List Offered} (same : ∀ sample ∈ samples, sample.timestamp = second) :
    Gathering (batcher.takeAll samples) second stream ∧
      (batcher.takeAll samples).record =
        batcher.record.mergeAll (Offered.entries batcher.hostname stream samples) := by
  induction samples generalizing batcher with
  | nil => exact ⟨gathering, rfl⟩
  | cons sample rest ih =>
    obtain ⟨first, others⟩ := List.forall_mem_cons.mp same
    obtain ⟨gathers, _, named, record⟩ := gathering.take_second first
    obtain ⟨after, recordAfter⟩ := ih gathers others
    refine ⟨after, recordAfter.trans ?_⟩
    rw [named, record, ← Record.mergeAll_append, ← Offered.entries_append, List.singleton_append]

end Gathering

/-! ### Values that were written -/

/-- A sample that is counted as merged is not dropped, and its path is not empty. -/
theorem Taking.written {batcher : Batcher σ} {sample : Offered} {result : Offer × Batcher σ}
    (taking : Taking batcher sample result)
    (counted : result.2.stats.merged ≠ batcher.stats.merged) :
    (∀ reason, result.1 ≠ .dropped reason) ∧ sample.route.path ≠ [] := by
  have written {merging : Batcher σ} {offer : Offer}
      (counted : (merging.mergeSample sample.route.path sample.value offer).2.stats.merged ≠
        batcher.stats.merged) (same : merging.stats.merged = batcher.stats.merged) :
      (merging.record.merge sample.route.path sample.value).2.isWritten = true := by
    rw [mergeSample_merged, same] at counted
    by_contra unwritten
    exact counted (by rw [if_neg unwritten, Nat.add_zero])
  have path {record : Record Measure}
      (written : (record.merge sample.route.path sample.value).2.isWritten = true) :
      sample.route.path ≠ [] := by
    intro empty
    rw [empty] at written
    cases written
  cases taking with
  | stopped | waiting | refused | foreign => exact absurd rfl counted
  | adopted sink phase ready call =>
    have fits := written counted rfl
    exact ⟨kept_iff_isWritten.mpr fits, path fits⟩
  | joined phase own =>
    have fits := written counted rfl
    exact ⟨kept_iff_isWritten.mpr fits, path fits⟩
  | rolled before emitted closed phase own different closing =>
    refine ⟨fun reason => ?_, path (written counted closing.samples.2)⟩
    rw [answer_of_rolled]
    exact nofun

/-- **A value that is written stays until the end of the cycle,** unless a later sample of the same
name replaces it. -/
theorem written_stays {start : Batcher σ} (consistent : start.Consistent) (orderly : start.Orderly)
    {second : Int} {front back : List Offered} {sample : Offered}
    (same : ∀ other ∈ sample :: back, other.timestamp = second)
    (counted : ((start.takeAll front).take sample).2.stats.merged ≠
      (start.takeAll front).stats.merged) :
    let after := start.takeAll (front ++ sample :: back)
    after.openTimestamp = some second ∧ after.stream = some (sample.stream start.hostname) ∧
      ∃ last ∈ sample :: back, last.route = sample.route ∧
        after.record.find sample.route.path = .leaf last.value := by
  intro after
  obtain ⟨consistentHere, orderlyHere, named⟩ := takeAll_keeps consistent orderly front
  have taking := take_cases consistentHere sample
  obtain ⟨kept, nonempty⟩ := taking.written counted
  obtain ⟨first, others⟩ := List.forall_mem_cons.mp same
  obtain ⟨opened, stream, found⟩ := taking.stands orderlyHere kept
  rw [named] at stream
  rw [openTimestamp_eq_some_iff, first] at opened
  have gathering : Gathering ((start.takeAll front).take sample).2 second
      (sample.stream start.hostname) :=
    ⟨taking.consistent consistentHere, taking.orderly orderlyHere, opened, stream⟩
  obtain ⟨gathers, record⟩ := gathering.takeAll_second others
  have whole : after = ((start.takeAll front).take sample).2.takeAll back :=
    takeAll_append start front (sample :: back)
  rw [whole]
  refine ⟨openTimestamp_eq_some_iff.mpr gathers.phase, gathers.stream, ?_⟩
  obtain ⟨held, foundLater, rfl | later⟩ :=
    Record.find_mergeAll gathering.orderly.ordered (found nonempty)
      (Offered.entries ((start.takeAll front).take sample).2.hostname
        (sample.stream start.hostname) back)
  · exact ⟨sample, List.mem_cons_self, rfl, record ▸ foundLater⟩
  · obtain ⟨last, member, entry⟩ := List.mem_map.mp later
    obtain ⟨lastMem, own⟩ := List.mem_filter.mp member
    rw [taking.frame.1, named] at own
    have pair := Prod.mk.inj entry
    refine ⟨last, List.mem_cons_of_mem _ lastMem,
      Offered.route_eq_of_stream (of_decide_eq_true own) pair.1, ?_⟩
    rw [record, foundLater, pair.2]

/-! ### The course of a cycle -/

/-- The batch of the second is open, and holds what was there first and the samples of its stream. -/
structure Gathered (start current : Batcher σ) (second : Int) (stream : StreamKey)
    (base : Record Measure) (samples : List Offered) : Prop where
  gathering : Gathering current second stream
  hostname : current.hostname = start.hostname
  record : current.record = base.mergeAll (Offered.entries start.hostname stream samples)

/-- The batcher after its sink refused to open, and some samples were dropped for that. -/
def refusing (start : Batcher σ) (sink : σ) (dropped : Nat) : Batcher σ :=
  { start with
    sink
    openFailed := true
    stats := { start.stats with
      sinkOpenFailures := start.stats.sinkOpenFailures + 1
      droppedSinkUnavailable := start.stats.droppedSinkUnavailable + dropped } }

/-- What can have happened in a cycle, with the samples that were taken in it and the calls that
were made. -/
inductive Course (start : Batcher (Logged σ)) (second : Int) :
    List Offered → Trace → Batcher (Logged σ) → Prop where
  /-- There was no sample but those of other streams. -/
  | still {samples : List Offered} (stats : BatchStats)
      (foreign : ∀ sample ∈ samples, start.stream ≠ some (sample.stream start.hostname))
      (begun : start.phase = .idle → samples = [] ∧ stats = start.stats) :
      Course start second samples [] { start with stats }
  /-- The sink refused to open for the first sample. -/
  | waiting (first : Offered) (rest : List Offered) (sink : Logged σ)
      (phase : start.phase = .idle) :
      Course start second (first :: rest)
        [(.opened (first.stream start.hostname), false)] (start.refusing sink (rest.length + 1))
  /-- The first sample opened the sink. -/
  | adopted (first : Offered) (rest : List Offered) {current : Batcher (Logged σ)}
      (phase : start.phase = .idle) (gathered : Gathered start current second
        (first.stream start.hostname) .nil (first :: rest)) :
      Course start second (first :: rest) [(.opened (first.stream start.hostname), true)] current
  /-- The batch of the second was open before. -/
  | joined {samples : List Offered} (stream : StreamKey) {current : Batcher (Logged σ)}
      (phase : start.phase = .collecting second) (known : start.stream = some stream)
      (gathered : Gathered start current second stream start.record samples) :
      Course start second samples [] current
  /-- The first sample of the stream closed the batch of another second. -/
  | rolled {samples : List Offered} (before : Int) (stream : StreamKey) (emitted : Bool)
      {calls : Trace} {current : Batcher (Logged σ)} (phase : start.phase = .collecting before)
      (known : start.stream = some stream) (different : before ≠ second)
      (handing : Handing start.openRow emitted calls)
      (gathered : Gathered start current second stream .nil samples) :
      Course start second samples calls current

/-- A batcher whose sink refused to open drops one more sample. -/
theorem take_refusing {start : Batcher σ} (consistent : start.Consistent)
    (phase : start.phase = .idle) (sink : σ) (dropped : Nat) (sample : Offered) :
    ((start.refusing sink dropped).take sample).2 = start.refusing sink (dropped + 1) := by
  have consistentHere : (start.refusing sink dropped).Consistent := consistent
  have waits : Taking (start.refusing sink dropped) sample _ := .waiting phase rfl
  rw [waits.eq consistentHere]
  rfl

/-- An open batch collects one more sample. -/
theorem Gathered.take {start current : Batcher σ} {second : Int} {stream : StreamKey}
    {base : Record Measure} {samples : List Offered}
    (gathered : Gathered start current second stream base samples) {sample : Offered}
    (same : sample.timestamp = second) :
    Gathered start (current.take sample).2 second stream base (samples ++ [sample]) ∧
      (current.take sample).2.sink = current.sink := by
  obtain ⟨gathers, sink, named, record⟩ := gathered.gathering.take_second same
  refine ⟨⟨gathers, named.trans gathered.hostname, ?_⟩, sink⟩
  rw [record, gathered.record, gathered.hostname, Offered.entries_append, Record.mergeAll_append]

section Course

variable {start current : Batcher (Logged σ)} {second : Int} {samples : List Offered}
  {calls : Trace} {sample : Offered} {result : Offer × Batcher (Logged σ)}

/-- The first sample that is not foreign opens the sink, or tries to, or finds a batch open. -/
theorem Taking.course_of_still (consistent : start.Consistent) (orderly : start.Orderly)
    (ready : start.openFailed = false) {stats : BatchStats}
    (foreign : ∀ other ∈ samples, start.stream ≠ some (other.stream start.hostname))
    (begun : start.phase = .idle → samples = [] ∧ stats = start.stats)
    (taking : Taking { start with stats } sample result) (same : sample.timestamp = second) :
    ∃ more, result.2.sink.trace = start.sink.trace ++ more ∧
      Course start second (samples ++ [sample]) more result.2 := by
  have consistentHere : Consistent { start with stats } := consistent
  have consistentAfter := taking.consistent consistentHere
  have orderlyHere : Orderly { start with stats } :=
    ⟨orderly.ordered, orderly.solid, orderly.ready⟩
  have orderlyAfter := taking.orderly orderlyHere
  have others (own : start.stream = some (sample.stream start.hostname)) :
      ∀ other ∈ samples, other.stream start.hostname ≠ sample.stream start.hostname :=
    fun other member equal => foreign other member (own.trans (congrArg some equal.symm))
  have unmoved {counters : BatchStats} (other : start.stream ≠ some (sample.stream start.hostname))
      (running : start.phase ≠ .idle) :
      Course start second (samples ++ [sample]) [] { start with stats := counters } :=
    .still counters (List.forall_mem_append.mpr ⟨foreign, List.forall_mem_singleton.mpr other⟩)
      fun idle => absurd idle running
  cases taking with
  | stopped phase =>
    have stopped : start.phase = .stopped := phase
    unfold Consistent at consistent
    rw [stopped] at consistent
    refine ⟨[], (List.append_nil _).symm, unmoved ?_ ?_⟩
    · rw [consistent.1]
      exact nofun
    · rw [stopped]
      exact nofun
  | waiting phase failed => exact absurd failed (by simp [ready])
  | refused failure sink phase _ call =>
    obtain ⟨rfl, rfl⟩ := begun phase
    exact ⟨_, Logged.trace_of_perform (.opened _) call, .waiting sample [] sink phase⟩
  | adopted sink phase _ call =>
    rw [(begun phase).1]
    refine ⟨[(.opened (sample.stream start.hostname), true)], ?_, .adopted sample [] phase
      ⟨⟨consistentAfter, orderlyAfter, ?_, mergeSample_stream _ _ _ _⟩,
        mergeSample_hostname _ _ _ _, ?_⟩⟩
    · rw [mergeSample_sink]
      exact Logged.trace_of_perform (.opened _) call
    · rw [mergeSample_phase, same]
    · unfold Consistent at consistent
      rw [show start.phase = .idle from phase] at consistent
      rw [mergeSample_record, Offered.entries_own rfl]
      simp only [consistent.2]
      rfl
  | foreign stream before phase known other =>
    refine ⟨[], (List.append_nil _).symm, unmoved (fun own => ?_) ?_⟩
    · exact other (Option.some.inj (known.symm.trans own))
    · rw [show start.phase = _ from phase]
      exact nofun
  | joined phase own =>
    refine ⟨[], ?_, .joined (sample.stream start.hostname) ?_ own
      ⟨⟨consistentAfter, orderlyAfter, ?_, (mergeSample_stream _ _ _ _).trans own⟩,
        mergeSample_hostname _ _ _ _, ?_⟩⟩
    · rw [mergeSample_sink, List.append_nil]
    · rw [← same]
      exact phase
    · rw [mergeSample_phase, ← same]
      exact phase
    · rw [mergeSample_record, Offered.entries_concat (others own)]
      rfl
  | rolled before emitted closed phase own different closing =>
    obtain ⟨made, traced, handing⟩ := closing.handing phase own
    obtain ⟨sink, counters, frame⟩ := closing.frame
    simp only at frame traced
    subst frame
    refine ⟨made, ?_, .rolled before (sample.stream start.hostname) emitted phase own ?_ handing
      ⟨⟨consistentAfter, orderlyAfter, ?_, (mergeSample_stream _ _ _ _).trans own⟩,
        mergeSample_hostname _ _ _ _, ?_⟩⟩
    · rw [mergeSample_sink]
      exact traced
    · rw [← same]
      exact different
    · rw [mergeSample_phase, same]
    · rw [mergeSample_record, Offered.entries_concat (others own)]
      rfl

/-- **Every sample of the second goes on with the course of its cycle.** -/
theorem Course.step (consistent : start.Consistent) (orderly : start.Orderly)
    (ready : start.openFailed = false) (course : Course start second samples calls current)
    (same : sample.timestamp = second) :
    ∃ more, (current.take sample).2.sink.trace = current.sink.trace ++ more ∧
      Course start second (samples ++ [sample]) (calls ++ more) (current.take sample).2 := by
  cases course with
  | still stats foreign begun =>
    have consistentHere : Consistent { start with stats } := consistent
    exact (take_cases consistentHere sample).course_of_still consistent orderly ready foreign begun same
  | waiting first rest sink phase =>
    rw [take_refusing consistent phase]
    refine ⟨[], (List.append_nil _).symm, ?_⟩
    have course : Course start second (first :: (rest ++ [sample])) _ _ :=
      .waiting first (rest ++ [sample]) sink phase
    rw [List.length_append] at course
    exact course
  | adopted first rest phase gathered =>
    obtain ⟨gathers, sink⟩ := gathered.take same
    exact ⟨[], by rw [sink, List.append_nil], .adopted first (rest ++ [sample]) phase gathers⟩
  | joined stream phase known gathered =>
    obtain ⟨gathers, sink⟩ := gathered.take same
    exact ⟨[], by rw [sink, List.append_nil], .joined stream phase known gathers⟩
  | rolled before stream emitted phase known different handing gathered =>
    obtain ⟨gathers, sink⟩ := gathered.take same
    refine ⟨[], by rw [sink, List.append_nil], ?_⟩
    rw [List.append_nil]
    exact .rolled before stream emitted phase known different handing gathers

/-- **A cycle has a course.** -/
theorem course_of_cycle (consistent : start.Consistent) (orderly : start.Orderly)
    (ready : start.openFailed = false) (samples : List Offered)
    (same : ∀ sample ∈ samples, sample.timestamp = second) :
    ∃ calls, (start.takeAll samples).sink.trace = start.sink.trace ++ calls ∧
      Course start second samples calls (start.takeAll samples) := by
  induction samples using List.reverseRecOn with
  | nil => exact ⟨[], (List.append_nil _).symm, .still start.stats (by simp) fun _ => ⟨rfl, rfl⟩⟩
  | append_singleton samples sample ih =>
    obtain ⟨before, last⟩ := List.forall_mem_append.mp same
    obtain ⟨calls, traced, course⟩ := ih before
    obtain ⟨more, tracedAfter, after⟩ :=
      course.step consistent orderly ready (last sample List.mem_cons_self)
    rw [takeAll_append]
    refine ⟨calls ++ more, ?_, after⟩
    rw [← List.append_assoc, ← traced]
    exact tracedAfter

/-! ### The calls of a cycle -/

omit [Sink σ]

/-- **A cycle opens, emits and syncs at most once.** -/
theorem Course.one_of_each (course : Course start second samples calls current) :
    (calls.countP fun call => call.1.isOpened) ≤ 1 ∧
      (calls.countP fun call => call.1.isEmitted) ≤ 1 ∧
      (calls.countP fun call => call.1.isSynced) ≤ 1 := by
  cases course with
  | still | joined | waiting | adopted =>
    simp [SinkCall.isOpened, SinkCall.isEmitted, SinkCall.isSynced]
  | rolled before stream emitted phase known different handing =>
    cases handing <;> simp [SinkCall.isOpened, SinkCall.isEmitted, SinkCall.isSynced]

/-- The line that a cycle hands over is that of the row that was open before. -/
theorem Course.row_of_emitted (course : Course start second samples calls current) {line : String}
    {taken : Bool} (member : (.emitted line, taken) ∈ calls) :
    ∃ row, start.openRow = some row ∧ line = row.line := by
  cases course with
  | still | joined | waiting | adopted => simp at member
  | rolled before stream emitted phase known different handing =>
    cases handing with
    | void => cases member
    | handed row due | settled row due => exact ⟨row, due, by simp_all⟩

/-- **A cycle of an idle batcher tries to open the sink once, for its first sample.** If that fails,
its samples are dropped and nothing else changes. -/
theorem Course.opening {first : Offered} {rest : List Offered} (phase : start.phase = .idle)
    (course : Course start second (first :: rest) calls current) :
    ∃ succeeded, calls = [(.opened (first.stream start.hostname), succeeded)] ∧
      (succeeded = false → ∃ sink, current = start.refusing sink (rest.length + 1)) := by
  cases course with
  | still stats foreign begun => exact absurd (begun phase).1 (List.cons_ne_nil first rest)
  | waiting _ _ sink => exact ⟨false, rfl, fun _ => ⟨sink, rfl⟩⟩
  | adopted => exact ⟨true, rfl, fun fails => nomatch fails⟩
  | joined _ collecting => exact nomatch phase.symm.trans collecting
  | rolled _ _ _ collecting => exact nomatch phase.symm.trans collecting

end Course

/-! ### Opens of a run -/

section Opens

open Protocol

/-- No call asks the sink to open. -/
def OpensNothing (calls : Trace) : Prop :=
  ∀ call ∈ calls, call.1.isOpened = false

theorem opensNothing_of_row {calls : Trace} (delivery : calls ∈ row) : OpensNothing calls := by
  rw [row, Language.mem_add] at delivery
  rcases delivery with ⟨line, rfl⟩ | delivery
  · exact List.forall_mem_singleton.mpr rfl
  · obtain ⟨taken, ⟨line, rfl⟩, rest, settled, rfl⟩ := Language.mem_mul.mp delivery
    refine List.forall_mem_append.mpr ⟨List.forall_mem_singleton.mpr rfl, ?_⟩
    rcases (Language.mem_add _ _ _).mp settled with void | ⟨succeeded, rfl⟩
    · rw [(Language.mem_one _).mp void]
      exact List.forall_mem_nil _
    · exact List.forall_mem_singleton.mpr rfl

theorem opensNothing_of_ending {calls : Trace} (closing : calls ∈ ending) :
    OpensNothing calls := by
  obtain ⟨last, delivery, closed, ⟨succeeded, rfl⟩, rfl⟩ := Language.mem_mul.mp closing
  refine List.forall_mem_append.mpr ⟨?_, List.forall_mem_singleton.mpr rfl⟩
  rcases (Language.mem_add _ _ _).mp delivery with void | delivery
  · rw [(Language.mem_one _).mp void]
    exact List.forall_mem_nil _
  · rcases (Language.mem_add _ _ _).mp delivery with ⟨line, rfl⟩ | ⟨line, rfl⟩ <;>
      exact List.forall_mem_singleton.mpr rfl

/-- An event opens nothing, or it finds an idle batcher and makes one call. -/
theorem opensNothing_of_moves {phase after : Phase} {event : Event} {calls : Trace}
    (moves : Moves phase event after calls) :
    OpensNothing calls ∨ phase = .idle ∧ ∃ call, calls = [call] := by
  cases moves with
  | cycle | silent | unused | again => exact .inl (List.forall_mem_nil _)
  | refused sample opening =>
    obtain ⟨stream, rfl⟩ := opening
    exact .inr ⟨rfl, _, rfl⟩
  | adopted sample opening =>
    obtain ⟨stream, rfl⟩ := opening
    exact .inr ⟨rfl, _, rfl⟩
  | rolled before sample different closing =>
    rcases (Language.mem_add _ _ _).mp closing with void | delivery
    · rw [(Language.mem_one _).mp void]
      exact .inl (List.forall_mem_nil _)
    · exact .inl (opensNothing_of_row delivery)
  | ended before closing => exact .inl (opensNothing_of_ending closing)

/-- No open succeeded as long as the batcher is idle. -/
theorem unopened_of_idle {trace : Trace} (reached : Reached .idle trace) (stream : StreamKey) :
    (.opened stream, true) ∉ trace :=
  fun member => adoptions_eq_zero_iff.mp reached.2.1 ⟨stream, member⟩

/-- **After an open that succeeded there is no other one,** in any run. -/
theorem opens_once (sink : σ) (hostname : String) (syncEvery : Nat) (events : List Event) :
    ((logged sink hostname syncEvery).run events).sink.trace.Pairwise fun call later =>
      call.1.isOpened = true → call.2 = true → later.1.isOpened = false := by
  induction events using List.reverseRecOn with
  | nil => exact .nil
  | append_singleton events event ih =>
    obtain ⟨calls, moves, traced⟩ :=
      next_moves (logged_consistent sink hostname syncEvery events) event
    have reached := run_reached sink hostname syncEvery events
    rw [run_concat, traced, List.pairwise_append]
    rcases opensNothing_of_moves moves with none | ⟨idle, call, rfl⟩
    · refine ⟨ih, ?_, fun _ _ later member _ _ => none later member⟩
      exact List.pairwise_of_forall_mem_list fun _ _ later member _ _ => none later member
    · refine ⟨ih, List.pairwise_singleton _ call, fun made member later _ opens succeeded => ?_⟩
      rw [idle] at reached
      obtain ⟨made, outcome⟩ := made
      cases made with
      | opened stream =>
        cases succeeded
        exact absurd member (unopened_of_idle reached stream)
      | emitted | synced | closed => cases opens

end Opens

end Batcher

end MetricRelay
