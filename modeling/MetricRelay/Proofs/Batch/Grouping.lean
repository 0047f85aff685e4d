/-
**Batching is grouping.**

A batcher works on one sample after the other and holds one record. What its sink is handed is
nevertheless a function of the list of all samples that were taken: the rows of their blocks, in
order, each one once, whatever the sink answers (`Batcher.lines_are_rows_of_blocks`).

* `Batcher.taken`: the samples that are taken in a run;
* `Batcher.Delivered`: the rows that were handed to the sink, with the counters of a batcher;
* `Batcher.Gathers`: what the state of a batcher says about the samples so far. Every step keeps it.
-/

import MetricRelay.Proofs.Batch.Blocks

namespace MetricRelay

open Offered

/-- The answer to a sample that was taken, whether it fitted into the record or not. -/
def Offer.isTaken : Offer → Bool
  | .dropped .sinkUnavailable | .dropped .foreignStream | .dropped .stopped => false
  | .merged | .rolled _ | .dropped .conflict | .dropped .emptyPath => true

/-- The samples that are offered, taken or not. -/
def Event.samples (events : List Event) : List Offered :=
  events.filterMap fun event =>
    match event with
    | .offer sample => some sample
    | .cycle | .stop => none

theorem Event.mem_samples {events : List Event} {sample : Offered} :
    sample ∈ Event.samples events ↔ .offer sample ∈ events := by
  unfold Event.samples
  rw [List.mem_filterMap]
  constructor
  · rintro ⟨event, member, same⟩
    cases event with
    | offer other =>
      cases same
      exact member
    | cycle | stop => cases same
  · exact fun member => ⟨.offer sample, member, rfl⟩

namespace Batcher

variable {σ : Type}

section Taken

variable [Sink σ]

/-- The sample of an event, if it is taken. -/
def accepted (batcher : Batcher σ) : Event → List Offered
  | .offer sample => if (batcher.take sample).1.isTaken then [sample] else []
  | .cycle | .stop => []

/-- The samples that are taken in a run. -/
def taken (batcher : Batcher σ) : List Event → List Offered
  | [] => []
  | event :: rest => batcher.accepted event ++ (batcher.next event).taken rest

/-- A longer run takes the samples of a shorter one first. -/
theorem taken_append (batcher : Batcher σ) (first later : List Event) :
    batcher.taken (first ++ later) = batcher.taken first ++ (batcher.run first).taken later := by
  induction first generalizing batcher with
  | nil => rfl
  | cons event rest ih =>
    rw [List.cons_append, taken, taken, ih, List.append_assoc]
    rfl

@[simp] theorem taken_concat (batcher : Batcher σ) (events : List Event) (event : Event) :
    batcher.taken (events ++ [event]) =
      batcher.taken events ++ (batcher.run events).accepted event := by
  rw [taken_append, taken, taken, List.append_nil]

/-- What is taken was offered. -/
theorem taken_sublist (batcher : Batcher σ) (events : List Event) :
    (batcher.taken events).Sublist (Event.samples events) := by
  induction events generalizing batcher with
  | nil => exact .slnil
  | cons event rest ih =>
    have later := ih (batcher.next event)
    cases event with
    | cycle | stop => exact later
    | offer sample =>
      show ((if _ then [sample] else []) ++ _).Sublist (sample :: Event.samples rest)
      by_cases took : (batcher.take sample).1.isTaken = true
      · rw [if_pos took]
        exact later.cons_cons sample
      · rw [if_neg took]
        exact later.cons sample

end Taken

/-! ### Rows and counters -/

/-- The lines that the sink was handed are those of these rows, and the counters tell how many of
them the sink took and refused. -/
structure Delivered (batcher : Batcher (Logged σ)) (rows : List Row) : Prop where
  lines : batcher.sink.handed.map Prod.fst = rows.map Row.line
  taken : batcher.stats.rowsEmitted = batcher.sink.handed.countP fun handed => handed.2
  refused : batcher.stats.sampleFailures = batcher.sink.handed.countP fun handed => !handed.2

namespace Delivered

variable {batcher after : Batcher (Logged σ)} {rows : List Row}

theorem same (delivered : Delivered batcher rows)
    (handed : after.sink.handed = batcher.sink.handed)
    (taken : after.stats.rowsEmitted = batcher.stats.rowsEmitted)
    (refused : after.stats.sampleFailures = batcher.stats.sampleFailures) :
    Delivered after rows where
  lines := by rw [handed, delivered.lines]
  taken := by rw [handed, taken, delivered.taken]
  refused := by rw [handed, refused, delivered.refused]

theorem concat_taken (delivered : Delivered batcher rows) {row : Row}
    (handed : after.sink.handed = batcher.sink.handed ++ [(row.line, true)])
    (taken : after.stats.rowsEmitted = batcher.stats.rowsEmitted + 1)
    (refused : after.stats.sampleFailures = batcher.stats.sampleFailures) :
    Delivered after (rows ++ [row]) where
  lines := by simp [handed, delivered.lines]
  taken := by simp [handed, taken, delivered.taken]
  refused := by simp [handed, refused, delivered.refused]

theorem concat_refused (delivered : Delivered batcher rows) {row : Row}
    (handed : after.sink.handed = batcher.sink.handed ++ [(row.line, false)])
    (taken : after.stats.rowsEmitted = batcher.stats.rowsEmitted)
    (refused : after.stats.sampleFailures = batcher.stats.sampleFailures + 1) :
    Delivered after (rows ++ [row]) where
  lines := by simp [handed, delivered.lines]
  taken := by simp [handed, taken, delivered.taken]
  refused := by simp [handed, refused, delivered.refused]

/-- Every row was taken or refused. -/
theorem taken_add_refused (delivered : Delivered batcher rows) :
    batcher.stats.rowsEmitted + batcher.stats.sampleFailures = rows.length := by
  have lengths := congrArg List.length delivered.lines
  rw [List.length_map, List.length_map] at lengths
  rw [delivered.taken, delivered.refused, ← lengths,
    List.length_eq_countP_add_countP fun handed => handed.2]
  simp

end Delivered

/-! ### The invariant -/

/-- A batch is open after some samples were taken, all of one stream: the record is that of the last
block, and the rows of the blocks before it were handed over. -/
structure Collects (batcher : Batcher (Logged σ)) (timestamp : Int) (samples : List Offered)
    (closed : List (List Offered)) (opened : List Offered) : Prop where
  cut : blocks samples = closed ++ [opened]
  second : ∀ sample ∈ opened, sample.timestamp = timestamp
  record : batcher.record = gather opened
  own : ∀ sample ∈ samples, batcher.stream = some (sample.stream batcher.hostname)
  delivered : Delivered batcher (closed.filterMap (row? batcher.hostname))

/-- What a batcher holds and has handed over after some samples were taken. -/
def Gathers (batcher : Batcher (Logged σ)) (samples : List Offered) : Prop :=
  match batcher.phase with
  | .idle => samples = [] ∧ Delivered batcher []
  | .collecting timestamp => ∃ closed opened, Collects batcher timestamp samples closed opened
  | .stopped =>
    (∀ first ∈ samples, ∀ later ∈ samples,
      first.stream batcher.hostname = later.stream batcher.hostname) ∧
      Delivered batcher (rows batcher.hostname samples)

namespace Collects

variable {batcher : Batcher (Logged σ)} {timestamp : Int} {samples opened : List Offered}
  {closed : List (List Offered)}

/-- The open block of a batcher gives the row that its record gives. -/
theorem row?_opened (collects : Collects batcher timestamp samples closed opened)
    {stream : StreamKey} (known : batcher.stream = some stream) :
    row? batcher.hostname opened = Row.ofRecord? timestamp batcher.record stream.host := by
  obtain ⟨whole, inhabited, _⟩ := List.splitBy_eq_iff.mp collects.cut
  have nonempty : opened ≠ [] := by
    rintro rfl
    exact inhabited (by simp)
  rw [collects.record]
  refine row?_of_uniform nonempty collects.second fun sample member => ?_
  have among : sample ∈ samples := by
    rw [whole, List.flatten_concat]
    exact List.mem_append_right _ member
  rw [collects.own sample among] at known
  exact Option.some.inj known

/-- What is handed over touches nothing else. -/
theorem same {after : Batcher (Logged σ)}
    (collects : Collects batcher timestamp samples closed opened)
    (hostname : after.hostname = batcher.hostname) (stream : after.stream = batcher.stream)
    (record : after.record = batcher.record) (handed : after.sink.handed = batcher.sink.handed)
    (taken : after.stats.rowsEmitted = batcher.stats.rowsEmitted)
    (refused : after.stats.sampleFailures = batcher.stats.sampleFailures) :
    Collects after timestamp samples closed opened where
  cut := collects.cut
  second := collects.second
  record := record.trans collects.record
  own := by
    rw [hostname, stream]
    exact collects.own
  delivered := by
    rw [hostname]
    exact collects.delivered.same handed taken refused

theorem own_concat (collects : Collects batcher timestamp samples closed opened)
    {sample : Offered} (known : batcher.stream = some (sample.stream batcher.hostname)) :
    ∀ other ∈ samples ++ [sample], batcher.stream = some (other.stream batcher.hostname) := by
  intro other member
  rcases List.mem_append.mp member with old | new
  · exact collects.own other old
  · rw [List.mem_singleton.mp new, known]

/-- A sample of the same second joins the open block. -/
theorem join {sample : Offered}
    (collects : Collects batcher sample.timestamp samples closed opened)
    (known : batcher.stream = some (sample.stream batcher.hostname)) (offer : Offer) :
    Collects (batcher.mergeSample sample.route.path sample.value offer).2 sample.timestamp
      (samples ++ [sample]) closed (opened ++ [sample]) where
  cut := blocks_concat_same collects.cut collects.second
  second := by
    intro other member
    rcases List.mem_append.mp member with old | new
    · exact collects.second other old
    · rw [List.mem_singleton.mp new]
  record := by
    rw [mergeSample_record, collects.record, gather_concat]
    rfl
  own := by
    rw [mergeSample_stream, mergeSample_hostname]
    exact collects.own_concat known
  delivered := by
    rw [mergeSample_hostname]
    exact collects.delivered.same (by simp) (by simp) (by simp)

/-- The rows of all blocks are those of the closed ones and the one that the record gives. -/
theorem rows_eq (collects : Collects batcher timestamp samples closed opened)
    {stream : StreamKey} (known : batcher.stream = some stream) :
    (closed ++ [opened]).filterMap (row? batcher.hostname) =
      closed.filterMap (row? batcher.hostname) ++
        (Row.ofRecord? timestamp batcher.record stream.host).toList := by
  rw [← collects.row?_opened known, List.filterMap_append]
  cases found : row? batcher.hostname opened <;> simp [found]

end Collects

/-- A sample that is merged is taken, whether it fits or not. -/
theorem mergeSample_isTaken (batcher : Batcher σ) (path : List String) (value : Measure)
    {offer : Offer} (given : offer.isTaken = true) :
    (batcher.mergeSample path value offer).1.isTaken = true := by
  rcases mergeSample_answer batcher path value offer with same | ⟨_, conflict | emptyPath⟩
  · rw [same, given]
  · rw [conflict]
    rfl
  · rw [emptyPath]
    rfl

variable [Sink σ]

/-! ### Steps -/

/-- Closing a batch hands over its row, if it has one. -/
theorem Closing.hands_over {batcher : Batcher (Logged σ)} {stream : StreamKey} {timestamp : Int}
    {result : Bool × Batcher (Logged σ)} (closing : Closing batcher stream timestamp result)
    {rows : List Row} (before : Delivered batcher rows) :
    Delivered result.2
      (rows ++ (Row.ofRecord? timestamp batcher.record stream.host).toList) := by
  cases closing with
  | empty void =>
    rw [void]
    show Delivered batcher (rows ++ [])
    rw [List.append_nil]
    exact before
  | lost failure sink full emit =>
    rw [Row.ofRecord?_of_full full]
    exact before.concat_refused (Logged.handed_of_perform (.emitted _) emit) rfl rfl
  | delivered sink full emit early =>
    rw [Row.ofRecord?_of_full full]
    exact before.concat_taken (Logged.handed_of_perform (.emitted _) emit) rfl rfl
  | settled sink after full emit due sync | unsettled sink after failure full emit due sync =>
    rw [Row.ofRecord?_of_full full]
    refine before.concat_taken ?_ rfl rfl
    rw [Logged.handed_of_perform .synced sync, Logged.handed_of_perform (.emitted _) emit]
    simp [SinkCall.line?, Except.toBool]

section Roll

variable {batcher : Batcher (Logged σ)} {timestamp : Int} {samples opened : List Offered}
  {closed : List (List Offered)}

/-- A sample of another second begins a block, and the row of the block before is handed over. -/
theorem Collects.roll (collects : Collects batcher timestamp samples closed opened)
    {sample : Offered} (known : batcher.stream = some (sample.stream batcher.hostname))
    (different : timestamp ≠ sample.timestamp) {emitted : Bool} {after : Batcher (Logged σ)}
    (closing : Closing batcher (sample.stream batcher.hostname) timestamp (emitted, after))
    (offer : Offer) :
    Collects (mergeSample { after with phase := .collecting sample.timestamp } sample.route.path
      sample.value offer).2 sample.timestamp (samples ++ [sample]) (closed ++ [opened])
      [sample] := by
  have handed := closing.hands_over collects.delivered
  rw [← collects.rows_eq known] at handed
  obtain ⟨sink, stats, frame⟩ := closing.frame
  simp only at frame handed
  subst frame
  refine ⟨blocks_concat_other collects.cut ?_, by simp, ?_, ?_, ?_⟩
  · intro other member
    rw [collects.second other member]
    exact different
  · rw [mergeSample_record]
    rfl
  · rw [mergeSample_stream, mergeSample_hostname]
    exact collects.own_concat known
  · rw [mergeSample_hostname]
    exact handed.same (by simp) (by simp) (by simp)

end Roll

/-- **Taking a sample keeps the invariant.** -/
theorem Taking.gathers {batcher : Batcher (Logged σ)} (consistent : batcher.Consistent)
    {sample : Offered} {result : Offer × Batcher (Logged σ)}
    (taking : Taking batcher sample result) {samples : List Offered}
    (gathers : Gathers batcher samples) :
    Gathers result.2 (samples ++ if result.1.isTaken then [sample] else []) := by
  unfold Gathers at gathers
  cases taking with
  | stopped phase =>
    simp only [Offer.isTaken, Bool.false_eq_true, if_false, List.append_nil]
    exact gathers
  | waiting phase failed =>
    simp only [Offer.isTaken, Bool.false_eq_true, if_false, List.append_nil]
    rw [phase] at gathers
    simp only [Gathers, phase]
    exact ⟨gathers.1, gathers.2.same rfl rfl rfl⟩
  | refused failure sink phase ready call =>
    simp only [Offer.isTaken, Bool.false_eq_true, if_false, List.append_nil]
    rw [phase] at gathers
    simp only [Gathers, phase]
    refine ⟨gathers.1, gathers.2.same ?_ rfl rfl⟩
    rw [Logged.handed_of_perform (.opened _) call]
    exact List.append_nil _
  | adopted sink phase ready call =>
    rw [if_pos (mergeSample_isTaken _ _ _ rfl)]
    unfold Consistent at consistent
    rw [phase] at gathers consistent
    simp only [Gathers, mergeSample_phase]
    refine ⟨[], [sample], ?_, by simp, ?_, ?_, ?_⟩
    · rw [gathers.1]
      rfl
    · rw [mergeSample_record, consistent.2]
      rfl
    · rw [gathers.1]
      simp
    · refine gathers.2.same ?_ (by simp) (by simp)
      rw [mergeSample_sink, Logged.handed_of_perform (.opened _) call]
      exact List.append_nil _
  | foreign stream before phase known other =>
    simp only [Offer.isTaken, Bool.false_eq_true, if_false, List.append_nil]
    rw [phase] at gathers
    obtain ⟨closed, opened, collects⟩ := gathers
    simp only [Gathers, phase]
    exact ⟨closed, opened, collects.same rfl rfl rfl rfl rfl rfl⟩
  | joined phase known =>
    rw [if_pos (mergeSample_isTaken _ _ _ rfl)]
    rw [phase] at gathers
    obtain ⟨closed, opened, collects⟩ := gathers
    simp only [Gathers, mergeSample_phase, phase]
    exact ⟨closed, opened ++ [sample], collects.join known .merged⟩
  | rolled before emitted after phase known different closing =>
    rw [if_pos (mergeSample_isTaken _ _ _ rfl)]
    rw [phase] at gathers
    obtain ⟨closed, opened, collects⟩ := gathers
    simp only [Gathers, mergeSample_phase]
    exact ⟨closed ++ [opened], [sample], collects.roll known different closing (.rolled emitted)⟩

/-- **Stopping keeps the invariant.** -/
theorem Stopping.gathers {batcher after : Batcher (Logged σ)} (stopping : Stopping batcher after)
    {samples : List Offered} (gathers : Gathers batcher samples) : Gathers after samples := by
  unfold Gathers at gathers
  -- While a batch is open, it is enough to hand over what the record gives.
  have collected {timestamp : Int} {stream : StreamKey}
      (phase : batcher.phase = .collecting timestamp) (known : batcher.stream = some stream)
      (handed : ∀ rows, Delivered batcher rows → Delivered after
        (rows ++ (Row.ofRecord? timestamp batcher.record stream.host).toList))
      (hostname : after.hostname = batcher.hostname) (stopped : after.phase = .stopped) :
      Gathers after samples := by
    rw [phase] at gathers
    obtain ⟨closed, opened, collects⟩ := gathers
    simp only [Gathers, stopped]
    rw [hostname, rows, collects.cut, collects.rows_eq known]
    refine ⟨fun first firstMem later laterMem => ?_, handed _ collects.delivered⟩
    exact Option.some.inj ((collects.own first firstMem).symm.trans (collects.own later laterMem))
  cases stopping with
  | again phase => exact gathers
  | unused phase =>
    rw [phase] at gathers
    simp only [Gathers]
    rw [gathers.1]
    exact ⟨by simp, gathers.2.same rfl rfl rfl⟩
  | empty stream before result sink phase known void close =>
    refine collected phase known (fun rows delivered => ?_) rfl rfl
    rw [void]
    show Delivered _ (rows ++ [])
    rw [List.append_nil]
    refine delivered.same ?_ rfl rfl
    rw [Logged.handed_of_perform .closed close]
    exact List.append_nil _
  | lost stream before failure result sink after phase known full emit close =>
    refine collected phase known (fun rows delivered => ?_) rfl rfl
    rw [Row.ofRecord?_of_full full]
    refine delivered.concat_refused ?_ rfl rfl
    rw [Logged.handed_of_perform .closed close, Logged.handed_of_perform (.emitted _) emit]
    exact List.append_nil _
  | delivered stream before result sink after phase known full emit close =>
    refine collected phase known (fun rows delivered => ?_) rfl rfl
    rw [Row.ofRecord?_of_full full]
    refine delivered.concat_taken ?_ rfl rfl
    rw [Logged.handed_of_perform .closed close, Logged.handed_of_perform (.emitted _) emit]
    exact List.append_nil _

/-- **Every step keeps the invariant.** -/
theorem next_gathers {batcher : Batcher (Logged σ)} (consistent : batcher.Consistent)
    {samples : List Offered} (gathers : Gathers batcher samples) (event : Event) :
    Gathers (batcher.next event) (samples ++ batcher.accepted event) := by
  cases event with
  | cycle =>
    show Gathers batcher.beginCycle (samples ++ [])
    rw [List.append_nil]
    unfold Gathers at gathers
    cases phase : batcher.phase with
    | idle =>
      rw [phase] at gathers
      simp only [Gathers, beginCycle, phase]
      exact ⟨gathers.1, gathers.2.same rfl rfl rfl⟩
    | collecting timestamp =>
      rw [phase] at gathers
      obtain ⟨closed, opened, collects⟩ := gathers
      simp only [Gathers, beginCycle, phase]
      exact ⟨closed, opened, collects.same rfl rfl rfl rfl rfl rfl⟩
    | stopped =>
      rw [phase] at gathers
      simp only [Gathers, beginCycle, phase]
      exact ⟨gathers.1, gathers.2.same rfl rfl rfl⟩
  | offer sample => exact (take_cases consistent sample).gathers consistent gathers
  | stop =>
    show Gathers batcher.stop (samples ++ [])
    rw [List.append_nil]
    exact (stop_cases consistent).gathers gathers

/-- **The invariant holds in every run.** -/
theorem run_gathers (sink : σ) (hostname : String) (syncEvery : Nat) (events : List Event) :
    Gathers ((logged sink hostname syncEvery).run events)
      ((logged sink hostname syncEvery).taken events) := by
  induction events using List.reverseRecOn with
  | nil => exact ⟨rfl, rfl, rfl, rfl⟩
  | append_singleton events event ih =>
    rw [run_concat, taken_concat]
    exact next_gathers (logged_consistent sink hostname syncEvery events) ih event

/-! ### Lines and rows -/

omit [Sink σ] in
/-- The lines that the sink took are those of some of the rows, in order. -/
theorem Delivered.sublist {handed : List (String × Bool)} {rows : List Row}
    (lines : handed.map Prod.fst = rows.map Row.line) :
    ∃ kept : List Row, kept.Sublist rows ∧
      (handed.filter fun line => line.2).map Prod.fst = kept.map Row.line := by
  induction rows generalizing handed with
  | nil =>
    rw [List.map_nil, List.map_eq_nil_iff] at lines
    exact ⟨[], .slnil, by rw [lines]; rfl⟩
  | cons row rest ih =>
    cases handed with
    | nil => cases lines
    | cons first others =>
      obtain ⟨same, sameRest⟩ := List.cons.inj lines
      obtain ⟨kept, sublist, kept_eq⟩ := ih sameRest
      cases took : first.2 with
      | false => exact ⟨kept, sublist.cons row, by rw [List.filter_cons, took]; exact kept_eq⟩
      | true =>
        refine ⟨row :: kept, sublist.cons_cons row, ?_⟩
        rw [List.filter_cons, took, if_pos rfl, List.map_cons, List.map_cons, same, kept_eq]

/-- **The rows of a run are those of the blocks of the samples that it takes.** Let a batcher be
asked for any events and then be stopped, over a sink that succeeds and fails as it likes:

* all samples that are taken belong to one stream;
* the sink is handed exactly the lines of the rows of their blocks, in order, each one once; before
  the stop, those of all blocks but the last one;
* every row is counted, as emitted if the sink took it and as failed if not;
* the lines that the sink took are those of some of the rows, in order. If the seconds of the
  samples that were offered never decrease, the seconds of these rows increase. -/
theorem lines_are_rows_of_blocks (sink : σ) (hostname : String) (syncEvery : Nat)
    (events : List Event) :
    let batcher := (logged sink hostname syncEvery).run events
    let samples := (logged sink hostname syncEvery).taken events
    (∀ first ∈ samples, ∀ later ∈ samples, first.stream hostname = later.stream hostname) ∧
    batcher.stop.sink.handed.map Prod.fst = (rows hostname samples).map Row.line ∧
    (.stop ∉ events → batcher.sink.handed.map Prod.fst =
      ((blocks samples).dropLast.filterMap (row? hostname)).map Row.line) ∧
    batcher.stop.stats.rowsEmitted = batcher.stop.sink.handed.countP (fun line => line.2) ∧
    batcher.stop.stats.sampleFailures = batcher.stop.sink.handed.countP (fun line => !line.2) ∧
    batcher.stop.stats.rowsEmitted + batcher.stop.stats.sampleFailures =
      (rows hostname samples).length ∧
    ∃ kept : List Row, kept.Sublist (rows hostname samples) ∧
      (batcher.stop.sink.handed.filter fun line => line.2).map Prod.fst = kept.map Row.line ∧
      ((Event.samples events).Pairwise (fun first later => first.timestamp ≤ later.timestamp) →
        kept.Pairwise fun first later => first.timestamp < later.timestamp) := by
  intro batcher samples
  have consistent : batcher.Consistent := logged_consistent sink hostname syncEvery events
  have gathers : Gathers batcher samples := run_gathers sink hostname syncEvery events
  have stopped : Gathers batcher.stop samples := (stop_cases consistent).gathers gathers
  have hostname_eq : batcher.hostname = hostname :=
    logged_hostname sink hostname syncEvery events
  have stop_hostname : batcher.stop.hostname = hostname :=
    (stop_cases consistent).frame.1.trans hostname_eq
  simp only [Gathers, (stop_cases consistent).phase, stop_hostname] at stopped
  obtain ⟨uniform, delivered⟩ := stopped
  refine ⟨uniform, delivered.lines, ?_, delivered.taken, delivered.refused,
    delivered.taken_add_refused, ?_⟩
  · intro running
    have active : batcher.phase ≠ .stopped := fun phase =>
      running ((logged_stopped_iff sink hostname syncEvery events).mp phase)
    unfold Gathers at gathers
    cases phase : batcher.phase with
    | stopped => exact absurd phase active
    | idle =>
      rw [phase] at gathers
      rw [gathers.1, gathers.2.lines]
      rfl
    | collecting timestamp =>
      rw [phase] at gathers
      obtain ⟨closed, opened, collects⟩ := gathers
      rw [collects.delivered.lines, collects.cut, List.dropLast_concat, hostname_eq]
  · obtain ⟨kept, sublist, lines⟩ := Delivered.sublist delivered.lines
    refine ⟨kept, sublist, lines, fun ordered => ?_⟩
    exact (rows_increasing hostname (ordered.sublist (taken_sublist _ events))).sublist sublist

end Batcher

end MetricRelay
