/-
**Values do not steer a report.**

Two reporters with one filter, asked at the same moments for snapshots with the same names, do the
same things, whatever the values of the metrics are and however they are shown.

* `Snapshot.SameNames`: snapshots with the same names in each kind;
* `Measure.Agrees`: what two reporters show of one metric. A gauge or a counter is shown as it is;
  of another kind they show the count, alone or in a bundle;
* `Request.Alike`: requests that offer twins to the batchers of two reporters;
* `Reporter.Shown`: the twins that show the metrics of one list of requests in two ways.

Main statement: `Reporter.values_do_not_steer`.
-/

import MetricRelay.Proofs.Batch.Twins
import MetricRelay.Proofs.Report.Account

namespace MetricRelay

/-! ### What is shown of a snapshot -/

/-- The names of a table. -/
def Table.names {α : Type} (table : Table α) : List String :=
  table.entries.map Prod.fst

/-- The snapshots have the same names in each kind. -/
structure Snapshot.SameNames (first second : Snapshot) : Prop where
  gauges : first.gauges.names = second.gauges.names
  counters : first.counters.names = second.counters.names
  histograms : first.histograms.names = second.histograms.names
  meters : first.meters.names = second.meters.names
  timers : first.timers.names = second.timers.names

/-- The value shows this count, as its mode does. -/
def Measure.ShowsCount (mode : ValueMode) (count : Int64) (value : Measure) : Prop :=
  match mode with
  | .primary => value = .scalar (.integer count)
  | .statistics => ∃ fields, value = .bundle fields ∧ fields.lookup "count" = some (.integer count)

/-- The values show one metric of a kind in two modes. -/
def Measure.Agrees (kind : MetricKind) (mode otherMode : ValueMode) (value other : Measure) :
    Prop :=
  match kind with
  | .gauge | .counter => value = other
  | .histogram | .meter | .timer =>
    ∃ count, value.ShowsCount mode count ∧ other.ShowsCount otherMode count

/-- The samples are of one name and kind, and their values stand in a relation. -/
structure Sample.Paired (related : MetricKind → Measure → Measure → Prop) (sample other : Sample) :
    Prop where
  name : sample.name = other.name
  kind : sample.kind = other.kind
  value : related sample.kind sample.value other.value

/-- What is shown of a metric with a count, in any mode, shows the count. -/
theorem Measure.showsCount_either (mode : ValueMode) {count : Int64} {fields : Bundle}
    (named : fields.lookup "count" = some (.integer count)) :
    ShowsCount mode count (match mode with
      | .primary => .count count
      | .statistics => .bundle fields) := by
  cases mode with
  | primary => rfl
  | statistics => exact ⟨fields, rfl, named⟩

theorem Measure.showsCount_both (mode otherMode : ValueMode) (count : Int64)
    {fields otherFields : Bundle} (named : fields.lookup "count" = some (.integer count))
    (otherNamed : otherFields.lookup "count" = some (.integer count)) :
    ∃ shown,
      ShowsCount mode shown (match mode with
        | .primary => .count count
        | .statistics => .bundle fields) ∧
      ShowsCount otherMode shown (match otherMode with
        | .primary => .count count
        | .statistics => .bundle otherFields) :=
  ⟨count, showsCount_either mode named, showsCount_either otherMode otherNamed⟩

/-- The requests ask at one moment for snapshots with the same names. -/
inductive Request.SameNames : Request → Request → Prop where
  | report (clock : Clock) {first second : Snapshot} (names : first.SameNames second) :
      SameNames (.report clock first) (.report clock second)
  | stop : SameNames .stop .stop

namespace Snapshot

variable {related : MetricKind → Measure → Measure → Prop}

theorem tableSamples_paired {α : Type} (kind : MetricKind) {table other : Table α}
    {display otherDisplay : α → Measure}
    (entries : List.Forall₂ (fun entry otherEntry => entry.1 = otherEntry.1 ∧
      related kind (display entry.2) (otherDisplay otherEntry.2)) table.entries other.entries) :
    List.Forall₂ (Sample.Paired related) (tableSamples kind display table)
      (tableSamples kind otherDisplay other) := by
  unfold tableSamples
  rw [List.forall₂_map_left_iff, List.forall₂_map_right_iff]
  exact entries.imp fun entry otherEntry both => ⟨both.1, rfl, both.2⟩

theorem tableSamples_of_names {α : Type} (kind : MetricKind) {table other : Table α}
    (names : table.names = other.names) (display otherDisplay : α → Measure) :
    List.Forall₂ (Sample.Paired fun _ _ _ => True) (tableSamples kind display table)
      (tableSamples kind otherDisplay other) := by
  refine tableSamples_paired kind ?_
  unfold Table.names at names
  rw [← List.forall₂_eq_eq_eq, List.forall₂_map_left_iff, List.forall₂_map_right_iff] at names
  exact names.imp fun entry otherEntry name => ⟨name, trivial⟩

theorem tableSamples_of_same {α : Type} (kind : MetricKind) (table : Table α)
    {display otherDisplay : α → Measure}
    (values : ∀ value, related kind (display value) (otherDisplay value)) :
    List.Forall₂ (Sample.Paired related) (tableSamples kind display table)
      (tableSamples kind otherDisplay table) :=
  tableSamples_paired kind (List.forall₂_same.mpr fun entry _ => ⟨rfl, values entry.2⟩)

/-- **Snapshots with the same names give the same samples, but for their values.** -/
theorem samples_of_names {first second : Snapshot} (same : first.SameNames second)
    (mode otherMode : ValueMode) (units otherUnits : Units) :
    List.Forall₂ (Sample.Paired fun _ _ _ => True) (first.samples mode units)
      (second.samples otherMode otherUnits) := by
  unfold samples
  exact List.rel_append (List.rel_append (List.rel_append (List.rel_append
    (tableSamples_of_names .gauge same.gauges _ _)
    (tableSamples_of_names .counter same.counters _ _))
    (tableSamples_of_names .histogram same.histograms _ _))
    (tableSamples_of_names .meter same.meters _ _))
    (tableSamples_of_names .timer same.timers _ _)

/-- **What is shown of one snapshot in two ways agrees.** -/
theorem samples_agree (snapshot : Snapshot) (mode otherMode : ValueMode)
    (units otherUnits : Units) :
    List.Forall₂ (Sample.Paired fun kind => Measure.Agrees kind mode otherMode)
      (snapshot.samples mode units) (snapshot.samples otherMode otherUnits) := by
  unfold samples
  exact List.rel_append (List.rel_append (List.rel_append (List.rel_append
    (tableSamples_of_same .gauge snapshot.gauges fun _ => rfl)
    (tableSamples_of_same .counter snapshot.counters fun _ => rfl))
    (tableSamples_of_same .histogram snapshot.histograms fun histogram =>
      Measure.showsCount_both mode otherMode histogram.count rfl rfl))
    (tableSamples_of_same .meter snapshot.meters fun meter =>
      Measure.showsCount_both mode otherMode meter.count rfl rfl))
    (tableSamples_of_same .timer snapshot.timers fun timer =>
      Measure.showsCount_both mode otherMode timer.count rfl rfl)

end Snapshot

/-! ### Requests that offer twins -/

/-- The samples of two reporters are one but for the value, and where they are offered they are the
halves of a twin. -/
structure Sample.Alike (holds : Twin → Prop) (timestamp : Int) (sample other : Sample) : Prop where
  name : sample.name = other.name
  kind : sample.kind = other.kind
  twin : ∀ route, Route.ofName? sample.name = some route →
    holds ⟨route, timestamp, sample.value, other.value⟩

/-- The requests ask at one moment for samples that are alike, as two reporters show them. -/
inductive Request.Alike (holds : Twin → Prop) (mode otherMode : ValueMode)
    (units otherUnits : Units) : Request → Request → Prop where
  | report (clock : Clock) {snapshot other : Snapshot}
      (samples : List.Forall₂ (Sample.Alike holds clock.second) (snapshot.samples mode units)
        (other.samples otherMode otherUnits)) :
      Alike holds mode otherMode units otherUnits (.report clock snapshot) (.report clock other)
  | stop : Alike holds mode otherMode units otherUnits .stop .stop

theorem Sample.Alike.imp {holds also : Twin → Prop} (weaker : ∀ twin, holds twin → also twin)
    {timestamp : Int} {sample other : Sample} (alike : Sample.Alike holds timestamp sample other) :
    Sample.Alike also timestamp sample other :=
  ⟨alike.name, alike.kind, fun route known => weaker _ (alike.twin route known)⟩

namespace Reporter

variable {σ : Type} {holds : Twin → Prop} {first second : Reporter σ}

theorem offered?_alike {filter : Filter} {timestamp : Int} {sample other : Sample}
    (alike : Sample.Alike holds timestamp sample other) :
    Option.Rel (Event.Alike holds) (offered? filter timestamp sample)
      (offered? filter timestamp other) := by
  unfold offered?
  rw [← alike.name, ← alike.kind]
  by_cases shown : filter.accepts sample.name sample.kind = true
  · rw [if_pos shown, if_pos shown]
    cases known : Route.ofName? sample.name with
    | none => exact .none
    | some route =>
      exact .some (.offer ⟨route, timestamp, sample.value, other.value⟩ (alike.twin route known))
  · rw [if_neg shown, if_neg shown]
    exact .none

/-- **Alike requests ask alike things of the batchers.** -/
theorem asked_alike (filter : first.filter = second.filter) {requests others : List Request}
    (alike : List.Forall₂
      (Request.Alike holds first.mode second.mode first.units second.units) requests others) :
    List.Forall₂ (Event.Alike holds) (first.asked requests) (second.asked others) := by
  induction alike with
  | nil => exact .nil
  | cons head rest ih =>
    cases head with
    | stop => exact .cons .stop .nil
    | report clock samples =>
      refine List.rel_append ?_ ih
      unfold cycle
      rw [filter]
      exact .cons .cycle (List.rel_filterMap (fun _ _ pair => offered?_alike pair) samples)

/-! ### The counters of reporters -/

/-- The reporters have one filter and have counted the same themselves. -/
structure SameCounts (first second : Reporter σ) : Prop where
  filter : first.filter = second.filter
  cycles : first.cycles = second.cycles
  seen : first.samplesSeen = second.samplesSeen
  filtered : first.samplesFiltered = second.samplesFiltered
  unroutable : first.droppedUnroutable = second.droppedUnroutable

variable [Sink σ]

theorem take_sameCounts (same : SameCounts first second) {timestamp : Int} {sample other : Sample}
    (alike : Sample.Alike holds timestamp sample other) :
    SameCounts (take timestamp first sample) (take timestamp second other) := by
  obtain ⟨filter, cycles, seen, filtered, unroutable⟩ := same
  have accepts : second.filter.accepts sample.name sample.kind =
      first.filter.accepts sample.name sample.kind := by
    rw [filter]
  unfold take
  simp only [← alike.name, ← alike.kind, accepts]
  by_cases shown : first.filter.accepts sample.name sample.kind = true
  · rw [if_pos shown, if_pos shown]
    cases Route.ofName? sample.name with
    | none => exact ⟨filter, cycles, congrArg (· + 1) seen, filtered, congrArg (· + 1) unroutable⟩
    | some route => exact ⟨filter, cycles, congrArg (· + 1) seen, filtered, unroutable⟩
  · rw [if_neg shown, if_neg shown]
    exact ⟨filter, cycles, congrArg (· + 1) seen, congrArg (· + 1) filtered, unroutable⟩

theorem foldl_take_sameCounts (same : SameCounts first second) {timestamp : Int}
    {samples others : List Sample}
    (alike : List.Forall₂ (Sample.Alike holds timestamp) samples others) :
    SameCounts (samples.foldl (take timestamp) first) (others.foldl (take timestamp) second) := by
  induction alike generalizing first second with
  | nil => exact same
  | cons head rest ih => exact ih (take_sameCounts same head)

theorem report_sameCounts (same : SameCounts first second) (inService : InService first)
    (otherInService : InService second) {clock : Clock} {snapshot other : Snapshot}
    (alike : List.Forall₂ (Sample.Alike holds clock.second)
      (snapshot.samples first.mode first.units) (other.samples second.mode second.units)) :
    SameCounts (first.report clock snapshot) (second.report clock other) := by
  unfold report
  rw [if_neg (mt Batcher.isStopped_iff.mp inService.running),
    if_neg (mt Batcher.isStopped_iff.mp otherInService.running)]
  refine foldl_take_sameCounts ?_ alike
  exact ⟨same.filter, congrArg (· + 1) same.cycles, same.seen, same.filtered, same.unroutable⟩

/-- **Alike requests are counted alike.** -/
theorem live_sameCounts {mode otherMode : ValueMode} {units otherUnits : Units}
    (same : SameCounts first second) (inService : InService first)
    (otherInService : InService second) (shows : first.mode = mode ∧ first.units = units)
    (otherShows : second.mode = otherMode ∧ second.units = otherUnits)
    {requests others : List Request}
    (alike : List.Forall₂ (Request.Alike holds mode otherMode units otherUnits) requests others) :
    SameCounts (first.live requests) (second.live others) := by
  induction alike generalizing first second with
  | nil => exact same
  | cons head rest ih =>
    cases head with
    | stop =>
      rw [live_stop inService.consistent, live_stop otherInService.consistent]
      exact ⟨same.filter, same.cycles, same.seen, same.filtered, same.unroutable⟩
    | @report clock snapshot other samples =>
      obtain ⟨rfl, rfl⟩ := shows
      obtain ⟨rfl, rfl⟩ := otherShows
      exact ih (report_sameCounts same inService otherInService samples)
        (report_counts inService clock snapshot).1 (report_counts otherInService clock other).1
        (report_frame first clock snapshot).2 (report_frame second clock other).2

/-! ### Two lives -/

variable (script : List SinkCall → Except Failure Unit) (hostname : String) (syncEvery : Nat)
  (filter : Filter) (mode otherMode : ValueMode) (units otherUnits : Units)

/-- **Alike requests lead to alike lives.** -/
theorem live_alike {requests others : List Request}
    (alike : List.Forall₂ (Request.Alike holds mode otherMode units otherUnits) requests others) :
    let sink : Scripted := { script }
    let start := logged sink hostname syncEvery filter mode units
    let otherStart := logged sink hostname syncEvery filter otherMode otherUnits
    let first := start.live requests
    let second := otherStart.live others
    let taken := (Batcher.logged sink hostname syncEvery).taken
    Batcher.Alike first.batcher second.batcher ∧ SameCounts first second ∧
    ∃ rows otherRows : List Row,
      Batcher.Delivered first.batcher rows ∧ Batcher.Delivered second.batcher otherRows ∧
      Offered.rows hostname (taken (start.asked requests)) =
        rows ++ first.batcher.openRow.toList ∧
      Offered.rows hostname (taken (otherStart.asked others)) =
        otherRows ++ second.batcher.openRow.toList ∧
      List.Forall₂ (Row.Alike holds) rows otherRows := by
  intro sink start otherStart first second taken
  have lived : first.batcher = _ := logged_live sink hostname syncEvery filter mode units requests
  have otherLived : second.batcher = _ :=
    logged_live sink hostname syncEvery filter otherMode otherUnits others
  have consistent := Batcher.logged_consistent sink hostname syncEvery
  have named := Batcher.logged_hostname sink hostname syncEvery
  have gathers := Batcher.run_gathers sink hostname syncEvery
  have asked : List.Forall₂ (Event.Alike holds) (start.asked requests) (otherStart.asked others) :=
    asked_alike (show start.filter = otherStart.filter from rfl) alike
  have begun : Batcher.Alike (.logged sink hostname syncEvery) (.logged sink hostname syncEvery) :=
    .of _ _ (.refl _) rfl
  obtain ⟨run, twins, held, left, right⟩ :=
    Batcher.run_alike begun (consistent []) (consistent []) asked
  obtain ⟨rows, delivered, split⟩ := (gathers (start.asked requests)).rows_split (consistent _)
  obtain ⟨otherRows, otherDelivered, otherSplit⟩ :=
    (gathers (otherStart.asked others)).rows_split (consistent _)
  rw [named] at split otherSplit
  rw [← lived, ← otherLived] at run
  rw [← lived] at delivered split
  rw [← otherLived] at otherDelivered otherSplit
  refine ⟨run, ?_, rows, otherRows, delivered, otherDelivered, split, otherSplit, ?_⟩
  · have counted : SameCounts start otherStart := ⟨rfl, rfl, rfl, rfl, rfl⟩
    exact live_sameCounts counted (logged_inService sink hostname syncEvery filter mode units)
      (logged_inService sink hostname syncEvery filter otherMode otherUnits) ⟨rfl, rfl⟩ ⟨rfl, rfl⟩
      alike
  · have every := Twin.rows_alike hostname held
    rw [← left, ← right, split, otherSplit] at every
    have handed := List.forall₂_take rows.length every
    have length : rows.length = otherRows.length := by
      rw [← delivered.taken_add_refused, ← otherDelivered.taken_add_refused, run.stats]
    rw [List.take_left, length, List.take_left] at handed
    exact handed

/-- The twin shows one metric that is asked for, in its second and at its path. -/
def Shown (requests : List Request) (twin : Twin) : Prop :=
  ∃ (clock : Clock) (snapshot : Snapshot) (name : String) (kind : MetricKind),
    .report clock snapshot ∈ requests ∧ clock.second = twin.timestamp ∧
    Route.ofName? name = some twin.route ∧
    ⟨name, kind, twin.first⟩ ∈ snapshot.samples mode units ∧
    ⟨name, kind, twin.second⟩ ∈ snapshot.samples otherMode otherUnits ∧
    Measure.Agrees kind mode otherMode twin.first twin.second

/-- The samples of one snapshot that is asked for show its metrics in two ways. -/
theorem samples_shown {requests : List Request} {clock : Clock} {snapshot : Snapshot}
    (member : .report clock snapshot ∈ requests) :
    List.Forall₂
      (Sample.Alike (Shown mode otherMode units otherUnits requests) clock.second)
      (snapshot.samples mode units) (snapshot.samples otherMode otherUnits) := by
  have pairs := snapshot.samples_agree mode otherMode units otherUnits
  refine List.forall₂_iff_zip.mpr ⟨pairs.length_eq, fun {sample other} zipped => ?_⟩
  have paired := (List.forall₂_iff_zip.mp pairs).2 zipped
  obtain ⟨sampleMem, otherMem⟩ := List.of_mem_zip zipped
  refine ⟨paired.name, paired.kind, fun route known => ?_⟩
  refine ⟨clock, snapshot, sample.name, sample.kind, member, rfl, known, sampleMem, ?_,
    paired.value⟩
  rw [paired.name, paired.kind]
  exact otherMem

/-- **Values do not steer a report.** Let two reporters with one filter, host name and cadence be
asked at the same moments for snapshots with the same names in each kind, over sinks that succeed
and fail by one script that does not see the lines. Whatever the values are, and in whatever mode
and units they are shown:

* both make the same calls with the same results, but for the lines, and end with the same counters,
  phase and stream;
* the rows that they hand over, those of the samples that they took but for the open batch, have
  one by one the same seconds, hosts and leaf paths;
* if they are asked for the same snapshots, the values at each leaf show one metric: a gauge or a
  counter in the same way, another one by its count, alone or in a bundle, as their modes say. -/
theorem values_do_not_steer {requests others : List Request}
    (same : List.Forall₂ Request.SameNames requests others) :
    let sink : Scripted := { script }
    let start := logged sink hostname syncEvery filter mode units
    let otherStart := logged sink hostname syncEvery filter otherMode otherUnits
    let first := start.live requests
    let second := otherStart.live others
    let taken := (Batcher.logged sink hostname syncEvery).taken
    first.batcher.sink.trace.outline = second.batcher.sink.trace.outline ∧
    first.stats = second.stats ∧ first.batcher.phase = second.batcher.phase ∧
    first.batcher.stream = second.batcher.stream ∧
    ∃ rows otherRows : List Row,
      first.batcher.sink.handed.map Prod.fst = rows.map Row.line ∧
      second.batcher.sink.handed.map Prod.fst = otherRows.map Row.line ∧
      Offered.rows hostname (taken (start.asked requests)) =
        rows ++ first.batcher.openRow.toList ∧
      Offered.rows hostname (taken (otherStart.asked others)) =
        otherRows ++ second.batcher.openRow.toList ∧
      List.Forall₂ Row.SamePaths rows otherRows ∧
      (requests = others → List.Forall₂
        (Row.Alike (Shown mode otherMode units otherUnits requests)) rows otherRows) := by
  intro sink start otherStart first second taken
  let holds (twin : Twin) : Prop :=
    requests = others → Shown mode otherMode units otherUnits requests twin
  have alike : List.Forall₂ (Request.Alike holds mode otherMode units otherUnits) requests
      others := by
    by_cases equal : requests = others
    · subst equal
      refine List.forall₂_same.mpr fun request member => ?_
      cases request with
      | stop => exact .stop
      | report clock snapshot =>
        have shown := samples_shown mode otherMode units otherUnits member
        exact .report clock (shown.imp fun sample other pair => pair.imp fun twin held _ => held)
    · refine same.imp fun request other names => ?_
      cases names with
      | stop => exact .stop
      | report clock names =>
        have pairs := Snapshot.samples_of_names names mode otherMode units otherUnits
        exact .report clock (pairs.imp fun sample other pair =>
          ⟨pair.name, pair.kind, fun _ _ also => absurd also equal⟩)
  obtain ⟨run, counted, rows, otherRows, delivered, otherDelivered, split, otherSplit, every⟩ :=
    live_alike script hostname syncEvery filter mode otherMode units otherUnits alike
  refine ⟨run.sink.outline, ?_, run.phase, run.stream, rows, otherRows, delivered.lines,
    otherDelivered.lines, split, otherSplit, ?_, fun equal => ?_⟩
  · show ReportStats.mk _ _ _ _ _ = ReportStats.mk _ _ _ _ _
    rw [counted.cycles, counted.seen, counted.filtered, counted.unroutable, run.stats]
  · exact every.imp fun row other pair => pair.samePaths
  · exact every.imp fun row other pair => pair.imp fun twin held => held equal

/-- A report of a meter of jobs in the first second. -/
def meterReport (jobs : Int64) (rate : Float) : Request :=
  .report ⟨1000⟩ { meters :=
    ⟨[("app-1.1.pool.jobs", ⟨jobs, ⟨rate, rate, rate, rate⟩⟩)], List.pairwise_singleton _ _⟩ }

/-- Other rates, in a bundle, are batched like a count. -/
theorem one_row_for_other_values :
    let requests := [meterReport 4 0.5, .stop]
    let others := [meterReport 5 2.5, .stop]
    let sink : Scripted := { script := fun _ => .ok () }
    let first := (logged sink "host" 20 .everything .primary {}).live requests
    let second := (logged sink "host" 20 .everything .statistics {}).live others
    List.Forall₂ Request.SameNames requests others ∧ first.stats.batch.rowsEmitted = 1 ∧
    first.stats = second.stats ∧
    ∃ rows otherRows : List Row,
      first.batcher.sink.handed.map Prod.fst = rows.map Row.line ∧
      second.batcher.sink.handed.map Prod.fst = otherRows.map Row.line ∧
      List.Forall₂ Row.SamePaths rows otherRows := by
  intro requests others sink first second
  have names : List.Forall₂ Request.SameNames requests others :=
    .cons (.report ⟨1000⟩ ⟨rfl, rfl, rfl, rfl, rfl⟩) (.cons .stop .nil)
  have emitted : first.stats.batch.rowsEmitted = 1 := by decide +kernel
  obtain ⟨_, stats, _, _, rows, otherRows, lines, otherLines, _, _, paths, _⟩ :=
    values_do_not_steer (fun _ => .ok ()) "host" 20 .everything .primary .statistics {} {} names
  exact ⟨names, emitted, stats, rows, otherRows, lines, otherLines, paths⟩

end Reporter

end MetricRelay
