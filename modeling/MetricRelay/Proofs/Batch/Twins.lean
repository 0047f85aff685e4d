/-
**Values do not steer a batcher.**

A `Twin` is two samples that differ in their values at most. Two batchers that are offered twins,
one of them the one half and the other one the other half, do the same things.

* `Twin.rows_alike`: the rows of the two halves have the same seconds, hosts and leaf paths, and at
  each leaf stand the values of one twin;
* `Batcher.Alike`: two batchers that differ in the lines that their sinks were handed and in the
  values of their records at most. Every step keeps them alike (`Batcher.next_alike`), and so does
  every run (`Batcher.run_alike`), as long as the sinks do not look into the lines either.
-/

import Mathlib.Data.List.Forall2
import Mathlib.Data.Option.Basic
import MetricRelay.Proofs.Batch.Grouping
import MetricRelay.Proofs.Row.Merging
import MetricRelay.Proofs.Sink.Scripted

namespace MetricRelay

/-- Two samples that differ in their values at most. -/
structure Twin where
  route : Route
  timestamp : Int
  first : Measure
  second : Measure

namespace Twin

/-- The sample with the first value. -/
def left (twin : Twin) : Offered := ⟨twin.route, twin.first, twin.timestamp⟩

/-- The sample with the second value. -/
def right (twin : Twin) : Offered := ⟨twin.route, twin.second, twin.timestamp⟩

end Twin

/-- The rows have the same second and host, and their leaves are those of twins, one by one. -/
structure Row.Alike (holds : Twin → Prop) (first second : Row) : Prop where
  timestamp : first.timestamp = second.timestamp
  host : first.host = second.host
  leaves : List.Forall₂ (fun leaf other => ∃ twin : Twin, holds twin ∧
    twin.timestamp = first.timestamp ∧ leaf = (twin.route.path, twin.first) ∧
    other = (twin.route.path, twin.second)) first.values.leaves second.values.leaves

/-- The rows have the same second, host and leaf paths. -/
structure Row.SamePaths (first second : Row) : Prop where
  timestamp : first.timestamp = second.timestamp
  host : first.host = second.host
  paths : first.values.leaves.map Prod.fst = second.values.leaves.map Prod.fst

theorem Row.Alike.imp {holds also : Twin → Prop} (weaker : ∀ twin, holds twin → also twin)
    {first second : Row} (alike : Row.Alike holds first second) : Row.Alike also first second where
  timestamp := alike.timestamp
  host := alike.host
  leaves := alike.leaves.imp fun _ _ leaves =>
    leaves.imp fun twin held => ⟨weaker twin held.1, held.2⟩

/-- Rows that are alike have the same leaf paths. -/
theorem Row.Alike.samePaths {holds : Twin → Prop} {first second : Row}
    (alike : Row.Alike holds first second) : Row.SamePaths first second := by
  refine ⟨alike.timestamp, alike.host, ?_⟩
  rw [← List.forall₂_eq_eq_eq, List.forall₂_map_left_iff, List.forall₂_map_right_iff]
  refine alike.leaves.imp fun leaf other leaves => ?_
  obtain ⟨twin, _, _, rfl, rfl⟩ := leaves
  rfl

/-! ### Blocks of mapped samples -/

section Split

variable {α β : Type} (f : α → β) (related : β → β → Bool)

theorem splitByLoop_map (rest : List α) (last : α) (block : List α) (done : List (List α)) :
    List.splitBy.loop related (rest.map f) (f last) (block.map f) (done.map (List.map f)) =
      (List.splitBy.loop (fun first later => related (f first) (f later)) rest last block done).map
        (List.map f) := by
  induction rest generalizing last block done with
  | nil => simp [List.splitBy.loop]
  | cons next rest ih =>
    rw [List.map_cons, List.splitBy.loop, List.splitBy.loop]
    cases related (f last) (f next) with
    | true => exact ih next (last :: block) done
    | false =>
      have cut := ih next [] ((last :: block).reverse :: done)
      rw [List.map_cons, List.map_reverse] at cut
      exact cut

/-- A list is cut where the images are. -/
theorem splitBy_map (list : List α) :
    (list.map f).splitBy related =
      (list.splitBy fun first later => related (f first) (f later)).map (List.map f) := by
  cases list with
  | nil => rfl
  | cons first rest => exact splitByLoop_map f related rest first [] []

end Split

/-! ### The rows of twins -/

namespace Twin

/-- The longest blocks of neighbours of one second. -/
def blocks (twins : List Twin) : List (List Twin) :=
  twins.splitBy fun first later => first.timestamp == later.timestamp

theorem blocks_left (twins : List Twin) :
    Offered.blocks (twins.map left) = (blocks twins).map (List.map left) :=
  splitBy_map left Offered.sameSecond twins

theorem blocks_right (twins : List Twin) :
    Offered.blocks (twins.map right) = (blocks twins).map (List.map right) :=
  splitBy_map right Offered.sameSecond twins

/-- The record with both values of one more twin, if they fit. -/
def add (record : Record (Measure × Measure)) (twin : Twin) : Record (Measure × Measure) :=
  (record.merge twin.route.path (twin.first, twin.second)).1

/-- Both values of each twin of a block, merged in order. -/
def gather (block : List Twin) : Record (Measure × Measure) :=
  block.foldl add .nil

theorem gather_concat (block : List Twin) (twin : Twin) :
    gather (block ++ [twin]) = add (gather block) twin :=
  List.foldl_concat add .nil twin block

/-- One half of the twins of a block, merged in order. -/
theorem gather_half {half : Twin → Offered} {value : Measure × Measure → Measure}
    (path : ∀ twin, (half twin).route.path = twin.route.path)
    (shows : ∀ twin, (half twin).value = value (twin.first, twin.second)) (block : List Twin) :
    Offered.gather (block.map half) = (gather block).map value := by
  induction block using List.reverseRecOn with
  | nil => rfl
  | append_singleton block twin ih =>
    have merged := Record.merge_map value (gather block) twin.route.path (twin.first, twin.second)
    rw [List.map_append, List.map_singleton, Offered.gather_concat, ih, gather_concat, Offered.add,
      path, shows, merged]
    rfl

theorem gather_left (block : List Twin) :
    Offered.gather (block.map left) = (gather block).map Prod.fst :=
  gather_half (fun _ => rfl) (fun _ => rfl) block

theorem gather_right (block : List Twin) :
    Offered.gather (block.map right) = (gather block).map Prod.snd :=
  gather_half (fun _ => rfl) (fun _ => rfl) block

/-- **Both values at a leaf are those of one twin.** -/
theorem mem_leaves_gather {block : List Twin} {entry : List String × Measure × Measure}
    (member : entry ∈ (gather block).leaves) :
    ∃ twin ∈ block, entry = (twin.route.path, twin.first, twin.second) := by
  induction block using List.reverseRecOn with
  | nil => cases member
  | append_singleton block twin ih =>
    rw [gather_concat] at member
    rcases Record.mem_leaves_merge member with new | old
    · exact ⟨twin, by simp, new⟩
    · obtain ⟨other, otherMem, same⟩ := ih old
      exact ⟨other, List.mem_append_left _ otherMem, same⟩

/-- All twins of a block have one second. -/
theorem timestamp_of_mem_blocks {twins block : List Twin} (member : block ∈ blocks twins)
    {first later : Twin} (firstMem : first ∈ block) (laterMem : later ∈ block) :
    first.timestamp = later.timestamp := by
  have lefts : block.map left ∈ Offered.blocks (twins.map left) := by
    rw [blocks_left]
    exact List.mem_map_of_mem member
  exact Offered.timestamp_of_mem_blocks lefts (List.mem_map_of_mem firstMem)
    (List.mem_map_of_mem laterMem)

variable {holds : Twin → Prop} (hostname : String)

/-- The two halves of a block give rows that are alike, or no rows. -/
theorem row?_alike {block : List Twin}
    (second : ∀ first ∈ block, ∀ later ∈ block, first.timestamp = later.timestamp)
    (every : ∀ twin ∈ block, holds twin) :
    Option.Rel (Row.Alike holds) (Offered.row? hostname (block.map left))
      (Offered.row? hostname (block.map right)) := by
  cases block with
  | nil => exact .none
  | cons head rest =>
    have lefts := gather_left (head :: rest)
    have rights := gather_right (head :: rest)
    show Option.Rel _ (Row.ofRecord? head.timestamp (Offered.gather ((head :: rest).map left)) _)
      (Row.ofRecord? head.timestamp (Offered.gather ((head :: rest).map right)) _)
    rw [lefts, rights]
    unfold Row.ofRecord?
    rw [Record.isEmpty_map, Record.isEmpty_map]
    by_cases void : (gather (head :: rest)).isEmpty = true
    · rw [if_pos void, if_pos void]
      exact .none
    · rw [if_neg void, if_neg void]
      refine .some ⟨rfl, rfl, ?_⟩
      show List.Forall₂ _ ((gather (head :: rest)).map Prod.fst).leaves
        ((gather (head :: rest)).map Prod.snd).leaves
      rw [Record.leaves_map, Record.leaves_map, List.forall₂_map_left_iff,
        List.forall₂_map_right_iff, List.forall₂_same]
      intro entry member
      obtain ⟨twin, twinMem, rfl⟩ := mem_leaves_gather member
      exact ⟨twin, every twin twinMem, second twin twinMem head List.mem_cons_self, rfl, rfl⟩

/-- **The rows of twins are alike.** -/
theorem rows_alike {twins : List Twin} (every : ∀ twin ∈ twins, holds twin) :
    List.Forall₂ (Row.Alike holds) (Offered.rows hostname (twins.map left))
      (Offered.rows hostname (twins.map right)) := by
  unfold Offered.rows
  rw [blocks_left, blocks_right, List.filterMap_map, List.filterMap_map]
  have whole : (blocks twins).flatten = twins := List.flatten_splitBy _ _
  have same : List.Forall₂ (fun block other => block = other ∧ block ∈ blocks twins)
      (blocks twins) (blocks twins) :=
    List.forall₂_same.mpr fun block member => ⟨rfl, member⟩
  refine List.rel_filterMap ?_ same
  rintro block _ ⟨rfl, member⟩
  refine row?_alike hostname
    (fun first firstMem later laterMem => timestamp_of_mem_blocks member firstMem laterMem)
    fun twin twinMem => every twin ?_
  rw [← whole]
  exact List.mem_flatten_of_mem member twinMem

end Twin

/-! ### Two batchers -/

/-- The paths of a record, without its values. -/
def Record.shape {α : Type} (record : Record α) : Record Unit :=
  record.map fun _ => ()

namespace Record

variable {α β : Type} {record : Record α} {other : Record β}

/-- Whether a value is written depends on the shape only. -/
theorem shape_merge (same : record.shape = other.shape) (path : List String) (value : α)
    (otherValue : β) :
    (record.merge path value).2 = (other.merge path otherValue).2 ∧
      (record.merge path value).1.shape = (other.merge path otherValue).1.shape := by
  have merged := merge_map (fun _ => ()) record path value
  have otherMerged := merge_map (fun _ => ()) other path otherValue
  unfold shape at same ⊢
  rw [same, otherMerged, Prod.mk.injEq] at merged
  exact ⟨merged.2.symm, merged.1.symm⟩

theorem eq_nil_iff_of_shape (same : record.shape = other.shape) : record = .nil ↔ other = .nil := by
  unfold shape at same
  rw [← isEmpty_iff, ← isEmpty_iff, ← isEmpty_map (fun _ => ()) record, same, isEmpty_map]

end Record

/-- The events are one, but for the value of a sample. -/
inductive Event.Alike (holds : Twin → Prop) : Event → Event → Prop where
  | cycle : Alike holds .cycle .cycle
  | offer (twin : Twin) (held : holds twin) : Alike holds (.offer twin.left) (.offer twin.right)
  | stop : Alike holds .stop .stop

namespace Batcher

/-- The batchers are one, but for the lines that their sinks were handed and the values of their
records. -/
inductive Alike (batcher : Batcher (Logged Scripted)) : Batcher (Logged Scripted) → Prop where
  | of (sink : Logged Scripted) (record : Record Measure) (calls : batcher.sink.Alike sink)
      (shape : batcher.record.shape = record.shape) : Alike batcher { batcher with sink, record }

variable {first second : Batcher (Logged Scripted)}

namespace Alike

theorem sink (alike : Alike first second) : first.sink.Alike second.sink := by
  cases alike with
  | of sink record calls shape => exact calls

theorem stats (alike : Alike first second) : first.stats = second.stats := by
  cases alike with
  | of => rfl

theorem phase (alike : Alike first second) : first.phase = second.phase := by
  cases alike with
  | of => rfl

theorem stream (alike : Alike first second) : first.stream = second.stream := by
  cases alike with
  | of => rfl

end Alike

theorem Alike.mergeSample (alike : Alike first second) (path : List String) (value other : Measure)
    (offer : Offer) :
    (first.mergeSample path value offer).1 = (second.mergeSample path other offer).1 ∧
      Alike (first.mergeSample path value offer).2 (second.mergeSample path other offer).2 := by
  cases alike with
  | of sink record calls shape =>
    have merged := Record.shape_merge shape path value other
    rcases one : first.record.merge path value with ⟨after, outcome⟩
    rcases another : record.merge path other with ⟨otherAfter, otherOutcome⟩
    rw [one, another] at merged
    obtain ⟨rfl, shapeAfter⟩ := merged
    unfold mergeSample
    simp only [one, another]
    cases outcome <;> exact ⟨rfl, .of _ _ calls shapeAfter⟩

/-- Batches are closed alike. -/
theorem Closing.alike (alike : Alike first second) {stream : StreamKey} {timestamp : Int}
    {result : Bool × Batcher (Logged Scripted)}
    (closing : Closing first stream timestamp result) :
    ∃ after, Closing second stream timestamp (result.1, after) ∧ Alike result.2 after := by
  cases alike with
  | of sink record calls shape =>
    have void := Record.eq_nil_iff_of_shape shape
    cases closing with
    | empty empty => exact ⟨_, .empty (void.mp empty), .of sink record calls shape⟩
    | lost failure after full emit =>
      obtain ⟨_, emitted, callsAfter⟩ := calls.emit (Row.line ⟨timestamp, record, stream.host⟩) emit
      exact ⟨_, .lost failure _ (mt void.mpr full) emitted, .of _ _ callsAfter rfl⟩
    | delivered after full emit early =>
      obtain ⟨_, emitted, callsAfter⟩ := calls.emit (Row.line ⟨timestamp, record, stream.host⟩) emit
      exact ⟨_, .delivered _ (mt void.mpr full) emitted early, .of _ _ callsAfter rfl⟩
    | settled between after full emit due sync =>
      obtain ⟨_, emitted, callsBetween⟩ :=
        calls.emit (Row.line ⟨timestamp, record, stream.host⟩) emit
      obtain ⟨_, synced, callsAfter⟩ := callsBetween.perform .synced .synced rfl sync
      exact ⟨_, .settled _ _ (mt void.mpr full) emitted due synced, .of _ _ callsAfter rfl⟩
    | unsettled between after failure full emit due sync =>
      obtain ⟨_, emitted, callsBetween⟩ :=
        calls.emit (Row.line ⟨timestamp, record, stream.host⟩) emit
      obtain ⟨_, synced, callsAfter⟩ := callsBetween.perform .synced .synced rfl sync
      exact ⟨_, .unsettled _ _ failure (mt void.mpr full) emitted due synced,
        .of _ _ callsAfter rfl⟩

/-- A sample that is merged into alike batchers is taken alike. -/
theorem Taking.of_merged {sample : Offered} {result other : Offer × Batcher (Logged Scripted)}
    (merged : result.1 = other.1 ∧ Alike result.2 other.2) (taking : Taking second sample other) :
    ∃ after, Taking second sample (result.1, after) ∧ Alike result.2 after := by
  refine ⟨other.2, ?_, merged.2⟩
  rw [merged.1]
  exact taking

/-- **Twins are taken alike.** -/
theorem Taking.alike (alike : Alike first second) (twin : Twin)
    {result : Offer × Batcher (Logged Scripted)} (taking : Taking first twin.left result) :
    ∃ after, Taking second twin.right (result.1, after) ∧ Alike result.2 after := by
  have copy := alike
  cases alike with
  | of sink record calls shape =>
    cases taking with
    | stopped phase => exact ⟨_, .stopped phase, copy⟩
    | waiting phase failed => exact ⟨_, .waiting phase failed, .of sink record calls shape⟩
    | refused failure after phase ready call =>
      obtain ⟨_, opened, callsAfter⟩ := calls.perform (.opened _) (.opened _) rfl call
      exact ⟨_, .refused failure _ phase ready opened, .of _ record callsAfter shape⟩
    | adopted after phase ready call =>
      obtain ⟨_, opened, callsAfter⟩ := calls.perform (.opened _) (.opened _) rfl call
      refine Taking.of_merged (Alike.mergeSample ?_ _ _ _ _) (.adopted _ phase ready opened)
      exact .of _ record callsAfter shape
    | foreign stream before phase known other =>
      exact ⟨_, .foreign stream before phase known other, .of sink record calls shape⟩
    | joined phase own => exact Taking.of_merged (copy.mergeSample _ _ _ _) (.joined phase own)
    | rolled before emitted closed phase own different closing =>
      obtain ⟨after, closes, alikeAfter⟩ := closing.alike copy
      refine Taking.of_merged (Alike.mergeSample ?_ _ _ _ _)
        (.rolled before emitted after phase own different closes)
      cases alikeAfter with
      | of sinkAfter recordAfter callsAfter shapeAfter => exact .of _ _ callsAfter shapeAfter

/-- Batchers are stopped alike. -/
theorem Stopping.alike (alike : Alike first second) {after : Batcher (Logged Scripted)}
    (stopping : Stopping first after) : ∃ other, Stopping second other ∧ Alike after other := by
  have copy := alike
  cases alike with
  | of sink record calls shape =>
    have void := Record.eq_nil_iff_of_shape shape
    cases stopping with
    | again phase => exact ⟨_, .again phase, copy⟩
    | unused phase => exact ⟨_, .unused phase, .of sink record calls shape⟩
    | empty stream before result after phase known empty close =>
      obtain ⟨_, closed, callsAfter⟩ := calls.perform .closed .closed rfl close
      exact ⟨_, .empty stream before result _ phase known (void.mp empty) closed,
        .of _ _ callsAfter rfl⟩
    | lost stream before failure result between after phase known full emit close =>
      obtain ⟨_, emitted, callsBetween⟩ := calls.emit (Row.line ⟨before, record, stream.host⟩) emit
      obtain ⟨_, closed, callsAfter⟩ := callsBetween.perform .closed .closed rfl close
      exact ⟨_, .lost stream before failure result _ _ phase known (mt void.mpr full) emitted
        closed, .of _ _ callsAfter rfl⟩
    | delivered stream before result between after phase known full emit close =>
      obtain ⟨_, emitted, callsBetween⟩ := calls.emit (Row.line ⟨before, record, stream.host⟩) emit
      obtain ⟨_, closed, callsAfter⟩ := callsBetween.perform .closed .closed rfl close
      exact ⟨_, .delivered stream before result _ _ phase known (mt void.mpr full) emitted
        closed, .of _ _ callsAfter rfl⟩

/-! ### Runs -/

variable {holds : Twin → Prop}

/-- **One event keeps batchers alike,** and both take its sample or neither does. -/
theorem next_alike (alike : Alike first second) (consistent : first.Consistent)
    (otherConsistent : second.Consistent) {event other : Event} (same : event.Alike holds other) :
    Alike (first.next event) (second.next other) ∧
      ∃ twins : List Twin, (∀ twin ∈ twins, holds twin) ∧
        first.accepted event = twins.map Twin.left ∧
        second.accepted other = twins.map Twin.right := by
  cases same with
  | cycle =>
    refine ⟨?_, [], by simp, rfl, rfl⟩
    cases alike with
    | of sink record calls shape => exact .of _ _ calls shape
  | offer twin held =>
    obtain ⟨after, taking, alikeAfter⟩ := (take_cases consistent twin.left).alike alike
    have taken := taking.eq otherConsistent
    refine ⟨?_, ?_⟩
    · show Alike _ (second.take twin.right).2
      rw [taken]
      exact alikeAfter
    · show ∃ twins : List Twin, _ ∧
        (if (first.take twin.left).1.isTaken then [twin.left] else []) = _ ∧
        (if (second.take twin.right).1.isTaken then [twin.right] else []) = _
      rw [taken]
      cases (first.take twin.left).1.isTaken with
      | true => exact ⟨[twin], by simpa using held, rfl, rfl⟩
      | false => exact ⟨[], by simp, rfl, rfl⟩
  | stop =>
    obtain ⟨after, stopping, alikeAfter⟩ := (stop_cases consistent).alike alike
    refine ⟨?_, [], by simp, rfl, rfl⟩
    show Alike _ second.stop
    rw [stopping.eq otherConsistent]
    exact alikeAfter

/-- **A run keeps batchers alike,** and they take the two halves of some twins. -/
theorem run_alike (alike : Alike first second) (consistent : first.Consistent)
    (otherConsistent : second.Consistent) {events others : List Event}
    (same : List.Forall₂ (Event.Alike holds) events others) :
    Alike (first.run events) (second.run others) ∧
      ∃ twins : List Twin, (∀ twin ∈ twins, holds twin) ∧
        first.taken events = twins.map Twin.left ∧
        second.taken others = twins.map Twin.right := by
  induction same generalizing first second with
  | nil => exact ⟨alike, [], by simp, rfl, rfl⟩
  | cons head rest ih =>
    obtain ⟨alikeAfter, early, earlyHeld, left, right⟩ :=
      next_alike alike consistent otherConsistent head
    obtain ⟨whole, late, lateHeld, lefts, rights⟩ := ih alikeAfter
      (next_consistent consistent _) (next_consistent otherConsistent _)
    refine ⟨whole, early ++ late, ?_, ?_, ?_⟩
    · exact List.forall_mem_append.mpr ⟨earlyHeld, lateHeld⟩
    · rw [taken, left, lefts, List.map_append]
    · rw [taken, right, rights, List.map_append]

end Batcher

end MetricRelay
