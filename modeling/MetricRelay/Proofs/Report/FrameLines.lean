/-
**Recordings and summaries are read as they are written.**

A line of a recording holds a frame, with blanks around it, or nothing but blanks. The frame that is
read is the one that was written; where a double is read as another one, that double is in its place
and everything else is as it was. The summary of a replay has counters only, and is read back as
well.

* `Text.trim_between`: blanks around a text are trimmed;
* `Frame.form`: the written form of a frame;
* `Frame.asRead`: a frame with the doubles that the texts of its doubles denote;
* `ReplaySummary.ofJson?_toJson`: what is written of a summary is read as the summary.

Main statement: `Frame.recordings_are_read_back`.
-/

import MetricRelay.Proofs.Metric.ReadBack
import MetricRelay.Proofs.Report.Lines
import MetricRelay.Report.Replay

namespace MetricRelay

/-! ### Blanks around a line -/

namespace Text

theorem trim_append_blank (text : List Char) {after : List Char}
    (blank : ∀ c ∈ after, isBlank c = true) : trim (text ++ after) = trim text := by
  induction after using List.reverseRecOn with
  | nil => rw [List.append_nil]
  | append_singleton after c ih =>
    rw [List.forall_mem_append, List.forall_mem_singleton] at blank
    rw [← List.append_assoc, trim_concat_blank blank.2, ih blank.1]

/-- **Blanks around a text are trimmed,** up to where something can be seen. -/
theorem trim_between {before after inside : List Char} {first last : Char}
    (blankBefore : ∀ c ∈ before, isBlank c = true) (blankAfter : ∀ c ∈ after, isBlank c = true)
    (visibleFirst : isBlank first = false) (visibleLast : isBlank last = false) :
    trim (before ++ (first :: (inside ++ [last])) ++ after) = first :: (inside ++ [last]) := by
  rw [trim_append_blank _ blankAfter]
  show ((before ++ first :: (inside ++ [last])).dropWhile isBlank).rdropWhile isBlank = _
  rw [List.dropWhile_append_of_pos blankBefore,
    List.dropWhile_cons_of_neg (by rw [visibleFirst]; exact Bool.false_ne_true), ← List.cons_append,
    List.rdropWhile_concat_neg _ _ _ (by rw [visibleLast]; exact Bool.false_ne_true)]

end Text

/-! ### Frames -/

namespace Frame

def doubles (frame : Frame) : List Float :=
  frame.snapshot.doubles

def mapDoubles (f : Float → Float) (frame : Frame) : Frame :=
  { frame with snapshot := frame.snapshot.mapDoubles f }

/-- The frame with the doubles that the texts of its doubles denote. -/
def asRead (frame : Frame) : Frame :=
  frame.mapDoubles fun x => (Json.asDouble? x).getD x

/-- **The form of a frame.** -/
theorem form : Json.Form toJson ofJson? doubles mapDoubles where
  written f frame denoted := by
    rw [toJson, Json.object_readsAs_iff]
    simp only [List.forall_mem_cons]
    exact ⟨Json.int64_readsAs _, (Snapshot.form 1).written f _ denoted, by simp⟩
  changed f frame := by
    rw [toJson, Json.reread, Json.rereadMembers_eq_map]
    simp only [List.map_cons, List.map_nil, (Snapshot.form 1).changed]
    rfl
  back frame := by
    obtain ⟨fields, known, holds⟩ := Json.fields?_holds names
      [("timestamp_ms", .int frame.timestamp.toInt), ("snapshot", frame.snapshot.toJson)]
      (by simp) (by simp [names])
    simp only [Fields.Holds, List.forall_mem_cons] at holds
    obtain ⟨timestamp, snapshot, _⟩ := holds
    unfold ofJson? toJson
    rw [known]
    simp only [Option.bind_eq_bind, Option.bind_some, Fields.required, timestamp,
      Json.int64?_toInt, Fields.optional, snapshot, (Snapshot.form 1).back]
    rfl

/-- **The line of a frame is read as the frame,** but for doubles that are read as others. -/
theorem ofLine_toJson {frame : Frame} {f : Float → Float}
    (denoted : ∀ x ∈ frame.doubles, Json.asDouble? x = some (f x)) {before after : String}
    (blankBefore : ∀ c ∈ before.toList, Text.isBlank c = true)
    (blankAfter : ∀ c ∈ after.toList, Text.isBlank c = true) (number : Nat) :
    ofLine (before ++ frame.toJson.compact ++ after) number = .ok (some (frame.mapDoubles f)) := by
  have trimmed : Text.trim (before ++ frame.toJson.compact ++ after).toList =
      frame.toJson.chars := by
    rw [String.toList_append, String.toList_append, Json.compact, String.toList_ofList]
    exact Text.trim_between blankBefore blankAfter (by decide) (by decide)
  have read : (Json.parseChars? frame.toJson.chars).bind ofJson? = some (frame.mapDoubles f) := by
    rw [Json.parseChars?_chars (form.written f frame denoted), Option.bind_some, form.changed,
      form.back]
  obtain ⟨rest, begins⟩ : ∃ rest, frame.toJson.chars = '{' :: rest := ⟨_, rfl⟩
  rw [begins] at trimmed read
  unfold ofLine
  rw [trimmed]
  simp only [read]

/-- **A line holds no frame, and none that is malformed, exactly if it is blank.** -/
theorem ofLine_eq_none_iff {line : String} {number : Nat} :
    ofLine line number = .ok none ↔ ∀ c ∈ line.toList, Text.isBlank c = true := by
  rw [← List.all_eq_true, ← Text.trim_eq_nil]
  unfold ofLine
  cases Text.trim line.toList with
  | nil => simp
  | cons c rest =>
    refine iff_of_false ?_ (List.cons_ne_nil c rest)
    simp only
    cases (Json.parseChars? (c :: rest)).bind ofJson? <;> simp

end Frame

/-! ### Summaries -/

theorem Json.counter_readsBack {count : Nat} (fits : count ≤ 18446744073709551615) :
    (Json.int count).ReadsBack :=
  int_readsAs (by omega) (by omega)

namespace BatchStats

theorem members_readBack {stats : BatchStats}
    (fits : ∀ count ∈ stats.counters, count ≤ 18446744073709551615) :
    ∀ member ∈ stats.members, member.2.ReadsBack := by
  rintro ⟨name, value⟩ there
  obtain ⟨count, counted, rfl⟩ := List.mem_map.mp (List.of_mem_zip there).2
  exact Json.counter_readsBack (fits count counted)

theorem members_eq (stats : BatchStats) : stats.members =
    [("merged", .int stats.merged), ("rows_emitted", .int stats.rowsEmitted),
      ("syncs", .int stats.syncs), ("dropped_conflicts", .int stats.droppedConflicts),
      ("dropped_empty_path", .int stats.droppedEmptyPath),
      ("dropped_foreign", .int stats.droppedForeign),
      ("dropped_sink_unavailable", .int stats.droppedSinkUnavailable),
      ("sink_open_failures", .int stats.sinkOpenFailures),
      ("sample_failures", .int stats.sampleFailures),
      ("sync_failures", .int stats.syncFailures)] := rfl

/-- **Counters are found among the fields that their members are in.** -/
theorem ofFields?_of_holds {fields : List (String × Json)} {stats : BatchStats}
    (fits : ∀ count ∈ stats.counters, count ≤ 18446744073709551615)
    (holds : Fields.Holds fields stats.members) : ofFields? fields = some stats := by
  simp only [counters, List.forall_mem_cons] at fits
  obtain ⟨merged, emitted, syncs, conflicts, empty, foreign, unavailable, opens, samples, failures,
    _⟩ := fits
  simp only [Fields.Holds, members_eq, List.forall_mem_cons] at holds
  obtain ⟨mergedField, emittedField, syncsField, conflictsField, emptyField, foreignField,
    unavailableField, opensField, samplesField, failuresField, _⟩ := holds
  simp only [ofFields?, Fields.required, mergedField, emittedField, syncsField, conflictsField,
    emptyField, foreignField, unavailableField, opensField, samplesField, failuresField,
    Option.bind_some, Json.natural64?_natCast merged, Json.natural64?_natCast emitted,
    Json.natural64?_natCast syncs, Json.natural64?_natCast conflicts, Json.natural64?_natCast empty,
    Json.natural64?_natCast foreign, Json.natural64?_natCast unavailable,
    Json.natural64?_natCast opens, Json.natural64?_natCast samples,
    Json.natural64?_natCast failures]
  rfl

end BatchStats

namespace ReportStats

/-- All counters, in the order in which they are written. -/
def counters (stats : ReportStats) : List Nat :=
  [stats.cycles, stats.samplesSeen, stats.samplesFiltered, stats.droppedUnroutable] ++
    stats.batch.counters

/-- **What is written of counters is read as the counters.** -/
theorem ofJson?_toJson {stats : ReportStats}
    (fits : ∀ count ∈ stats.counters, count ≤ 18446744073709551615) (depth : Nat) :
    ofJson? depth stats.toJson = some stats := by
  obtain ⟨own, batch⟩ := List.forall_mem_append.mp fits
  simp only [List.forall_mem_cons] at own
  obtain ⟨cycles, seen, filtered, unroutable, _⟩ := own
  obtain ⟨fields, known, holds⟩ := Json.flatFields?_holds names stats.members
    (by simp [members, BatchStats.members_eq])
    (by simp [members, BatchStats.members_eq, names, BatchStats.names]) (fun room => rfl)
  obtain ⟨ownFields, batchFields⟩ := List.forall_mem_append.mp holds
  simp only [List.forall_mem_cons] at ownFields
  obtain ⟨cyclesField, seenField, filteredField, unroutableField, _⟩ := ownFields
  unfold ofJson? toJson
  rw [known]
  simp only [Option.bind_eq_bind, Option.bind_some, Fields.required, cyclesField, seenField,
    filteredField, unroutableField, Json.natural64?_natCast cycles, Json.natural64?_natCast seen,
    Json.natural64?_natCast filtered, Json.natural64?_natCast unroutable,
    BatchStats.ofFields?_of_holds batch batchFields]
  rfl

theorem toJson_readsBack {stats : ReportStats}
    (fits : ∀ count ∈ stats.counters, count ≤ 18446744073709551615) : stats.toJson.ReadsBack := by
  obtain ⟨own, batch⟩ := List.forall_mem_append.mp fits
  simp only [List.forall_mem_cons] at own
  obtain ⟨cycles, seen, filtered, unroutable, _⟩ := own
  rw [toJson, Json.ReadsBack, Json.object_readsAs_iff, members, List.forall_mem_append]
  simp only [List.forall_mem_cons]
  exact ⟨⟨Json.counter_readsBack cycles, Json.counter_readsBack seen,
    Json.counter_readsBack filtered, Json.counter_readsBack unroutable, by simp⟩,
    BatchStats.members_readBack batch⟩

end ReportStats

namespace ReplaySummary

/-- All counters, in the order in which they are written. -/
def counters (summary : ReplaySummary) : List Nat :=
  [summary.frames, summary.skippedLines] ++ summary.stats.counters

theorem ofJson?_toJson {summary : ReplaySummary}
    (fits : ∀ count ∈ summary.counters, count ≤ 18446744073709551615) :
    ofJson? summary.toJson = some summary := by
  obtain ⟨own, stats⟩ := List.forall_mem_append.mp fits
  simp only [List.forall_mem_cons] at own
  obtain ⟨frames, skipped, _⟩ := own
  obtain ⟨fields, known, holds⟩ := Json.fields?_holds names
    [("frames", .int summary.frames), ("skipped_lines", .int summary.skippedLines),
      ("stats", summary.stats.toJson)] (by simp) (by simp [names])
  simp only [Fields.Holds, List.forall_mem_cons] at holds
  obtain ⟨framesField, skippedField, statsField, _⟩ := holds
  unfold ofJson? toJson
  rw [known]
  simp only [Option.bind_eq_bind, Option.bind_some, Fields.required, framesField, skippedField,
    statsField, Json.natural64?_natCast frames, Json.natural64?_natCast skipped,
    ReportStats.ofJson?_toJson stats]
  rfl

/-- Counters of 64 bits are read as they are written. -/
theorem toJson_readsBack {summary : ReplaySummary}
    (fits : ∀ count ∈ summary.counters, count ≤ 18446744073709551615) :
    summary.toJson.ReadsBack := by
  obtain ⟨own, stats⟩ := List.forall_mem_append.mp fits
  simp only [List.forall_mem_cons] at own
  obtain ⟨frames, skipped, _⟩ := own
  rw [toJson, Json.ReadsBack, Json.object_readsAs_iff]
  simp only [List.forall_mem_cons]
  exact ⟨Json.counter_readsBack frames, Json.counter_readsBack skipped,
    ReportStats.toJson_readsBack stats, by simp⟩

/-- **A summary is read as it is written.** -/
theorem parse?_compact {summary : ReplaySummary}
    (fits : ∀ count ∈ summary.counters, count ≤ 18446744073709551615) :
    (Json.parse? summary.toJson.compact).bind ofJson? = some summary := by
  rw [Json.parse?_compact (toJson_readsBack fits), Option.bind_some, ofJson?_toJson fits]

end ReplaySummary

/-! ### Recordings -/

namespace Frame

/-- **Recordings and summaries are read as they are written.** The line of a frame, with any blanks
around it, is read as this frame, if its doubles are finite and finite doubles of it are read as
they are written. Whatever its doubles are read as, nothing else changes. A line holds no frame, and
none that is malformed, exactly if it is blank. A summary with counters of 64 bits is read as this
summary. -/
theorem recordings_are_read_back :
    (∀ (frame : Frame) (before after : String) (number : Nat),
      (∀ c ∈ before.toList ++ after.toList, Text.isBlank c = true) →
      (∀ x ∈ frame.doubles, x.isFinite = true) →
      (∀ x ∈ frame.doubles, x.isFinite = true → Json.asDouble? x = some x) →
      ofLine (before ++ frame.toJson.compact ++ after) number = .ok (some frame)) ∧
    (∀ (frame : Frame) (before after : String) (number : Nat),
      (∀ c ∈ before.toList ++ after.toList, Text.isBlank c = true) →
      (∀ x ∈ frame.doubles, (Json.asDouble? x).isSome = true) →
      ofLine (before ++ frame.toJson.compact ++ after) number = .ok (some frame.asRead)) ∧
    (∀ (line : String) (number : Nat),
      ofLine line number = .ok none ↔ ∀ c ∈ line.toList, Text.isBlank c = true) ∧
    ∀ summary : ReplaySummary, (∀ count ∈ summary.counters, count ≤ 18446744073709551615) →
      (Json.parse? summary.toJson.compact).bind ReplaySummary.ofJson? = some summary := by
  refine ⟨fun frame before after number blank finite denoted => ?_,
    fun frame before after number blank denoted => ?_, fun line number => ofLine_eq_none_iff,
    fun summary => ReplaySummary.parse?_compact⟩
  · obtain ⟨blankBefore, blankAfter⟩ := List.forall_mem_append.mp blank
    have read := ofLine_toJson (f := id) (fun x member => denoted x member (finite x member))
      blankBefore blankAfter number
    rwa [form.change_id] at read
  · obtain ⟨blankBefore, blankAfter⟩ := List.forall_mem_append.mp blank
    refine ofLine_toJson (fun x member => ?_) blankBefore blankAfter number
    obtain ⟨y, value⟩ := Option.isSome_iff_exists.mp (denoted x member)
    rw [value, Option.getD_some]

/-- A frame with gauges of all sorts, whose texts look like one another, and a meter. -/
def mixed : Frame where
  timestamp := -1
  snapshot := {
    gauges := ⟨[("", .float 1.0), ("\"\n", .integer 1), ("a", .text "1"), ("b", .float (-0.0)),
      ("c", .text "-0.0"), ("d", .bool true), ("e", .text "true")], by decide⟩
    meters := ⟨[("\\", ⟨0, ⟨0.1, 100.0, 1e300, 5e-324⟩⟩)], by decide⟩ }

/-- It is read as it was, with blanks around its line. -/
theorem mixed_is_read_back :
    ofLine ("\t " ++ mixed.toJson.compact ++ "\r") 7 = .ok (some mixed) := by
  have finite : ∀ x ∈ mixed.doubles, x.isFinite = true := by decide +kernel
  have denoted : ∀ x ∈ mixed.doubles, Json.asDouble? x = some x := by decide +kernel
  exact recordings_are_read_back.1 mixed "\t " "\r" 7 (List.all_eq_true.mp rfl) finite
    fun x member _ => denoted x member

/-- Not every finite double is read as it is written. -/
example : (1e-25 : Float).isFinite = true ∧ Json.asDouble? 1e-25 ≠ some 1e-25 := by
  decide +kernel

end Frame

end MetricRelay
