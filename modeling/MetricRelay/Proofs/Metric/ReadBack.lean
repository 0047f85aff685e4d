/-
**Snapshots are read as they are written.**

A snapshot is written with its parts inside one another, and some of them flattened into others. It
is read part by part, and each part comes back as it was, but for doubles that are read as others.

* `Json.Form`: a written form that is read back. Its values have doubles, which reading may change;
* `Table.ofList_entries`, `Json.Form.table`: the form of a table, with the form of its values;
* `Scalar.form`, `Histogram.form`, `Snapshot.form` and others: the forms of all that a snapshot has.
  A gauge is read as the first sort of value that its text fits, and it fits no earlier one.

Main statement: `Snapshot.form`.
-/

import MetricRelay.Metric.Snapshot
import MetricRelay.Proofs.Json.Doubles
import MetricRelay.Proofs.Json.Records

namespace MetricRelay

/-! ### Written forms -/

namespace Json

variable {f : Float → Float}

theorem membersReadAs_iff {members : List (String × Json)} :
    MembersReadAs f members ↔ ∀ member ∈ members, member.2.ReadsAs f := by
  induction members with
  | nil => simp [MembersReadAs]
  | cons member rest ih => rw [MembersReadAs, List.forall_mem_cons, ih]

theorem object_readsAs_iff {members : List (String × Json)} :
    (object members).ReadsAs f ↔ ∀ member ∈ members, member.2.ReadsAs f := by
  rw [ReadsAs, membersReadAs_iff]

theorem rereadMembers_eq_map (f : Float → Float) (members : List (String × Json)) :
    rereadMembers f members = members.map fun member => (member.1, member.2.reread f) := by
  induction members with
  | nil => rfl
  | cons member rest ih => rw [rereadMembers, ih, List.map_cons]

theorem int64_readsAs (value : Int64) : (int value.toInt).ReadsAs f := by
  have low := value.le_toInt
  have high := value.toInt_lt
  exact int_readsAs (by omega) (by omega)

/-- **A written form that is read back.** Of a value whose doubles are read as a function has them,
the text is read as the value with this function on its doubles. -/
structure Form {α : Type} (write : α → Json) (read : Json → Option α) (doubles : α → List Float)
    (change : (Float → Float) → α → α) : Prop where
  written : ∀ f value, (∀ x ∈ doubles value, asDouble? x = some (f x)) → (write value).ReadsAs f
  changed : ∀ f value, (write value).reread f = write (change f value)
  back : ∀ value, read (write value) = some value

/-- Doubles that stay as they are change nothing. -/
theorem Form.change_id {α : Type} {write : α → Json} {read : Json → Option α}
    {doubles : α → List Float} {change : (Float → Float) → α → α}
    (form : Form write read doubles change) (value : α) : change id value = value := by
  have same := form.back (change id value)
  rw [← form.changed, reread_id, form.back] at same
  exact (Option.some.inj same).symm

end Json

/-! ### Tables -/

namespace Table

variable {α β : Type}

def map (f : α → β) (table : Table α) : Table β where
  entries := table.entries.map fun entry => (entry.1, f entry.2)
  increasing := by
    rw [List.pairwise_map]
    exact table.increasing

theorem map_id (table : Table α) : table.map (fun value => value) = table :=
  ext (List.map_id table.entries)

theorem insertEntry_of_above {name : String} {value : α} {entries : List (String × α)}
    (above : ∀ entry ∈ entries, entry.1 < name) :
    insertEntry name value entries = entries ++ [(name, value)] := by
  induction entries with
  | nil => rfl
  | cons entry rest ih =>
    obtain ⟨below, later⟩ := List.forall_mem_cons.mp above
    have notBelow : ¬ name < entry.1 := fun other =>
      String.lt_irrefl _ (String.lt_trans below other)
    have different : name ≠ entry.1 := fun same => String.lt_irrefl _ (same ▸ below)
    rw [insertEntry, if_neg notBelow, if_neg different, ih later]
    rfl

/-- **A table is made from its entries.** -/
theorem ofList_entries (table : Table α) : ofList table.entries = table := by
  have onwards (rest : List (String × α)) : ∀ start : Table α,
      (start.entries ++ rest).Pairwise (fun first second => first.1 < second.1) →
      (rest.foldl (fun table entry => table.insert entry.1 entry.2) start).entries =
        start.entries ++ rest := by
    induction rest with
    | nil =>
      intro start _
      rw [List.append_nil]
      rfl
    | cons entry rest ih =>
      intro start increasing
      have above : ∀ held ∈ start.entries, held.1 < entry.1 := fun held there =>
        (List.pairwise_append.mp increasing).2.2 held there entry List.mem_cons_self
      have grown : (start.insert entry.1 entry.2).entries = start.entries ++ [entry] :=
        insertEntry_of_above above
      rw [List.foldl_cons, ih, grown, List.append_assoc, List.singleton_append]
      rwa [grown, List.append_assoc, List.singleton_append]
  exact ext (onwards table.entries empty table.increasing)

/-- The doubles in the values of a table. -/
def doubles (inside : α → List Float) (table : Table α) : List Float :=
  table.entries.flatMap fun entry => inside entry.2

end Table

namespace Json

variable {α : Type} {write : α → Json} {read : Json → Option α} {doubles : α → List Float}
  {change : (Float → Float) → α → α}

/-- The values of a table are read with their names. -/
theorem mapM_entries (back : ∀ value, read (write value) = some value)
    (entries : List (String × α)) :
    (entries.map fun entry => (entry.1, write entry.2)).mapM
      (fun member => (read member.2).map (member.1, ·)) = some entries := by
  induction entries with
  | nil => rfl
  | cons entry rest ih =>
    rw [List.map_cons, List.mapM_cons, back, Option.map_some, ih]
    rfl

/-- **The form of a table,** with the form of its values. -/
theorem Form.table (form : Form write read doubles change) :
    Form (Snapshot.tableJson write) (table? read) (Table.doubles doubles)
      fun f => Table.map (change f) where
  written f table denoted := by
    rw [Snapshot.tableJson, object_readsAs_iff, List.forall_mem_map]
    intro entry there
    exact form.written f entry.2 fun x inside =>
      denoted x (List.mem_flatMap.mpr ⟨entry, there, inside⟩)
  changed f table := by
    rw [Snapshot.tableJson, reread, rereadMembers_eq_map, List.map_map, Snapshot.tableJson,
      Table.map, List.map_map]
    simp only [Function.comp_def, form.changed]
  back table := by
    unfold table? Snapshot.tableJson
    rw [members?, Option.bind_eq_bind, Option.bind_some, mapM_entries form.back,
      Option.bind_eq_bind, Option.bind_some, Table.ofList_entries]
    rfl

end Json

/-! ### Metrics -/

namespace Scalar

def doubles : Scalar → List Float
  | float value => [value]
  | _ => []

def mapDoubles (f : Float → Float) : Scalar → Scalar
  | float value => float (f value)
  | other => other

/-- **The form of a gauge.** A whole number, a double, a truth value and a text are written in four
ways, so each is read as what it was. -/
theorem form : Json.Form toJson ofJson? doubles mapDoubles where
  written f value denoted := by
    cases value with
    | integer value => exact Json.int64_readsAs value
    | float value => exact Json.float_readsAs (denoted value List.mem_cons_self)
    | bool value => exact trivial
    | text value => exact trivial
  changed f value := by cases value <;> rfl
  back value := by
    cases value with
    | integer value =>
      rw [toJson, ofJson?, if_pos (Json.fitsInt64_toInt value), Int64.ofInt_toInt]
    | float value => rfl
    | bool value => rfl
    | text value => rfl

end Scalar

theorem Counter.form : Json.Form toJson ofJson? (fun _ => []) (fun _ counter => counter) where
  written f counter _ := by
    rw [toJson, Json.object_readsAs_iff, List.forall_mem_singleton]
    exact Json.int64_readsAs counter.count
  changed f counter := rfl
  back counter := by
    obtain ⟨fields, known, holds⟩ := Json.fields?_holds names
      [("count", .int counter.count.toInt)] (by simp) (by simp [names])
    unfold ofJson? toJson
    rw [known, Option.bind_eq_bind, Option.bind_some, holds.required List.mem_cons_self,
      Json.int64?_toInt]
    rfl

namespace Distribution

def doubles (d : Distribution) : List Float :=
  [d.mean, d.stddev, d.p50, d.p75, d.p95, d.p98, d.p99, d.p999]

def mapDoubles (f : Float → Float) (d : Distribution) : Distribution :=
  { d with
    mean := f d.mean, stddev := f d.stddev, p50 := f d.p50, p75 := f d.p75, p95 := f d.p95,
    p98 := f d.p98, p99 := f d.p99, p999 := f d.p999 }

theorem members_readsAs {f : Float → Float} {d : Distribution}
    (denoted : ∀ x ∈ d.doubles, Json.asDouble? x = some (f x)) :
    ∀ member ∈ d.members, member.2.ReadsAs f := by
  simp only [doubles, List.forall_mem_cons] at denoted
  obtain ⟨mean, stddev, p50, p75, p95, p98, p99, p999, _⟩ := denoted
  simp only [members, List.forall_mem_cons]
  exact ⟨Json.int64_readsAs _, Json.int64_readsAs _, Json.float_readsAs mean,
    Json.float_readsAs stddev, Json.float_readsAs p50, Json.float_readsAs p75,
    Json.float_readsAs p95, Json.float_readsAs p98, Json.float_readsAs p99,
    Json.float_readsAs p999, by simp⟩

/-- **A distribution is found among the fields that its members are in.** -/
theorem ofFields?_of_holds {fields : List (String × Json)} {d : Distribution}
    (holds : Fields.Holds fields d.members) : ofFields? fields = some d := by
  simp only [Fields.Holds, members, List.forall_mem_cons] at holds
  obtain ⟨min, max, mean, stddev, p50, p75, p95, p98, p99, p999, _⟩ := holds
  simp only [ofFields?, Fields.required, min, max, mean, stddev, p50, p75, p95, p98, p99, p999,
    Option.bind_some, Json.int64?_toInt, Json.float?]
  rfl

end Distribution

namespace Rates

def doubles (rates : Rates) : List Float :=
  [rates.mean, rates.one, rates.five, rates.fifteen]

def mapDoubles (f : Float → Float) (rates : Rates) : Rates where
  mean := f rates.mean
  one := f rates.one
  five := f rates.five
  fifteen := f rates.fifteen

theorem members_readsAs {f : Float → Float} {rates : Rates}
    (denoted : ∀ x ∈ rates.doubles, Json.asDouble? x = some (f x)) :
    ∀ member ∈ rates.members, member.2.ReadsAs f := by
  simp only [doubles, List.forall_mem_cons] at denoted
  obtain ⟨mean, one, five, fifteen, _⟩ := denoted
  simp only [members, List.forall_mem_cons]
  exact ⟨Json.float_readsAs mean, Json.float_readsAs one, Json.float_readsAs five,
    Json.float_readsAs fifteen, by simp⟩

/-- **Rates are found among the fields that their members are in.** -/
theorem ofFields?_of_holds {fields : List (String × Json)} {rates : Rates}
    (holds : Fields.Holds fields rates.members) : ofFields? fields = some rates := by
  simp only [Fields.Holds, members, List.forall_mem_cons] at holds
  obtain ⟨mean, one, five, fifteen, _⟩ := holds
  simp only [ofFields?, Fields.required, mean, one, five, fifteen, Json.float?, Option.bind_some]
  rfl

end Rates

namespace Histogram

def doubles (histogram : Histogram) : List Float :=
  histogram.distribution.doubles

def mapDoubles (f : Float → Float) (histogram : Histogram) : Histogram :=
  { histogram with distribution := histogram.distribution.mapDoubles f }

/-- **The form of a histogram:** its count, and its distribution beside it. -/
theorem form (depth : Nat) : Json.Form toJson (ofJson? depth) doubles mapDoubles where
  written f histogram denoted := by
    rw [toJson, Json.object_readsAs_iff, List.forall_mem_cons]
    exact ⟨Json.int64_readsAs _, Distribution.members_readsAs denoted⟩
  changed f histogram := rfl
  back histogram := by
    obtain ⟨fields, known, holds⟩ := Json.flatFields?_holds names
      (("count", .int histogram.count.toInt) :: histogram.distribution.members)
      (by simp [Distribution.members]) (by simp [names, Distribution.names, Distribution.members])
      (fun room => rfl)
    obtain ⟨count, distribution⟩ := List.forall_mem_cons.mp holds
    unfold ofJson? toJson
    rw [known, Option.bind_eq_bind, Option.bind_some, Fields.required, count, Option.bind_some,
      Json.int64?_toInt, Distribution.ofFields?_of_holds distribution]
    rfl

end Histogram

namespace Meter

def doubles (meter : Meter) : List Float :=
  meter.rates.doubles

def mapDoubles (f : Float → Float) (meter : Meter) : Meter :=
  { meter with rates := meter.rates.mapDoubles f }

theorem form (depth : Nat) : Json.Form toJson (ofJson? depth) doubles mapDoubles where
  written f meter denoted := by
    rw [toJson, Json.object_readsAs_iff, List.forall_mem_cons]
    exact ⟨Json.int64_readsAs _, Rates.members_readsAs denoted⟩
  changed f meter := rfl
  back meter := by
    obtain ⟨fields, known, holds⟩ := Json.flatFields?_holds names
      (("count", .int meter.count.toInt) :: meter.rates.members)
      (by simp [Rates.members]) (by simp [names, Rates.names, Rates.members]) (fun room => rfl)
    obtain ⟨count, rates⟩ := List.forall_mem_cons.mp holds
    unfold ofJson? toJson
    rw [known, Option.bind_eq_bind, Option.bind_some, Fields.required, count, Option.bind_some,
      Json.int64?_toInt, Rates.ofFields?_of_holds rates]
    rfl

end Meter

namespace Timer

def doubles (timer : Timer) : List Float :=
  timer.distribution.doubles ++ timer.rates.doubles

def mapDoubles (f : Float → Float) (timer : Timer) : Timer :=
  { timer with
    distribution := timer.distribution.mapDoubles f
    rates := timer.rates.mapDoubles f }

/-- **The form of a timer:** its count, and both its distribution and its rates beside it. -/
theorem form (depth : Nat) : Json.Form toJson (ofJson? depth) doubles mapDoubles where
  written f timer denoted := by
    obtain ⟨distribution, rates⟩ := List.forall_mem_append.mp denoted
    rw [toJson, Json.object_readsAs_iff, List.forall_mem_cons, List.forall_mem_append]
    exact ⟨Json.int64_readsAs _, Distribution.members_readsAs distribution,
      Rates.members_readsAs rates⟩
  changed f timer := rfl
  back timer := by
    obtain ⟨fields, known, holds⟩ := Json.flatFields?_holds names
      (("count", .int timer.count.toInt) :: (timer.distribution.members ++ timer.rates.members))
      (by simp [Distribution.members, Rates.members])
      (by simp [names, Distribution.names, Distribution.members, Rates.names, Rates.members])
      (fun room => rfl)
    obtain ⟨count, others⟩ := List.forall_mem_cons.mp holds
    obtain ⟨distribution, rates⟩ := List.forall_mem_append.mp others
    unfold ofJson? toJson
    rw [known, Option.bind_eq_bind, Option.bind_some, Fields.required, count, Option.bind_some,
      Json.int64?_toInt, Distribution.ofFields?_of_holds distribution,
      Rates.ofFields?_of_holds rates]
    rfl

end Timer

/-! ### Snapshots -/

namespace Snapshot

/-- The doubles of a snapshot. Counters have none. -/
def doubles (snapshot : Snapshot) : List Float :=
  snapshot.gauges.doubles Scalar.doubles ++ snapshot.histograms.doubles Histogram.doubles ++
    snapshot.meters.doubles Meter.doubles ++ snapshot.timers.doubles Timer.doubles

def mapDoubles (f : Float → Float) (snapshot : Snapshot) : Snapshot where
  gauges := snapshot.gauges.map (Scalar.mapDoubles f)
  counters := snapshot.counters
  histograms := snapshot.histograms.map (Histogram.mapDoubles f)
  meters := snapshot.meters.map (Meter.mapDoubles f)
  timers := snapshot.timers.map (Timer.mapDoubles f)

/-- **The form of a snapshot,** with the forms of its five tables. -/
theorem form (depth : Nat) : Json.Form toJson (ofJson? depth) doubles mapDoubles where
  written f snapshot denoted := by
    simp only [doubles, List.forall_mem_append] at denoted
    obtain ⟨⟨⟨gauges, histograms⟩, meters⟩, timers⟩ := denoted
    rw [toJson, Json.object_readsAs_iff]
    simp only [List.forall_mem_cons]
    exact ⟨Scalar.form.table.written f _ gauges,
      Counter.form.table.written f _ (by simp [Table.doubles]),
      (Histogram.form depth).table.written f _ histograms,
      (Meter.form depth).table.written f _ meters, (Timer.form depth).table.written f _ timers,
      by simp⟩
  changed f snapshot := by
    have counters := Counter.form.table.changed f snapshot.counters
    rw [Table.map_id] at counters
    rw [toJson, Json.reread, Json.rereadMembers_eq_map]
    simp only [List.map_cons, List.map_nil, Scalar.form.table.changed, counters,
      (Histogram.form depth).table.changed, (Meter.form depth).table.changed,
      (Timer.form depth).table.changed]
    rfl
  back snapshot := by
    obtain ⟨fields, known, holds⟩ := Json.fields?_holds names
      [("gauges", tableJson Scalar.toJson snapshot.gauges),
        ("counters", tableJson Counter.toJson snapshot.counters),
        ("histograms", tableJson Histogram.toJson snapshot.histograms),
        ("meters", tableJson Meter.toJson snapshot.meters),
        ("timers", tableJson Timer.toJson snapshot.timers)] (by simp) (by simp [names])
    simp only [Fields.Holds, List.forall_mem_cons] at holds
    obtain ⟨gauges, counters, histograms, meters, timers, _⟩ := holds
    unfold ofJson? toJson
    rw [known]
    simp only [Option.bind_eq_bind, Option.bind_some, Fields.optional, gauges, counters, histograms,
      meters, timers, Scalar.form.table.back, Counter.form.table.back,
      (Histogram.form _).table.back, (Meter.form _).table.back, (Timer.form _).table.back]
    rfl

end Snapshot

end MetricRelay
