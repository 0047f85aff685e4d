/-
**A row is read as it is written.**

* `Json.at?`: what stands at a path of names in a JSON value;
* `Record.at?_members`: a record that was written has at each path what it had there;
* `Record.members_injective`: records that are written alike are equal;
* `Row.IsReadable`: the numbers of a row are read as they are written, and no leaf is a bundle,
  which would look like a node;
* `Row.parse?_line`: such a row is read back from its line;
* `Lines.splitOn_bytes`: rows are cut apart at the line feeds again.

Main statement: `Row.lines_are_faithful`.
-/

import Mathlib.Data.List.Basic
import MetricRelay.Proofs.Disk.LineCount
import MetricRelay.Proofs.Json.ReadBack
import MetricRelay.Proofs.Row.Merging

namespace MetricRelay

/-- What stands at a path of names in a value. -/
def Json.at? : Json → List String → Option Json
  | value, [] => some value
  | .object members, name :: path => (members.lookup name).bind fun member => member.at? path
  | _, _ :: _ => none

/-! ### Values -/

theorem Scalar.toJson_injective {scalar other : Scalar} (same : scalar.toJson = other.toJson) :
    scalar = other := by
  cases scalar <;> cases other <;> simp_all [toJson, Int64.toInt_inj]

namespace Measure

/-- A single value that is read as it is written: of a double, its text has to denote it. -/
def IsReadable : Measure → Prop
  | scalar (.float value) =>
    (Json.Numeral.parse? (Json.floatChars value)).map Json.Numeral.value = some (.float value)
  | scalar _ => True
  | bundle _ => False

theorem IsReadable.exists_scalar {measure : Measure} (readable : measure.IsReadable) :
    ∃ value, measure = scalar value := by
  cases measure with
  | scalar value => exact ⟨value, rfl⟩
  | bundle fields => exact readable.elim

theorem IsReadable.readsBack {measure : Measure} (readable : measure.IsReadable) :
    measure.toJson.ReadsBack := by
  obtain ⟨value, rfl⟩ := readable.exists_scalar
  cases value with
  | integer value =>
    have low := value.le_toInt
    have high := value.toInt_lt
    exact Json.int_readsAs (by omega) (by omega)
  | float value =>
    rw [toJson, Scalar.toJson, Json.ReadsBack, Json.ReadsAs]
    exact readable
  | bool value => rw [toJson, Scalar.toJson, Json.ReadsBack, Json.ReadsAs]; trivial
  | text value => rw [toJson, Scalar.toJson, Json.ReadsBack, Json.ReadsAs]; trivial

/-- No single value has members. -/
theorem at?_scalar (value : Scalar) (name : String) (path : List String) :
    (scalar value).toJson.at? (name :: path) = none := by
  cases value <;> rfl

theorem toJson_eq_scalar {measure : Measure} {value : Scalar} :
    measure.toJson = value.toJson ↔ measure = scalar value := by
  cases measure with
  | scalar other =>
    rw [scalar.injEq]
    exact ⟨Scalar.toJson_injective, congrArg Scalar.toJson⟩
  | bundle fields => exact iff_of_false (by cases value <;> simp [toJson, Scalar.toJson]) (by simp)

end Measure

/-! ### Records -/

namespace Record

variable {α : Type}

/-- Every leaf has a good value. -/
def Each (good : α → Prop) (record : Record α) : Prop :=
  ∀ entry ∈ record.leaves, good entry.2

theorem each_leaf {good : α → Prop} {key : String} {value : α} {rest : Record α} :
    Each good (leaf key value rest) ↔ good value ∧ Each good rest := by
  unfold Each
  rw [leaves, List.forall_mem_cons]

theorem each_node {good : α → Prop} {key : String} {children rest : Record α} :
    Each good (node key children rest) ↔ Each good children ∧ Each good rest := by
  unfold Each
  rw [leaves, List.forall_mem_append, List.forall_mem_map]

/-- The members of a record are read back if its leaves are. -/
theorem members_readBack {write : α → Json} {record : Record α}
    (reads : record.Each fun value => (write value).ReadsBack) :
    Json.MembersReadBack (record.members write) := by
  induction record with
  | nil =>
    rw [members, Json.MembersReadBack, Json.MembersReadAs]
    trivial
  | leaf key value rest ih =>
    obtain ⟨here, later⟩ := each_leaf.mp reads
    rw [members, Json.MembersReadBack, Json.MembersReadAs]
    exact ⟨here, ih later⟩
  | node key children rest ihChildren ihRest =>
    obtain ⟨inside, later⟩ := each_node.mp reads
    rw [members, Json.MembersReadBack, Json.MembersReadAs, Json.ReadsAs]
    exact ⟨ihChildren inside, ihRest later⟩

/-- **A record that was written has at each path what it had there**, if no leaf is written as an
object. -/
theorem at?_members {write : α → Json} {record : Record α}
    (bare : record.Each fun value => ∀ name path, (write value).at? (name :: path) = none)
    (key : String) (path : List String) :
    (Json.object (record.members write)).at? (key :: path) =
      match record.findAt key path with
      | .missing => none
      | .leaf value => some (write value)
      | .node children => some (.object (children.members write)) := by
  induction record generalizing key path with
  | nil => rfl
  | leaf other value rest ih =>
    obtain ⟨here, later⟩ := each_leaf.mp bare
    rw [members, Json.at?, List.lookup_cons]
    by_cases same : key = other
    · rw [same, beq_self_eq_true]
      cases path with
      | nil => simp [Json.at?, findAt]
      | cons name path => simpa [findAt] using here name path
    · rw [beq_false_of_ne same, findAt_leaf_of_ne same]
      exact ih later key path
  | node other children rest ihChildren ihRest =>
    obtain ⟨inside, later⟩ := each_node.mp bare
    rw [members, Json.at?, List.lookup_cons]
    by_cases same : key = other
    · rw [same, beq_self_eq_true]
      cases path with
      | nil => simp [Json.at?, findAt]
      | cons name path => simpa [findAt] using ihChildren inside name path
    · rw [beq_false_of_ne same, findAt_node_of_ne same]
      exact ihRest later key path

/-- **Records that are written alike are equal**, if their leaves tell their values and none looks
like a node. -/
theorem members_injective {write : α → Json} {good : α → Prop}
    (tells : ∀ value other, good value → good other → write value = write other → value = other)
    (bare : ∀ value, good value → ∀ members, write value ≠ .object members)
    {record other : Record α} (readable : record.Each good) (otherReadable : other.Each good)
    (same : record.members write = other.members write) : record = other := by
  induction record generalizing other with
  | nil =>
    cases other with
    | nil => rfl
    | leaf | node => cases same
  | leaf key value rest ih =>
    obtain ⟨here, later⟩ := each_leaf.mp readable
    cases other with
    | nil => cases same
    | leaf otherKey otherValue otherRest =>
      obtain ⟨otherHere, otherLater⟩ := each_leaf.mp otherReadable
      simp only [members, List.cons.injEq, Prod.mk.injEq] at same
      obtain ⟨⟨rfl, written⟩, behind⟩ := same
      rw [tells value otherValue here otherHere written, ih later otherLater behind]
    | node otherKey otherChildren otherRest =>
      simp only [members, List.cons.injEq, Prod.mk.injEq] at same
      exact absurd same.1.2 (bare value here _)
  | node key children rest ihChildren ihRest =>
    obtain ⟨inside, later⟩ := each_node.mp readable
    cases other with
    | nil => cases same
    | leaf otherKey otherValue otherRest =>
      obtain ⟨otherHere, otherLater⟩ := each_leaf.mp otherReadable
      simp only [members, List.cons.injEq, Prod.mk.injEq] at same
      exact absurd same.1.2.symm (bare otherValue otherHere _)
    | node otherKey otherChildren otherRest =>
      obtain ⟨otherInside, otherLater⟩ := each_node.mp otherReadable
      simp only [members, List.cons.injEq, Prod.mk.injEq, Json.object.injEq] at same
      obtain ⟨⟨rfl, written⟩, behind⟩ := same
      rw [ihChildren inside otherInside written, ihRest later otherLater behind]

/-- Where a record of readable values has a value, its JSON has it, and nowhere else. -/
theorem at?_toJson_iff {record : Record Measure}
    (readable : record.Each Measure.IsReadable) (path : List String) (value : Scalar) :
    (record.toJson Measure.toJson).at? path = some value.toJson ↔
      record.find path = .leaf (.scalar value) := by
  have bare : record.Each fun held => ∀ name path, held.toJson.at? (name :: path) = none := by
    intro entry member name path
    obtain ⟨held, same⟩ := (readable entry member).exists_scalar
    rw [same]
    exact Measure.at?_scalar held name path
  have noObject (members : List (String × Json)) : Json.object members ≠ value.toJson := by
    cases value <;> simp [Scalar.toJson]
  cases path with
  | nil =>
    rw [toJson, Json.at?, Option.some.injEq, find]
    exact iff_of_false (noObject _) (by simp)
  | cons key path =>
    rw [toJson, at?_members bare, find]
    cases record.findAt key path with
    | missing => simp
    | leaf held =>
      simp only [Option.some.injEq, Place.leaf.injEq]
      exact Measure.toJson_eq_scalar
    | node children =>
      simp only [Option.some.injEq]
      exact iff_of_false (noObject _) (by simp)

end Record

/-! ### Rows -/

namespace Row

/-- The numbers of a row are read as they are written, and every leaf is a single value. -/
structure IsReadable (row : Row) : Prop where
  timestamp : Json.fitsInt64 row.timestamp = true
  values : row.values.Each Measure.IsReadable

variable {row other : Row}

/-- **A row is read back from its line.** -/
theorem parse?_line (readable : row.IsReadable) : Json.parse? row.line = some row.toJson := by
  refine Json.parse?_compact ?_
  have fits := readable.timestamp
  simp only [Json.fitsInt64, Bool.and_eq_true, decide_eq_true_eq] at fits
  have timestamp : (Json.int row.timestamp).ReadsBack := Json.int_readsAs fits.1 (by omega)
  have values := Record.members_readBack fun entry member =>
    (readable.values entry member).readsBack
  simp only [toJson, Record.toJson, Json.ReadsAs, Json.MembersReadAs, and_true]
  exact ⟨by rw [← Json.ReadsAs]; exact timestamp, values⟩

/-- **Different rows have different lines.** -/
theorem eq_of_line_eq (readable : row.IsReadable) (otherReadable : other.IsReadable)
    (same : row.line = other.line) : row = other := by
  have written : row.toJson = other.toJson := by
    have read := parse?_line readable
    rw [same, parse?_line otherReadable] at read
    exact (Option.some.inj read).symm
  simp only [toJson, Record.toJson, Json.object.injEq, List.cons.injEq, Prod.mk.injEq, true_and,
    and_true, Json.int.injEq, Json.text.injEq] at written
  obtain ⟨timestamp, members, host⟩ := written
  have tells (value held : Measure) (good : value.IsReadable) (goodHeld : held.IsReadable)
      (alike : value.toJson = held.toJson) : value = held := by
    obtain ⟨scalar, rfl⟩ := goodHeld.exists_scalar
    exact Measure.toJson_eq_scalar.mp alike
  have bare (value : Measure) (good : value.IsReadable) (members : List (String × Json)) :
      value.toJson ≠ .object members := by
    obtain ⟨scalar, rfl⟩ := good.exists_scalar
    cases scalar <;> simp [Measure.toJson, Scalar.toJson]
  have values := Record.members_injective tells bare readable.values otherReadable.values members
  obtain ⟨_, _, ⟨_⟩⟩ := row
  obtain ⟨_, _, ⟨_⟩⟩ := other
  rw [Row.mk.injEq, HostTag.mk.injEq]
  exact ⟨timestamp, values, host⟩

/-- Lists of rows with the same lines are equal. -/
theorem eq_of_lines_eq {rows others : List Row} (readable : ∀ row ∈ rows, row.IsReadable)
    (otherReadable : ∀ row ∈ others, row.IsReadable)
    (same : rows.map line = others.map line) : rows = others := by
  induction rows generalizing others with
  | nil => exact (List.map_eq_nil_iff.mp same.symm).symm
  | cons row rest ih =>
    cases others with
    | nil => cases same
    | cons other otherRest =>
      rw [List.forall_mem_cons] at readable otherReadable
      rw [List.map_cons, List.map_cons, List.cons.injEq] at same
      rw [eq_of_line_eq readable.1 otherReadable.1 same.1,
        ih readable.2 otherReadable.2 same.2]

end Row

/-! ### Logs of rows -/

namespace Lines

/-- **Plain lines are cut apart at the line feeds again.** -/
theorem splitOn_bytes {lines : List String} (plain : ∀ line ∈ lines, IsPlain line.toList) :
    (bytes lines).data.toList.splitOn 10 =
      lines.map (fun line => line.toUTF8.data.toList) ++ [[]] := by
  induction lines with
  | nil => rfl
  | cons line rest ih =>
    rw [List.forall_mem_cons] at plain
    rw [bytes_cons, ByteArray.toList_data_append, toUTF8_feed, List.append_assoc,
      List.singleton_append, List.splitOn_append_cons_self,
      List.splitOn_eq_singleton (not_mem_toUTF8 plain.1), ih plain.2]
    rfl

/-- Different lists of plain lines are different bytes. -/
theorem eq_of_bytes_eq {lines others : List String} (plain : ∀ line ∈ lines, IsPlain line.toList)
    (otherPlain : ∀ line ∈ others, IsPlain line.toList) (same : bytes lines = bytes others) :
    lines = others := by
  have injective : Function.Injective fun line : String => line.toUTF8.data.toList := by
    intro line other alike
    rw [← String.toByteArray_inj]
    exact ByteArray.ext (Array.toList_inj.mp alike)
  have cut := splitOn_bytes plain
  rw [same, splitOn_bytes otherPlain] at cut
  exact (injective.list_map (List.append_cancel_right cut)).symm

end Lines

namespace Row

theorem lines_arePlain (rows : List Row) : ∀ line ∈ rows.map Row.line, IsPlain line.toList := by
  intro line member
  obtain ⟨row, _, rfl⟩ := List.mem_map.mp member
  exact row.line_isPlain

/-- **The lines of rows are faithful.** No line holds a character below U+0020, whatever the row
holds. The line of a readable row is read as an object with the members `timestamp`, `values` and
`host`: the timestamp and the host tag of the row, and an object that has a value at a path exactly
where the record of the row has it. Different readable rows have different lines. A log of rows is
cut at its line feeds into the lines of these rows, so different lists of readable rows make
different logs. -/
theorem lines_are_faithful :
    (∀ row : Row, IsPlain row.line.toList) ∧
    (∀ row : Row, row.IsReadable → ∃ values,
      Json.parse? row.line = some (.object [("timestamp", .int row.timestamp), ("values", values),
        ("host", .text row.host.text)]) ∧
      ∀ path scalar, values.at? path = some (Scalar.toJson scalar) ↔
        row.values.find path = .leaf (.scalar scalar)) ∧
    (∀ row other : Row, row.IsReadable → other.IsReadable → row.line = other.line → row = other) ∧
    (∀ rows : List Row, (Lines.bytes (rows.map line)).data.toList.splitOn 10 =
      rows.map (fun row => row.line.toUTF8.data.toList) ++ [[]]) ∧
    (∀ rows others : List Row, (∀ row ∈ rows, row.IsReadable) → (∀ row ∈ others, row.IsReadable) →
      Lines.bytes (rows.map line) = Lines.bytes (others.map line) → rows = others) := by
  refine ⟨line_isPlain, fun row readable => ?_, fun row other => eq_of_line_eq, fun rows => ?_,
    fun rows others readable otherReadable same => ?_⟩
  · exact ⟨row.values.toJson Measure.toJson, parse?_line readable,
      Record.at?_toJson_iff readable.values⟩
  · rw [Lines.splitOn_bytes (lines_arePlain rows), List.map_map]
    rfl
  · exact eq_of_lines_eq readable otherReadable
      (Lines.eq_of_bytes_eq (lines_arePlain rows) (lines_arePlain others) same)

/-- A row of marks, line breaks and empty texts. -/
def quoting : Row where
  timestamp := -1
  values := .leaf "" (.scalar (.text ""))
    (.node "\"\n\\" (.leaf "\x01" (.scalar (.text "\"\r\n")) .nil)
      (.leaf "\x7b\"\":0\x7d" (.scalar (.integer 0)) .nil))
  host := ⟨"\t_0"⟩

/-- It is read back, and it is not taken for the row of another second. -/
theorem quoting_is_read_back :
    quoting.IsReadable ∧
    (∃ values, Json.parse? quoting.line = some (.object [("timestamp", .int (-1)),
        ("values", values), ("host", .text "\t_0")]) ∧
      values.at? ["\"\n\\", "\x01"] = some (.text "\"\r\n")) ∧
    quoting.line ≠ { quoting with timestamp := 0 }.line ∧
    Lines.bytes ([quoting, { quoting with timestamp := 0 }].map line) ≠
      Lines.bytes ([quoting].map line) := by
  have values : quoting.values.Each Measure.IsReadable := by
    simp [quoting, Record.Each, Record.leaves, Measure.IsReadable]
  have readable : quoting.IsReadable := ⟨by decide, values⟩
  have later : { quoting with timestamp := 0 }.IsReadable := ⟨by decide, values⟩
  obtain ⟨_, read, different, _, logs⟩ := lines_are_faithful
  obtain ⟨written, parsed, places⟩ := read quoting readable
  refine ⟨readable, ⟨written, parsed, ?_⟩, fun same => ?_, fun same => ?_⟩
  · exact (places _ (.text "\"\r\n")).mpr (by simp [quoting, Record.find, Record.findAt])
  · cases congrArg timestamp (different _ _ readable later same)
  · have rows := logs _ _ (by simp [readable, later]) (by simp [readable]) same
    cases congrArg List.length rows

end Row

end MetricRelay
