/-
**A replay that reads its own rows comes to an end.**

A recording can be the log of the replay itself. Each frame may add rows to it, and the rows are
read as lines like any other. But no row is a frame, and no line that ends with a row is one either,
so they add nothing: when the lines that were there have been taken, and the last one, which may lack
its end, with what was put behind it, nothing more comes.

* `Recording.frame?_of_row`: a line that ends with a row is no frame;
* `Replay.takeGrowing_rows`: rows that stand behind what was read are taken in one round, and add
  nothing;
* `Replay.AddsRows`: all that a replay adds to its recording are rows.

Main statement: `Replay.rounds_suffice`.
-/

import MetricRelay.Proofs.Json.Preceded
import MetricRelay.Proofs.Json.Records
import MetricRelay.Proofs.Report.Growing
import MetricRelay.Proofs.Row.ReadBack

namespace MetricRelay

namespace Recording

/-! ### Texts that end with a text -/

/-- Where a byte that begins a character stands, a character begins. -/
theorem exists_append_of_flatMap {first : UInt8} (begins : first.IsUTF8FirstByte)
    {back : List UInt8} {chars : List Char} {front : List UInt8}
    (same : chars.flatMap String.utf8EncodeChar = front ++ first :: back) :
    ∃ before after, chars = before ++ after ∧
      after.flatMap String.utf8EncodeChar = first :: back := by
  induction chars generalizing front with
  | nil => simp at same
  | cons c chars ih =>
    rw [List.flatMap_cons, List.append_eq_append_iff] at same
    rcases same with ⟨rest, _, later⟩ | ⟨rest, encoded, behind⟩
    · obtain ⟨before, after, rfl, bytes⟩ := ih later
      exact ⟨c :: before, after, rfl, bytes⟩
    · cases rest with
      | nil => exact ⟨[c], chars, rfl, behind.symm⟩
      | cons byte rest =>
        rw [List.cons_append, List.cons.injEq] at behind
        obtain ⟨rfl, rfl⟩ := behind
        -- The byte is one of the character, and only the first one begins a character.
        have inside : front.length < (String.utf8EncodeChar c).length := by simp [encoded]
        have here : (String.utf8EncodeChar c)[front.length] = first := by simp [encoded]
        rw [← here, UInt8.isUTF8FirstByte_getElem_utf8EncodeChar, List.length_eq_zero_iff] at begins
        subst begins
        exact ⟨[], c :: chars, rfl, by rw [List.flatMap_cons, encoded]; rfl⟩

/-- **A text whose bytes end with those of a text** ends with that text. -/
theorem exists_append_of_text? {front : List UInt8} {back text : String}
    (readable : text? (front ++ back.toUTF8.data.toList) = some text) :
    ∃ before, text.toList = before ++ back.toList := by
  rw [text?_eq_some, Lines.toUTF8_toList, Lines.toUTF8_toList] at readable
  cases chars : back.toList with
  | nil => exact ⟨text.toList, (List.append_nil _).symm⟩
  | cons c rest =>
    rw [chars, List.flatMap_cons] at readable
    cases encoded : String.utf8EncodeChar c with
    | nil => exact absurd encoded String.utf8EncodeChar_ne_nil
    | cons first others =>
      have begins : first.IsUTF8FirstByte := by
        have inside : 0 < (String.utf8EncodeChar c).length := by simp [encoded]
        have here : (String.utf8EncodeChar c)[0] = first := by simp [encoded]
        rw [← here, UInt8.isUTF8FirstByte_getElem_utf8EncodeChar]
      rw [encoded, List.cons_append] at readable
      obtain ⟨before, after, cut, bytes⟩ := exists_append_of_flatMap begins readable
      have same : String.ofList after = String.ofList (c :: rest) := by
        rw [← Option.some.injEq, ← text?_eq_some.mpr rfl, ← text?_eq_some.mpr rfl,
          Lines.toUTF8_toList, Lines.toUTF8_toList, String.toList_ofList, String.toList_ofList,
          bytes, List.flatMap_cons, encoded, List.cons_append]
      exact ⟨before, by rw [cut, String.ofList_injective same]⟩

/-- Trimming leaves what begins and ends with something that can be seen. -/
theorem exists_append_of_trim {first last : Char} (visibleFirst : Text.isBlank first = false)
    (visibleLast : Text.isBlank last = false) (before inside : List Char) :
    ∃ front, Text.trim (before ++ first :: (inside ++ [last])) =
      front ++ first :: (inside ++ [last]) := by
  have seen : ∃ front, (before ++ first :: (inside ++ [last])).dropWhile Text.isBlank =
      front ++ first :: (inside ++ [last]) := by
    rw [List.dropWhile_append]
    split
    · rw [List.dropWhile_cons_of_neg (by rw [visibleFirst]; exact Bool.false_ne_true)]
      exact ⟨[], rfl⟩
    · exact ⟨_, rfl⟩
  obtain ⟨front, seen⟩ := seen
  refine ⟨front, ?_⟩
  show List.rdropWhile Text.isBlank _ = _
  rw [seen, ← List.cons_append, ← List.append_assoc,
    List.rdropWhile_concat_neg _ _ _ (by rw [visibleLast]; exact Bool.false_ne_true)]

end Recording

/-! ### Rows are no frames -/

/-- No object with other keys is a frame. -/
theorem Frame.ofJson?_eq_none {found : Json} {keys : List String} (known : found.keys? = some keys)
    (other : "timestamp_ms" ∉ keys) : Frame.ofJson? found = none := by
  obtain ⟨members, rfl⟩ := Json.exists_members_of_keys? known
  have absent : members.lookup "timestamp_ms" = none := by
    rw [List.lookup_eq_none_iff]
    intro member there
    cases known
    exact bne_iff_ne.mpr fun same => other (List.mem_map.mpr ⟨member, there, same.symm⟩)
  unfold Frame.ofJson? Json.fields? Fields.known?
  simp only
  split
  · rw [Option.bind_eq_bind, Option.bind_some, Fields.required,
      Fields.lookup_known (by decide), absent]
    rfl
  · rfl

namespace Row

/-- The text of a row ends no quoted text that was begun before it. -/
theorem run?_text_chars (row : Row) (pieces : List Json.Piece) (held : List Json.Token) :
    Json.Scanner.run? (.text pieces) held row.toJson.chars = none := rfl

/-- **A text that ends with a row is no frame.** -/
theorem ofJson?_of_preceded (row : Row) (front : List Char) :
    (Json.parseChars? (front ++ row.toJson.chars)).bind Frame.ofJson? = none := by
  cases parsed : Json.parseChars? (front ++ row.toJson.chars) with
  | none => rfl
  | some found =>
    have keys : found.keys? = some ["timestamp", "values", "host"] :=
      Json.keys?_of_preceded row.run?_text_chars parsed
    exact Frame.ofJson?_eq_none keys (by decide)

end Row

namespace Recording

/-- **A line that ends with a row is no frame.** -/
theorem frame?_of_row (front : List UInt8) (row : Row) :
    (classify (front ++ row.line.toUTF8.data.toList)).frame? = none := by
  unfold classify
  cases readable : text? (front ++ row.line.toUTF8.data.toList) with
  | none => rfl
  | some text =>
    obtain ⟨before, chars⟩ := exists_append_of_text? readable
    have line : row.line.toList = row.toJson.chars := String.toList_ofList
    obtain ⟨front, trimmed⟩ : ∃ front, Text.trim text.toList = front ++ row.toJson.chars := by
      rw [chars, line]
      exact exists_append_of_trim (by decide) (by decide) before _
    simp only [trimmed, row.ofJson?_of_preceded]
    split <;> rfl

/-- The bytes of rows, each with the mark of its end. -/
def rowBytes (rows : List Row) : List UInt8 :=
  (Lines.bytes (rows.map Row.line)).data.toList

theorem rowBytes_cons (row : Row) (rows : List Row) :
    rowBytes (row :: rows) = row.line.toUTF8.data.toList ++ 10 :: rowBytes rows := by
  unfold rowBytes
  rw [List.map_cons, Lines.bytes_cons, ByteArray.toList_data_append, Lines.toUTF8_feed,
    List.append_assoc]
  rfl

theorem exists_feed_of_rows (row : Row) (rows : List Row) :
    ∃ inside, rowBytes (row :: rows) = inside ++ [10] := by
  induction rows generalizing row with
  | nil => exact ⟨_, rowBytes_cons row []⟩
  | cons next rows ih =>
    obtain ⟨inside, ended⟩ := ih next
    exact ⟨row.line.toUTF8.data.toList ++ 10 :: inside, by
      rw [rowBytes_cons, ended, List.append_assoc, List.cons_append]⟩

/-- Rows are cut apart at the line feeds. What stands before them belongs to the first one. -/
theorem pieces_of_rows {front : List UInt8} (plain : 10 ∉ front) (row : Row) (rows : List Row) :
    pieces (front ++ rowBytes (row :: rows)) = (front ++ row.line.toUTF8.data.toList) ::
      rows.map fun row => row.line.toUTF8.data.toList := by
  have whole : 10 ∉ front ++ row.line.toUTF8.data.toList := by
    rw [List.mem_append, not_or]
    exact ⟨plain, Lines.not_mem_toUTF8 row.line_isPlain⟩
  have cut : (front ++ rowBytes (row :: rows)).splitOn 10 =
      ((front ++ row.line.toUTF8.data.toList) ::
        rows.map fun row => row.line.toUTF8.data.toList) ++ [[]] := by
    rw [rowBytes_cons, ← List.append_assoc, List.splitOn_append_cons_self,
      List.splitOn_eq_singleton whole, rowBytes, Lines.splitOn_bytes (Row.lines_arePlain rows),
      List.map_map]
    rfl
  exact pieces_of_parts cut

/-- **Rows hold no frame,** with a line before them that has no end, either. -/
theorem frames_of_rows {front : List UInt8} (plain : 10 ∉ front) (row : Row) (rows : List Row) :
    ((lines (front ++ rowBytes (row :: rows))).map classify).filterMap Line.frame? = [] := by
  rw [classify_lines, pieces_of_rows plain, List.filterMap_eq_nil_iff]
  simp only [List.map_cons, List.forall_mem_cons, List.forall_mem_map]
  exact ⟨frame?_of_row front row, fun other _ => frame?_of_row [] other⟩

end Recording

namespace Replay

open Recording

variable {σ : Type} [Sink σ] {recording : σ → List UInt8} {position : Nat} {replay : Replay σ}

/-! ### Rounds -/

/-- Lines without a frame leave the reporter as it is. -/
theorem reporter_of_frameless {lines : List (List UInt8)}
    (none : (lines.map classify).filterMap Line.frame? = []) :
    (replay.takeLines lines).2.reporter = replay.reporter := by
  have before : (((lines.map classify).takeWhile Line.isText).filterMap Line.frame?) = [] :=
    List.sublist_nil.mp (none ▸ (List.takeWhile_sublist _).filterMap _)
  rw [takeLines_reporter, reports, before]
  rfl

/-- **Rows are taken in one round,** with a line before them that has no end. They add nothing. -/
theorem takeGrowing_rows {front : List UInt8} (plain : 10 ∉ front) {row : Row} {rows : List Row}
    (unread : (recording replay.sink).drop position = front ++ rowBytes (row :: rows))
    (rounds : Nat) :
    takeGrowing recording (rounds + 1) position replay =
      replay.takeLines (lines (front ++ rowBytes (row :: rows))) := by
  obtain ⟨inside, ended⟩ := exists_feed_of_rows row rows
  have part : Chunk ((recording replay.sink).drop position)
      (front ++ rowBytes (row :: rows)) [] := by
    rw [unread, ended, ← List.append_assoc]
    exact .ended (front ++ inside) List.not_mem_nil
  have same : (replay.takeLines (lines (front ++ rowBytes (row :: rows)))).2.sink = replay.sink :=
    congrArg (fun reporter => reporter.batcher.sink)
      (reporter_of_frameless (frames_of_rows plain row rows))
  rw [takeGrowing_step part]
  split
  next texts =>
    have void : (recording (replay.takeLines (lines (front ++ rowBytes (row :: rows)))).2.sink).drop
        (position + (front ++ rowBytes (row :: rows)).length) = [] := by
      rw [same, ← List.drop_drop, unread, List.drop_length]
    rw [takeGrowing_of_void void, ← texts]
  next => rfl

/-- A replay only ever adds rows to its recording. -/
def AddsRows (recording : σ → List UInt8) (start : Replay σ) : Prop :=
  ∀ lines, ∃ rows, recording (start.takeLines lines).2.sink =
    recording start.sink ++ rowBytes rows

/-- One round is enough if what is left is a line with rows behind it, or rows, or nothing. -/
theorem takeGrowing_settled {front : List UInt8} (plain : 10 ∉ front) {rows : List Row}
    (settled : rows = [] → front = [])
    (unread : (recording replay.sink).drop position = front ++ rowBytes rows) (more : Nat) :
    takeGrowing recording (more + 1) position replay =
      takeGrowing recording 1 position replay := by
  cases rows with
  | nil =>
    rw [settled rfl] at unread
    rw [takeGrowing_of_void unread, takeGrowing_of_void unread]
  | cons row rows => rw [takeGrowing_rows plain unread, takeGrowing_rows plain unread]

/-- Two rounds are enough if what is left is a line without an end, behind which rows are added. -/
theorem takeGrowing_alone {front : List UInt8} (plain : 10 ∉ front) (alone : front ≠ [])
    (unread : (recording replay.sink).drop position = front) {rows : List Row}
    (left : (recording (replay.takeLines (lines front)).2.sink).drop (position + front.length) =
      rowBytes rows) (more : Nat) :
    takeGrowing recording (more + 2) position replay =
      takeGrowing recording 2 position replay := by
  have last : Chunk ((recording replay.sink).drop position) front [] := by
    rw [unread]
    exact .unended alone plain
  rw [takeGrowing_step last, takeGrowing_step last]
  split
  next => exact takeGrowing_settled List.not_mem_nil (fun _ => rfl) left more
  next => rfl

/-- **Three rounds take all that there is:** the lines that have an end, the last one, and the rows
that were added. More rounds change nothing. -/
theorem takeGrowing_settles {start : Replay σ} (adds : AddsRows recording start) (more : Nat) :
    takeGrowing recording (more + 3) 0 start = takeGrowing recording 3 0 start := by
  by_cases void : (recording start.sink).drop 0 = []
  · rw [takeGrowing_of_void void, takeGrowing_of_void void]
  obtain ⟨chunk, behind, part⟩ := exists_chunk void
  have given : recording start.sink = chunk ++ behind := part.append_eq.symm
  rw [takeGrowing_step part, takeGrowing_step part]
  split
  next texts =>
    obtain ⟨rows, added⟩ := adds (lines chunk)
    have unread : (recording (start.takeLines (lines chunk)).2.sink).drop (0 + chunk.length) =
        behind ++ rowBytes rows := by
      rw [added, given, List.append_assoc, Nat.zero_add, List.drop_left]
    by_cases settled : rows = [] → behind = []
    · have often := takeGrowing_settled part.plain_behind settled unread (more + 1)
      exact often.trans (takeGrowing_settled part.plain_behind settled unread 1).symm
    · -- The last line stands alone, and its frame may add rows yet.
      obtain ⟨rfl, alone⟩ := Classical.not_imp.mp settled
      obtain ⟨rows, added⟩ := adds (lines chunk ++ lines behind)
      rw [takeLines_append, if_pos texts, given] at added
      have left : (recording ((start.takeLines (lines chunk)).2.takeLines
          (lines behind)).2.sink).drop (0 + chunk.length + behind.length) = rowBytes rows := by
        rw [added, Nat.zero_add, ← List.length_append, List.drop_left]
      rw [show rowBytes [] = [] from rfl, List.append_nil] at unread
      exact takeGrowing_alone part.plain_behind alone unread left more
  next => rfl

/-- **The rounds of a replay are enough,** if it adds nothing but rows to its recording. -/
theorem rounds_suffice {start : Replay σ} (adds : AddsRows recording start) (more : Nat) :
    takeGrowing recording (rounds + more) 0 start = takeGrowing recording rounds 0 start := by
  have some : rounds + more = more + 1 + 3 := by
    unfold rounds
    omega
  rw [some, takeGrowing_settles adds]
  exact (takeGrowing_settles adds 1).symm

end Replay

end MetricRelay
