/-
**The host member of a row names who wrote it.**

A host tag can be taken apart again, since no executor id holds the underscore that joins it to the
host name. So can the end of a line, whatever the values before it are:

* `Json.escaped_guards`: in an escaped text every quote stands behind a backslash, so a quote
  behind a colon begins a text and is not inside of one;
* `Row.host_of_line_eq`: rows with the same line have the same host, also where their values cannot
  be read back;
* `StreamKey.Writes`: a reporter opens its sink for the stream and hands over the line. The host of
  the row is the tag of the stream then, and the executor of the stream is an accepted one
  (`StreamKey.Writes.row`).

Main statement: `StreamKey.host_names_writer`.
-/

import MetricRelay.Proofs.Report.Isolation
import MetricRelay.Proofs.Row.ReadBack
import MetricRelay.Proofs.Stream.Names

namespace MetricRelay

/-! ### The end of a line -/

namespace Json

/-- Texts that are quoted alike are equal. -/
theorem quoted_injective {text other : List Char} (same : quoted text = quoted other) :
    text = other := by
  have read (text : List Char) : Scanner.run? .between [] (quoted text) =
      some [.text (some (String.ofList text))] := by
    have scanned := Scanner.run?_quoted [] text []
    rw [List.append_nil] at scanned
    rw [scanned]
    rfl
  have tokens := (read text).symm.trans ((congrArg _ same).trans (read other))
  simp only [Option.some.injEq, List.cons.injEq, Token.text.injEq, and_true] at tokens
  exact String.ofList_injective tokens

/-- What a character is escaped as: a mark behind a backslash, its code behind one, or itself. -/
theorem escape_cases (c : Char) :
    (∃ mark, escape c = ['\\', mark]) ∨
      (∃ high low, escape c = ['\\', 'u', '0', '0', high, low] ∧ high ≠ '"' ∧ low ≠ '"') ∨
      (escape c = [c] ∧ c ≠ '"') := by
  have hex : ∀ digit < 16, hexDigit digit ≠ '"' := by decide
  by_cases short : c ∈ ['"', '\\', '\x08', '\t', '\n', '\x0c', '\r']
  · simp only [List.mem_cons, List.not_mem_nil, or_false] at short
    rcases short with rfl | rfl | rfl | rfl | rfl | rfl | rfl <;> exact .inl ⟨_, rfl⟩
  · simp only [List.mem_cons, List.not_mem_nil, or_false, not_or] at short
    obtain ⟨quote, backslash, backspace, tab, newline, page, carriage⟩ := short
    unfold escape
    rw [if_neg quote, if_neg backslash, if_neg backspace, if_neg tab, if_neg newline, if_neg page,
      if_neg carriage]
    by_cases control : c.toNat < 0x20
    · rw [if_pos control]
      exact .inr (.inl ⟨_, _, rfl, hex _ (by omega), hex _ (by omega)⟩)
    · rw [if_neg control]
      exact .inr (.inr ⟨rfl, quote⟩)

/-- If the second character is a quote, the first is a backslash. -/
def Guards (before after : Char) : Prop :=
  after = '"' → before = '\\'

theorem Guards.of_ne {after : Char} (other : after ≠ '"') (before : Char) : Guards before after :=
  fun quote => absurd quote other

/-- **In an escaped text every quote stands behind a backslash,** whatever is in front of the
text. -/
theorem escaped_guards (before : Char) (text : List Char) :
    (before :: text.flatMap escape).IsChain Guards := by
  induction text generalizing before with
  | nil => exact .singleton before
  | cons c text ih =>
    rw [List.flatMap_cons]
    have slash (before : Char) : Guards before '\\' := .of_ne (by decide) before
    rcases escape_cases c with ⟨mark, escaped⟩ | ⟨high, low, escaped, highOther, lowOther⟩ |
      ⟨escaped, other⟩
    · rw [escaped]
      exact .cons_cons (slash before) (.cons_cons (fun _ => rfl) (ih mark))
    · rw [escaped]
      refine .cons_cons (slash before) (.cons_cons (.of_ne (by decide) _)
        (.cons_cons (.of_ne (by decide) _) (.cons_cons (.of_ne (by decide) _) ?_)))
      exact .cons_cons (.of_ne highOther _) (.cons_cons (.of_ne lowOther _) (ih low))
    · rw [escaped]
      exact .cons_cons (.of_ne other before) (ih c)

/-- **A text that is quoted at the end of a value, behind a colon, begins at the last quote behind
a colon.** -/
theorem eq_of_quoted_end {front otherFront text other : List Char}
    (same : front ++ ':' :: quoted text = otherFront ++ ':' :: quoted other) : text = other := by
  -- Without the quotes at their ends both sides have one last quote behind a colon.
  have opened : front ++ ':' :: '"' :: text.flatMap escape =
      otherFront ++ ':' :: '"' :: other.flatMap escape := by
    unfold quoted at same
    simpa only [← List.cons_append, ← List.append_assoc, List.append_cancel_right_eq] using same
  have last {text other between : List Char}
      (longer : ':' :: '"' :: text.flatMap escape =
        between ++ ':' :: '"' :: other.flatMap escape) : text = other := by
    rcases between with _ | ⟨colon, _ | ⟨quote, between⟩⟩
    · apply quoted_injective
      unfold quoted
      rw [(List.cons.inj (List.cons.inj longer).2).2]
    · cases (List.cons.inj (List.cons.inj longer).2).1
    · have inside : text.flatMap escape = between ++ ':' :: '"' :: other.flatMap escape :=
        (List.cons.inj (List.cons.inj longer).2).2
      have guards := escaped_guards '"' text
      rw [inside, ← List.cons_append] at guards
      cases List.isChain_iff_forall_rel_of_append_cons_cons.mp guards rfl rfl
  rcases List.append_eq_append_iff.mp opened with ⟨between, _, longer⟩ | ⟨between, _, longer⟩
  · exact last longer
  · exact (last longer).symm

end Json

/-- **Rows with the same line have the same host.** -/
theorem Row.host_of_line_eq {row other : Row} (same : row.line = other.line) :
    row.host = other.host := by
  have ends (row : Row) : ∃ front, row.line.toList =
      front ++ ':' :: Json.quoted row.host.text.toList ++ ['}'] := by
    unfold Row.line Row.toJson Json.compact
    rw [String.toList_ofList]
    simp only [Json.chars, Json.memberChars, Json.leafChars]
    refine ⟨'{' :: (Json.quoted "timestamp".toList ++ ':' :: Text.signedDigits row.timestamp ++
      ',' :: (Json.quoted "values".toList ++ ':' :: (row.values.toJson Measure.toJson).chars ++
        ',' :: Json.quoted "host".toList)), ?_⟩
    simp only [List.cons_append, List.append_assoc]
  obtain ⟨front, line⟩ := ends row
  obtain ⟨otherFront, otherLine⟩ := ends other
  rw [same, otherLine, List.append_cancel_right_eq] at line
  have texts := String.toList_injective (Json.eq_of_quoted_end line)
  exact congrArg HostTag.mk texts.symm

/-! ### Who wrote a line -/

namespace StreamKey

/-- A reporter serves some requests, opens its sink for the stream and hands over the line, whether
the sink takes it or not. -/
def Writes (stream : StreamKey) (line : String) : Prop :=
  ∃ (σ : Type) (_ : Sink σ) (sink : σ) (hostname : String) (syncEvery : Nat) (filter : Filter)
    (mode : ValueMode) (units : Units) (requests : List Request),
    let reporter := (Reporter.logged sink hostname syncEvery filter mode units).live requests
    (.opened stream, true) ∈ reporter.batcher.sink.trace ∧
      line ∈ reporter.batcher.sink.handed.map Prod.fst

/-- **A line that is written for a stream** is that of a row with the tag of its host name and its
executor, which is an accepted one. -/
theorem Writes.row {stream : StreamKey} {line : String} (writes : stream.Writes line) :
    ∃ row : Row, line = row.line ∧ row.host = HostTag.of stream.hostname stream.executor ∧
      ∃ text, ExecutorId.parse? text = some stream.executor := by
  obtain ⟨σ, _, sink, hostname, syncEvery, filter, mode, units, requests, opened, lines⟩ := writes
  obtain ⟨handed, member, rfl⟩ := List.mem_map.mp lines
  let reporter := Reporter.logged sink hostname syncEvery filter mode units
  rw [Reporter.logged_live] at opened member
  obtain ⟨block, blockMem, row, known, line⟩ :=
    (Batcher.run_gathers sink hostname syncEvery (reporter.asked requests)).block_of_handed member
  obtain ⟨adopted, adopts⟩ := Batcher.run_adopts sink hostname syncEvery (reporter.asked requests)
  obtain ⟨first, firstMem, rfl⟩ := Offered.row?_eq_some known
  have taken : first ∈ (Batcher.logged sink hostname syncEvery).taken (reporter.asked requests) :=
    Offered.mem_of_mem_blocks blockMem firstMem
  have same := ((adopts.opened stream).mp opened).symm.trans (adopts.own first taken)
  obtain ⟨_, _, _, metric, _, _, routed, _⟩ := Reporter.shows_of_taken taken
  obtain ⟨_, text, _, _, _, parsed, _⟩ := Route.ofName?_eq_some_iff.mp routed
  rw [Option.some.inj same]
  exact ⟨_, line, rfl, text, parsed⟩

/-- **The host member of a row names who wrote it.**

* For any two host names and any two executor ids that are accepted, the tags are the same exactly
  if the host names are the same and the executor ids are spelled alike.
* Of two rows that are written, by whatever reporters, for whatever requests and over whatever
  sinks, the hosts are the same exactly if the streams have the same host name and the same
  executor. -/
theorem host_names_writer :
    (∀ (hostname otherHostname text otherText : String) (executor otherExecutor : ExecutorId),
      ExecutorId.parse? text = some executor → ExecutorId.parse? otherText = some otherExecutor →
      (HostTag.of hostname executor = HostTag.of otherHostname otherExecutor ↔
        hostname = otherHostname ∧ text = otherText)) ∧
    ∀ (stream other : StreamKey) (row otherRow : Row),
      stream.Writes row.line → other.Writes otherRow.line →
      (row.host = otherRow.host ↔
        stream.hostname = other.hostname ∧ stream.executor = other.executor) := by
  refine ⟨?_, fun stream other row otherRow writes otherWrites => ?_⟩
  · intro hostname otherHostname text otherText executor otherExecutor parsed otherParsed
    obtain ⟨spelled, _⟩ := ExecutorId.parse?_eq_some_iff.mp parsed
    obtain ⟨otherSpelled, _⟩ := ExecutorId.parse?_eq_some_iff.mp otherParsed
    constructor
    · intro same
      obtain ⟨hostnames, executors⟩ := HostTag.of_injective parsed otherParsed same
      rw [spelled, otherSpelled] at executors
      exact ⟨hostnames, ExecutorId.mk.inj executors⟩
    · rintro ⟨rfl, rfl⟩
      rw [spelled, otherSpelled]
  · obtain ⟨written, line, host, text, parsed⟩ := writes.row
    obtain ⟨otherWritten, otherLine, otherHost, otherText, otherParsed⟩ := otherWrites.row
    rw [Row.host_of_line_eq line, Row.host_of_line_eq otherLine, host, otherHost]
    constructor
    · exact HostTag.of_injective parsed otherParsed
    · rintro ⟨hostnames, executors⟩
      rw [hostnames, executors]

/-- A report of a count of jobs, by an executor as it is spelled. -/
def jobsReport (executor : String) : Request :=
  .report ⟨1000⟩ { counters :=
    ⟨[("app-1." ++ executor ++ ".pool.jobs", ⟨4⟩)], List.pairwise_singleton _ _⟩ }

/-- Two executors on a host with an underscore, which differ in a plus only. -/
theorem plus_tells_writers_apart :
    let row (tag : String) : Row := ⟨1, .leaf "jobs" (.scalar (.integer 4)) .nil, ⟨tag⟩⟩
    let plain := StreamKey.of ⟨"app-1"⟩ ⟨"7"⟩ "host_1"
    let marked := StreamKey.of ⟨"app-1"⟩ ⟨"+7"⟩ "host_1"
    plain.Writes (row "host_1_7").line ∧ marked.Writes (row "host_1_+7").line ∧
      (row "host_1_7").host ≠ (row "host_1_+7").host := by
  intro row plain marked
  have writes : plain.Writes (row "host_1_7").line :=
    ⟨Recorder, inferInstance, {}, "host_1", 20, .everything, .primary, {},
      [jobsReport "7", .stop], by decide +kernel, by decide +kernel⟩
  have otherWrites : marked.Writes (row "host_1_+7").line :=
    ⟨Recorder, inferInstance, {}, "host_1", 20, .everything, .primary, {},
      [jobsReport "+7", .stop], by decide +kernel, by decide +kernel⟩
  have named := host_names_writer.2 plain marked _ _ writes otherWrites
  exact ⟨writes, otherWrites, fun same => absurd (named.mp same).2 (by decide)⟩

end StreamKey

end MetricRelay
