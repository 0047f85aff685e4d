/-
**How a value is laid out does not matter.**

A value is read alike from its compact text and from the one with a line for each item and member,
with or without blanks behind it.

* `Scanner.run?_blanks`: blanks between words are no words;
* `Json.scan_pretty`: the text with a line for each part is scanned as the words of the value;
* `Json.Prints`: the texts that a value is printed as.

Main statement: `Json.parse?_of_prints`.
-/

import MetricRelay.Proofs.Json.ReadBack

namespace MetricRelay.Json

namespace Scanner

theorem run?_blank {c : Char} (blank : isBlank c = true) (read : List Token) (rest : List Char) :
    run? .between read (c :: rest) = run? .between read rest := by
  have skipped : step? .between c = some ([], .between) := if_pos blank
  rw [run?, skipped]
  rfl

/-- **Blanks between words are no words.** -/
theorem run?_blanks {blanks : List Char} (blank : ∀ c ∈ blanks, isBlank c = true)
    (read : List Token) (rest : List Char) :
    run? .between read (blanks ++ rest) = run? .between read rest := by
  induction blanks with
  | nil => rfl
  | cons c blanks ih =>
    rw [List.forall_mem_cons] at blank
    rw [List.cons_append, run?_blank blank.1]
    exact ih blank.2

theorem isBlank_of_lineStart (depth : Nat) : ∀ c ∈ lineStart depth, isBlank c = true := by
  intro c member
  rcases List.mem_cons.mp member with rfl | member
  · rfl
  · rw [List.eq_of_mem_replicate member]
    rfl

theorem ends_lineStart (depth : Nat) (rest : List Char) : Ends (lineStart depth ++ rest) :=
  ends_cons (by decide) _

/-- A value may be followed by blanks. -/
theorem ends_of_blanks {blanks : List Char} (blank : ∀ c ∈ blanks, isBlank c = true) :
    Ends blanks := by
  intro c first
  have isBlank := blank c (List.mem_of_mem_head? first)
  simp only [Scanner.isBlank, Bool.or_eq_true, beq_iff_eq] at isBlank
  rcases isBlank with ((rfl | rfl) | rfl) | rfl <;> decide

end Scanner

open Scanner

variable {f : Float → Float}

mutual

/-- **The text of a value with a line for each part is scanned as its words.** -/
theorem scan_pretty : ∀ (value : Json) (depth : Nat), value.ReadsAs f →
    ∀ (read : List Token) (rest : List Char), Ends rest →
      run? .between read (value.prettyChars depth ++ rest) =
        run? .between ((value.reread f).tokens.reverse ++ read) rest
  -- What has no parts is laid out in one way only.
  | .null, _, reads, read, rest, ends => scan_chars .null reads read rest ends
  | .bool value, _, reads, read, rest, ends => scan_chars (.bool value) reads read rest ends
  | .int value, _, reads, read, rest, ends => scan_chars (.int value) reads read rest ends
  | .float value, _, reads, read, rest, ends => scan_chars (.float value) reads read rest ends
  | .text value, _, reads, read, rest, ends => scan_chars (.text value) reads read rest ends
  | .faulty, _, reads, read, rest, ends => scan_chars .faulty reads read rest ends
  | .array [], _, reads, read, rest, ends => scan_chars (.array []) reads read rest ends
  | .object [], _, reads, read, rest, ends => scan_chars (.object []) reads read rest ends
  | .array (item :: items), depth, reads, read, rest, _ => by
    rw [ReadsAs] at reads
    rw [prettyChars, reread, tokens]
    · refine run?_enclosed rfl rfl ?_
      rw [List.append_assoc,
        scan_prettyItems (item :: items) (depth + 1) reads _ (ends_lineStart depth _),
        run?_blanks (isBlank_of_lineStart depth)]
    · simp
  | .object (member :: members), depth, reads, read, rest, _ => by
    rw [ReadsAs] at reads
    rw [prettyChars, reread, tokens]
    · refine run?_enclosed rfl rfl ?_
      rw [List.append_assoc,
        scan_prettyMembers (member :: members) (depth + 1) reads _ (ends_lineStart depth _),
        run?_blanks (isBlank_of_lineStart depth)]
    · simp

/-- So are the items of an array, -/
theorem scan_prettyItems : ∀ (items : List Json) (depth : Nat), ItemsReadAs f items →
    ∀ (read : List Token) {rest : List Char}, Ends rest →
      run? .between read (prettyItems depth items ++ rest) =
        run? .between ((itemTokens (rereadItems f items)).reverse ++ read) rest
  | [], _, _, read, rest, _ => rfl
  | [item], depth, reads, read, rest, ends => by
    rw [ItemsReadAs] at reads
    rw [prettyItems, List.append_assoc, run?_blanks (isBlank_of_lineStart depth)]
    exact scan_pretty item depth reads.1 read rest ends
  | item :: next :: others, depth, reads, read, rest, ends => by
    rw [ItemsReadAs] at reads
    have later := scan_prettyItems (next :: others) depth reads.2
      (.comma :: ((item.reread f).tokens.reverse ++ read)) ends
    rw [rereadItems] at later ⊢
    rw [prettyItems, rereadItems, itemTokens]
    · simp only [List.append_assoc, List.cons_append]
      rw [run?_blanks (isBlank_of_lineStart depth),
        scan_pretty item depth reads.1 read _ (ends_cons (by decide) _), run?_mark (c := ',') rfl,
        later]
      simp only [List.reverse_append, List.reverse_cons, List.append_assoc, List.cons_append,
        List.nil_append]
    · simp
    · simp

/-- and the members of an object. -/
theorem scan_prettyMembers : ∀ (members : List (String × Json)) (depth : Nat),
    MembersReadAs f members → ∀ (read : List Token) {rest : List Char}, Ends rest →
      run? .between read (prettyMembers depth members ++ rest) =
        run? .between ((memberTokens (rereadMembers f members)).reverse ++ read) rest
  | [], _, _, read, rest, _ => rfl
  | [(key, value)], depth, reads, read, rest, ends => by
    rw [MembersReadAs] at reads
    rw [prettyMembers, rereadMembers, rereadMembers, memberTokens]
    simp only [List.append_assoc, List.cons_append]
    rw [run?_blanks (isBlank_of_lineStart depth), run?_quoted, run?_mark (c := ':') rfl,
      run?_blank (c := ' ') rfl, scan_pretty value depth reads.1 _ rest ends, String.ofList_toList]
    simp only [List.reverse_cons, List.append_assoc, List.cons_append, List.nil_append]
  | (key, value) :: next :: others, depth, reads, read, rest, ends => by
    rw [MembersReadAs] at reads
    have later := scan_prettyMembers (next :: others) depth reads.2
      (.comma :: ((value.reread f).tokens.reverse ++ .colon :: .text (some key) :: read)) ends
    rw [rereadMembers] at later
    rw [prettyMembers, rereadMembers, rereadMembers, memberTokens]
    · simp only [List.append_assoc, List.cons_append]
      rw [run?_blanks (isBlank_of_lineStart depth), run?_quoted, run?_mark (c := ':') rfl,
        run?_blank (c := ' ') rfl,
        scan_pretty value depth reads.1 _ _ (ends_cons (by decide) _), run?_mark (c := ',') rfl,
        String.ofList_toList, later]
      simp only [List.reverse_append, List.reverse_cons, List.append_assoc, List.cons_append,
        List.nil_append]
    · simp
    · simp

end

/-- The texts that a value is printed as: in one line or in several, and blanks behind it. -/
def Prints (value : Json) (text : String) : Prop :=
  ∃ blanks : String, (∀ c ∈ blanks.toList, isBlank c = true) ∧
    (text = value.compact ++ blanks ∨ text = value.pretty ++ blanks)

/-- **A value is read from every text that it is printed as.** -/
theorem parse?_of_prints {value : Json} {text : String} (reads : value.ReadsBack)
    (prints : value.Prints text) : parse? text = some value := by
  obtain ⟨blanks, blank, printed⟩ := prints
  have ends := ends_of_blanks blank
  have behind := run?_blanks blank (value.tokens.reverse ++ []) []
  rw [List.append_nil blanks.toList] at behind
  unfold parse?
  refine parseChars?_of_scan ?_
  rcases printed with rfl | rfl
  · rw [compact, String.toList_append, String.toList_ofList,
      scan_chars value reads [] blanks.toList ends, reread_id, behind, List.append_nil]
  · rw [pretty, String.toList_append, String.toList_ofList,
      scan_pretty value 0 reads [] blanks.toList ends, reread_id, behind, List.append_nil]

end MetricRelay.Json
