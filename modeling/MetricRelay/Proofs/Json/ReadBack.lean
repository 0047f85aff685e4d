/-
**A value is read as it is written.**

A double may be read as another one than was written. What it is read as is a function here, and
the value that is read is the one that was written with this function on its doubles.

* `Json.tokens`: the words of a value;
* `Json.ReadsAs`: every double in a value is read as a function has it, and every whole number as it
  is written. For a whole number that is a matter of its size (`Json.int_readsAs`);
* `Json.reread`: a value with a function on its doubles;
* `Json.ReadsBack`: every double is read as it is written, too;
* `Json.scan_chars`: the compact text of such a value is scanned as its words;
* `Json.build_tokens`: the words of a value are put together to the value.

Main statements: `Json.parseChars?_chars`, `Json.parse?_compact`.
-/

import MetricRelay.Json.Parser
import MetricRelay.Proofs.Json.Scan

namespace MetricRelay.Json

mutual

/-- The words of a value. -/
def tokens : Json → List Token
  | array items => .beginArray :: (itemTokens items ++ [.endArray])
  | object members => .beginObject :: (memberTokens members ++ [.endObject])
  | text value => [.text (some value)]
  | leaf => [.leaf leaf]

/-- The words of the items of an array, with commas between them. -/
def itemTokens : List Json → List Token
  | [] => []
  | [item] => tokens item
  | item :: rest => tokens item ++ .comma :: itemTokens rest

/-- The words of the members of an object, with commas between them. -/
def memberTokens : List (String × Json) → List Token
  | [] => []
  | [(key, value)] => .text (some key) :: .colon :: tokens value
  | (key, value) :: rest =>
    .text (some key) :: .colon :: (tokens value ++ .comma :: memberTokens rest)

end

mutual

/-- The value with a function on its doubles. -/
def reread (f : Float → Float) : Json → Json
  | float value => float (f value)
  | array items => array (rereadItems f items)
  | object members => object (rereadMembers f members)
  | leaf => leaf

def rereadItems (f : Float → Float) : List Json → List Json
  | [] => []
  | item :: rest => item.reread f :: rereadItems f rest

def rereadMembers (f : Float → Float) : List (String × Json) → List (String × Json)
  | [] => []
  | (key, value) :: rest => (key, value.reread f) :: rereadMembers f rest

end

mutual

/-- Every double in the value is read as `f` has it, and every whole number as it is written. -/
def ReadsAs (f : Float → Float) : Json → Prop
  | null | bool _ | text _ => True
  | int value => (Numeral.parse? (Text.signedDigits value)).map Numeral.value = some (int value)
  | float value => (Numeral.parse? (floatChars value)).map Numeral.value = some (float (f value))
  | array items => ItemsReadAs f items
  | object members => MembersReadAs f members
  | faulty => False

def ItemsReadAs (f : Float → Float) : List Json → Prop
  | [] => True
  | item :: rest => item.ReadsAs f ∧ ItemsReadAs f rest

def MembersReadAs (f : Float → Float) : List (String × Json) → Prop
  | [] => True
  | (_, value) :: rest => value.ReadsAs f ∧ MembersReadAs f rest

end

/-- Every number in the value is read as it is written. -/
abbrev ReadsBack (value : Json) : Prop := value.ReadsAs id

abbrev MembersReadBack (members : List (String × Json)) : Prop := MembersReadAs id members

mutual

theorem reread_id : ∀ value : Json, value.reread id = value
  | .null | .bool _ | .int _ | .float _ | .text _ | .faulty => rfl
  | .array items => by rw [reread, rereadItems_id items]
  | .object members => by rw [reread, rereadMembers_id members]

theorem rereadItems_id : ∀ items : List Json, rereadItems id items = items
  | [] => rfl
  | item :: rest => by rw [rereadItems, reread_id item, rereadItems_id rest]

theorem rereadMembers_id : ∀ members : List (String × Json), rereadMembers id members = members
  | [] => rfl
  | (key, value) :: rest => by rw [rereadMembers, reread_id value, rereadMembers_id rest]

end

/-- A whole number that 64 bits hold is read as it is written. -/
theorem int_readsAs {f : Float → Float} {n : Int} (low : -9223372036854775808 ≤ n)
    (high : n ≤ 18446744073709551615) : (int n).ReadsAs f := by
  rw [ReadsAs]
  exact Numeral.parse?_signedDigits low high

/-! ### Scanning -/

section Scan

open Scanner

/-- A mark is one word. -/
theorem run?_mark {c : Char} {token : Token} (marks : start? c = some ([token], .between))
    (read : List Token) (rest : List Char) :
    run? .between read (c :: rest) = run? .between (token :: read) rest := by
  have stepped : step? .between c = some ([token], .between) := marks
  rw [run?, stepped]
  rfl

/-- What is scanned as some words, between two marks. -/
theorem run?_enclosed {opening closing : Char} {begins ends : Token}
    (opened : start? opening = some ([begins], .between))
    (closed : start? closing = some ([ends], .between)) {inside rest : List Char}
    {words read : List Token}
    (scanned : run? .between (begins :: read) (inside ++ closing :: rest) =
      run? .between (words.reverse ++ begins :: read) (closing :: rest)) :
    run? .between read (opening :: (inside ++ [closing]) ++ rest) =
      run? .between ((begins :: (words ++ [ends])).reverse ++ read) rest := by
  have front := run?_mark opened read (inside ++ closing :: rest)
  have back := run?_mark closed (words.reverse ++ begins :: read) rest
  rw [List.cons_append, List.append_assoc, List.singleton_append, front, scanned, back]
  simp only [List.reverse_cons, List.reverse_append, List.reverse_nil, List.append_assoc,
    List.cons_append, List.nil_append]

/-- A number that is read as it is written. -/
theorem scan_number {text : List Char} {value : Json}
    (reads : (Numeral.parse? text).map Numeral.value = some value) (read : List Token)
    {rest : List Char} (ends : Ends rest) :
    run? .between read (text ++ rest) = run? .between (.leaf value :: read) rest := by
  obtain ⟨numeral, parsed, rfl⟩ := Option.map_eq_some_iff.mp reads
  exact run?_number parsed read ends

variable {f : Float → Float}

mutual

/-- **The text of a value is scanned as its words.** -/
theorem scan_chars : ∀ value : Json, value.ReadsAs f → ∀ (read : List Token) (rest : List Char),
    Ends rest → run? .between read (value.chars ++ rest) =
      run? .between ((value.reread f).tokens.reverse ++ read) rest
  | .null, _, read, rest, ends => run?_name rfl rfl rfl read ends
  | .bool true, _, read, rest, ends => run?_name rfl rfl rfl read ends
  | .bool false, _, read, rest, ends => run?_name rfl rfl rfl read ends
  | .int value, reads, read, rest, ends => by
    rw [ReadsAs] at reads
    exact scan_number reads read ends
  | .float value, reads, read, rest, ends => by
    rw [ReadsAs] at reads
    exact scan_number reads read ends
  | .text value, _, read, rest, _ => by
    have quoted := run?_quoted read value.toList rest
    rw [String.ofList_toList] at quoted
    exact quoted
  | .array items, reads, read, rest, _ => by
    rw [ReadsAs] at reads
    rw [chars, reread, tokens]
    exact run?_enclosed rfl rfl (scan_items items reads _ (ends_cons (by decide) rest))
  | .object members, reads, read, rest, _ => by
    rw [ReadsAs] at reads
    rw [chars, reread, tokens]
    exact run?_enclosed rfl rfl (scan_members members reads _ (ends_cons (by decide) rest))
  | .faulty, reads, _, _, _ => by
    rw [ReadsAs] at reads
    exact reads.elim

/-- So are the items of an array, -/
theorem scan_items : ∀ items : List Json, ItemsReadAs f items → ∀ (read : List Token)
    {rest : List Char}, Ends rest → run? .between read (itemChars items ++ rest) =
      run? .between ((itemTokens (rereadItems f items)).reverse ++ read) rest
  | [], _, read, rest, _ => rfl
  | [item], reads, read, rest, ends => by
    rw [ItemsReadAs] at reads
    exact scan_chars item reads.1 read rest ends
  | item :: next :: others, reads, read, rest, ends => by
    rw [ItemsReadAs] at reads
    have first := scan_chars item reads.1 read (',' :: (itemChars (next :: others) ++ rest))
      (ends_cons (by decide) _)
    have later := scan_items (next :: others) reads.2
      (.comma :: ((item.reread f).tokens.reverse ++ read)) ends
    rw [rereadItems] at later ⊢
    rw [itemChars, rereadItems, itemTokens]
    · rw [List.append_assoc, List.cons_append, first, run?_mark (c := ',') rfl, later]
      simp only [List.reverse_append, List.reverse_cons, List.append_assoc, List.cons_append,
        List.nil_append]
    · simp
    · simp

/-- and the members of an object. -/
theorem scan_members : ∀ members : List (String × Json), MembersReadAs f members →
    ∀ (read : List Token) {rest : List Char}, Ends rest →
      run? .between read (memberChars members ++ rest) =
        run? .between ((memberTokens (rereadMembers f members)).reverse ++ read) rest
  | [], _, read, rest, _ => rfl
  | [(key, value)], reads, read, rest, ends => by
    rw [MembersReadAs] at reads
    rw [memberChars, rereadMembers, rereadMembers, memberTokens, List.append_assoc,
      List.cons_append, run?_quoted, run?_mark (c := ':') rfl,
      scan_chars value reads.1 _ rest ends, String.ofList_toList]
    simp only [List.reverse_cons, List.append_assoc, List.cons_append, List.nil_append]
  | (key, value) :: next :: others, reads, read, rest, ends => by
    rw [MembersReadAs] at reads
    have later := scan_members (next :: others) reads.2
      (.comma :: ((value.reread f).tokens.reverse ++ .colon :: .text (some key) :: read)) ends
    rw [rereadMembers] at later
    rw [memberChars, rereadMembers, rereadMembers, memberTokens]
    · simp only [List.append_assoc, List.cons_append]
      rw [run?_quoted, run?_mark (c := ':') rfl,
        scan_chars value reads.1 _ _ (ends_cons (by decide) _), run?_mark (c := ',') rfl,
        String.ofList_toList, later]
      simp only [List.reverse_append, List.reverse_cons, List.append_assoc, List.cons_append,
        List.nil_append]
    · simp
    · simp

end

end Scan

/-! ### Building -/

section Build

open Builder

/-- Keys that denote texts are kept. -/
theorem keyed?_some (members : List (String × Json)) :
    keyed? (members.map fun member => (some member.1, member.2)) = some members := by
  induction members with
  | nil => rfl
  | cons member rest ih => rw [List.map_cons, keyed?, ih, Option.map_some]

/-- Items do not begin like the end of an array. -/
theorem run?_atItem (item : Json) (items : List Json) (frames : List Frame) (after : List Token) :
    run? .atItem frames (itemTokens (item :: items) ++ after) =
      run? .atValue (.array [] :: frames) (itemTokens (item :: items) ++ after) := by
  have first (later : List Token) : run? .atItem frames (item.tokens ++ later) =
      run? .atValue (.array [] :: frames) (item.tokens ++ later) := by
    cases item <;> rfl
  cases items with
  | nil => exact first after
  | cons next items =>
    rw [itemTokens, List.append_assoc]
    · exact first _
    · simp

/-- The first key of an object is a key like every other. -/
theorem run?_atMember (member : String × Json) (members : List (String × Json))
    (frames : List Frame) (after : List Token) :
    run? .atMember frames (memberTokens (member :: members) ++ after) =
      run? (.atKey []) frames (memberTokens (member :: members) ++ after) := by
  cases members <;> rfl

/-- After the last item an array ends. -/
theorem run?_endArray (item : Json) (done : List Json) (frames : List Frame) (after : List Token) :
    run? (.afterValue item) (.array done :: frames) (.endArray :: after) =
      run? (.afterValue (.array (done.reverse ++ [item]))) frames after := by
  rw [← List.reverse_cons]
  rfl

/-- After the last member an object ends. -/
theorem run?_endObject (value : Json) (key : Option String) (done : List (Option String × Json))
    (frames : List Frame) (after : List Token) :
    run? (.afterValue value) (.object done key :: frames) (.endObject :: after) =
      run? (.afterValue (Builder.object (done.reverse ++ [(key, value)]))) frames after := by
  rw [← List.reverse_cons]
  rfl

mutual

/-- **The words of a value are put together to the value.** -/
theorem build_tokens : ∀ (value : Json) (frames : List Frame) (after : List Token),
    run? .atValue frames (value.tokens ++ after) = run? (.afterValue value) frames after
  | .null, _, _ | .bool _, _, _ | .int _, _, _ | .float _, _, _ | .text _, _, _
  | .faulty, _, _ => rfl
  | .array [], _, _ | .object [], _, _ => rfl
  | .array (item :: items), frames, after => by
    have inside := build_items (item :: items) (List.cons_ne_nil _ _) [] frames after
    rw [tokens, List.cons_append, List.append_assoc]
    show run? .atItem frames (itemTokens (item :: items) ++ .endArray :: after) = _
    rw [run?_atItem, inside, List.reverse_nil, List.nil_append]
  | .object (member :: members), frames, after => by
    have inside := build_members (member :: members) (List.cons_ne_nil _ _) [] frames after
    rw [tokens, List.cons_append, List.append_assoc]
    show run? .atMember frames (memberTokens (member :: members) ++ .endObject :: after) = _
    rw [run?_atMember, inside, List.reverse_nil, List.nil_append, Builder.object, keyed?_some]

/-- So are the items of an array, -/
theorem build_items : ∀ items : List Json, items ≠ [] → ∀ (done : List Json)
    (frames : List Frame) (after : List Token),
    run? .atValue (.array done :: frames) (itemTokens items ++ .endArray :: after) =
      run? (.afterValue (.array (done.reverse ++ items))) frames after
  | [], filled, _, _, _ => absurd rfl filled
  | [item], _, done, frames, after => by
    rw [itemTokens, build_tokens item, run?_endArray]
  | item :: next :: items, _, done, frames, after => by
    have later := build_items (next :: items) (List.cons_ne_nil _ _) (item :: done) frames after
    rw [List.reverse_cons, List.append_assoc] at later
    rw [itemTokens]
    · rw [List.append_assoc, List.cons_append, build_tokens item]
      exact later
    · simp

/-- and the members of an object. -/
theorem build_members : ∀ members : List (String × Json), members ≠ [] →
    ∀ (done : List (Option String × Json)) (frames : List Frame) (after : List Token),
    run? (.atKey done) frames (memberTokens members ++ .endObject :: after) =
      run? (.afterValue (Builder.object (done.reverse ++
        members.map fun member => (some member.1, member.2)))) frames after
  | [], filled, _, _, _ => absurd rfl filled
  | [(key, value)], _, done, frames, after => by
    rw [memberTokens]
    show run? .atValue (.object done (some key) :: frames) (value.tokens ++ .endObject :: after) = _
    rw [build_tokens value, run?_endObject]
    rfl
  | (key, value) :: next :: members, _, done, frames, after => by
    have later := build_members (next :: members) (List.cons_ne_nil _ _) ((some key, value) :: done)
      frames after
    rw [List.reverse_cons, List.append_assoc] at later
    rw [memberTokens]
    · show run? .atValue (.object done (some key) :: frames)
        ((value.tokens ++ .comma :: memberTokens (next :: members)) ++ .endObject :: after) = _
      rw [List.append_assoc, List.cons_append, build_tokens value]
      exact later
    · simp

end

end Build

/-- The text that is scanned as the words of a value is read as that value. -/
theorem parseChars?_of_scan {text : List Char} {value : Json}
    (scanned : Scanner.run? .between [] text = Scanner.run? .between value.tokens.reverse []) :
    parseChars? text = some value := by
  have words : Token.scan? text = some value.tokens := by
    rw [Token.scan?, scanned, Scanner.run?, Scanner.finish?, Option.map_some, List.append_nil,
      List.reverse_reverse]
  have built := build_tokens value [] []
  rw [List.append_nil] at built
  unfold parseChars?
  rw [words]
  exact built

/-- **A value is read as it is written, but for its doubles.** -/
theorem parseChars?_chars {f : Float → Float} {value : Json} (reads : value.ReadsAs f) :
    parseChars? value.chars = some (value.reread f) := by
  have scanned := scan_chars value reads [] [] Scanner.ends_nil
  rw [List.append_nil, List.append_nil] at scanned
  exact parseChars?_of_scan scanned

/-- **A value is read as it is written.** -/
theorem parse?_compact {value : Json} (reads : value.ReadsBack) :
    parse? value.compact = some value := by
  unfold parse? compact
  rw [String.toList_ofList, parseChars?_chars reads, reread_id]

end MetricRelay.Json
