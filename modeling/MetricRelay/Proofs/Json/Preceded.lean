/-
**A written object with something before it.**

The text of an object may have anything before it, as long as the object does not go on in a quoted
text that was begun there. If the whole is read at all, nothing but the object is read: what is
before it cannot be a word of its own, and a container that was begun there is never closed.

The object is not read as it was written, since its numbers may be read as others. But it has the
same keys.

* `Json.Spelled`: what is spelled like a number, as all numbers are that are written; a scanner
  takes it for a numeral, if it reads it at all (`Json.Scanner.run?_spelled`);
* `Json.scan_like`: the text of a value is scanned as the words of a value with the same keys, if it
  is scanned at all;
* `Json.Builder.run?_object`: the words of an object at the end are read as that object.

Main statement: `Json.keys?_of_preceded`.
-/

import MetricRelay.Proofs.Json.ReadBack

namespace MetricRelay.Json

/-! ### Numbers -/

/-- The text begins like a number and consists of what numbers consist of. -/
def Spelled (text : List Char) : Prop :=
  ∃ c others, text = c :: others ∧ (c.isDigit = true ∨ c = '-') ∧
    ∀ d ∈ others, Scanner.isNumeric d = true

namespace Spelled

theorem of_digits {text : List Char} (full : text ≠ []) (digits : ∀ c ∈ text, c.isDigit = true) :
    Spelled text := by
  cases text with
  | nil => exact absurd rfl full
  | cons c others =>
    rw [List.forall_mem_cons] at digits
    exact ⟨c, others, rfl, .inl digits.1,
      fun d member => Numeral.isNumeric_of_isDigit (digits.2 d member)⟩

theorem numeric {text : List Char} (spelled : Spelled text) :
    ∀ c ∈ text, Scanner.isNumeric c = true := by
  obtain ⟨c, others, rfl, digit | rfl, numeric⟩ := spelled
  · exact List.forall_mem_cons.mpr ⟨Numeral.isNumeric_of_isDigit digit, numeric⟩
  · exact List.forall_mem_cons.mpr ⟨by decide, numeric⟩

theorem append {text more : List Char} (spelled : Spelled text)
    (numeric : ∀ c ∈ more, Scanner.isNumeric c = true) : Spelled (text ++ more) := by
  obtain ⟨c, others, rfl, begins, inside⟩ := spelled
  exact ⟨c, others ++ more, rfl, begins, List.forall_mem_append.mpr ⟨inside, numeric⟩⟩

/-- A minus may stand before digits. -/
theorem signed {digits : List Char} (numeric : ∀ c ∈ digits, Scanner.isNumeric c = true) :
    Spelled ('-' :: digits) :=
  ⟨'-', digits, rfl, .inr rfl, numeric⟩

end Spelled

theorem digits_ne_nil (n : Nat) : Text.digits n ≠ [] := by
  obtain ⟨c, rest, begins, _⟩ := Text.head?_digits n
  rw [begins]
  exact List.cons_ne_nil c rest

theorem digits_spelled (n : Nat) : Spelled (Text.digits n) :=
  .of_digits (digits_ne_nil n) (Text.isDigit_digits n)

theorem signedDigits_spelled (n : Int) : Spelled (Text.signedDigits n) := by
  cases n with
  | ofNat n => exact digits_spelled n
  | negSucc n => exact .signed (digits_spelled (n + 1)).numeric

/-- What stands behind a whole number. -/
theorem wholeEnd_numeric : ∀ c ∈ layout.wholeEnd, Scanner.isNumeric c = true :=
  List.all_eq_true.mp (by decide)

section Layout

variable {digits : List Char} (full : digits ≠ []) (proper : ∀ c ∈ digits, c.isDigit = true)

include full proper

theorem positional_spelled (power : Int) : Spelled (layout.positional digits power) := by
  have numeric := (Spelled.of_digits full proper).numeric
  have zeros (n : Nat) : ∀ c ∈ List.replicate n '0', Scanner.isNumeric c = true :=
    fun c member => by rw [List.eq_of_mem_replicate member]; decide
  unfold Decimal.Layout.positional
  by_cases small : power < 0
  · rw [if_pos small]
    refine ⟨'0', _, rfl, .inl (by decide), List.forall_mem_cons.mpr ⟨by decide, ?_⟩⟩
    exact List.forall_mem_append.mpr ⟨zeros _, numeric⟩
  · rw [if_neg small]
    simp only
    by_cases short : digits.length ≤ power.toNat + 1
    · rw [if_pos short]
      exact ((Spelled.of_digits full proper).append (zeros _)).append wholeEnd_numeric
    · rw [if_neg short]
      refine Spelled.append (.of_digits ?_ fun c member => proper c (List.mem_of_mem_take member))
        (List.forall_mem_cons.mpr ⟨by decide, fun c member => ?_⟩)
      · rw [ne_eq, List.take_eq_nil_iff]
        exact not_or.mpr ⟨by omega, full⟩
      · exact numeric c (List.mem_of_mem_drop member)

theorem scientific_spelled (power : Int) : Spelled (layout.scientific digits power) := by
  have numeric := (Spelled.of_digits full proper).numeric
  have first : Spelled (digits.take 1) :=
    .of_digits (by rw [ne_eq, List.take_eq_nil_iff]; exact not_or.mpr ⟨by decide, full⟩)
      fun c member => proper c (List.mem_of_mem_take member)
  have number : Spelled (if (digits.drop 1).isEmpty then digits.take 1
      else digits.take 1 ++ '.' :: digits.drop 1) := by
    split
    · exact first
    · exact first.append (List.forall_mem_cons.mpr
        ⟨by decide, fun c member => numeric c (List.mem_of_mem_drop member)⟩)
  have sign : ∀ c ∈ (if power < 0 then [] else layout.plus), Scanner.isNumeric c = true := by
    split
    · exact List.forall_mem_nil _
    · exact List.all_eq_true.mp (by decide)
  unfold Decimal.Layout.scientific
  exact (number.append (List.forall_mem_cons.mpr ⟨by decide, sign⟩)).append
    (signedDigits_spelled power).numeric

end Layout

theorem write_spelled (parts : Decimal.Parts) : Spelled (layout.write parts) := by
  have signed {text : List Char} (spelled : Spelled text) :
      Spelled ((if parts.negative then ['-'] else []) ++ text) := by
    split
    · exact .signed spelled.numeric
    · exact spelled
  unfold Decimal.Layout.write
  cases parts.size with
  | none => exact signed ⟨'0', _, rfl, .inl (by decide), wholeEnd_numeric⟩
  | some size =>
    refine signed ?_
    unfold Decimal.Layout.writePositive
    simp only
    split
    · exact positional_spelled (digits_ne_nil _) (Text.isDigit_digits _) _
    · exact scientific_spelled (digits_ne_nil _) (Text.isDigit_digits _) _

/-! ### Scanning -/

namespace Scanner

/-- Reading goes through every part of a text. -/
theorem exists_run?_of_append {front back : List Char} {scanner : Scanner}
    {read words : List Token} (scanned : run? scanner read (front ++ back) = some words) :
    ∃ next held, run? next held back = some words := by
  induction front generalizing scanner read with
  | nil => exact ⟨scanner, read, scanned⟩
  | cons c front ih =>
    rw [List.cons_append, run?] at scanned
    cases stepped : step? scanner c with
    | none =>
      rw [stepped] at scanned
      cases scanned
    | some result =>
      rw [stepped] at scanned
      exact ih scanned

/-- The words that were read stay the first ones. -/
theorem exists_append_of_run? {text : List Char} {scanner : Scanner} {read words : List Token}
    (scanned : run? scanner read text = some words) : ∃ more, words = read.reverse ++ more := by
  induction text generalizing scanner read with
  | nil =>
    obtain ⟨last, _, rfl⟩ := Option.map_eq_some_iff.mp scanned
    exact ⟨last, rfl⟩
  | cons c text ih =>
    rw [run?] at scanned
    cases stepped : step? scanner c with
    | none =>
      rw [stepped] at scanned
      cases scanned
    | some result =>
      rw [stepped] at scanned
      obtain ⟨more, rfl⟩ := ih scanned
      exact ⟨result.1 ++ more, by rw [List.reverse_append, List.reverse_reverse, List.append_assoc]⟩

/-- **What is spelled like a number is a numeral,** if it is read. -/
theorem run?_spelled {text rest : List Char} (spelled : Spelled text) (ends : Ends rest)
    {read words : List Token} (scanned : run? .between read (text ++ rest) = some words) :
    ∃ numeral : Numeral, run? .between (.leaf numeral.value :: read) rest = some words := by
  cases parsed : Numeral.parse? text with
  | some numeral => exact ⟨numeral, by rw [← run?_number parsed read ends]; exact scanned⟩
  | none =>
    obtain ⟨c, others, rfl, begins, numeric⟩ := spelled
    have goesOn (held : List Char) (d : Char) (numeric : isNumeric d = true) :
        step? (.number held) d = some ([], .number (d :: held)) := if_pos numeric
    have stepped : step? .between c = some ([], .number [c]) := start?_numeral begins
    have incomplete : finish? (.number (others.reverse ++ [c])) = none := by
      simp [finish?, parsed]
    rw [List.cons_append, run?, stepped] at scanned
    simp only [List.reverse_nil, List.nil_append] at scanned
    rw [run?_held goesOn [c] read numeric] at scanned
    cases rest with
    | nil =>
      rw [run?, incomplete] at scanned
      cases scanned
    | cons d rest =>
      have stuck : step? (.number (others.reverse ++ [c])) d = none := by
        have mark := ends d rfl
        have other : isNumeric d = false := by
          simp only [enders, List.mem_cons, List.not_mem_nil, or_false] at mark
          rcases mark with rfl | rfl | rfl | rfl | rfl | rfl | rfl | rfl <;> decide
        simp only [step?, other, incomplete, Bool.false_eq_true, if_false]
        rfl
      rw [run?, stuck] at scanned
      cases scanned

/-- A number or a name is being read. -/
def InWord : Scanner → Prop
  | number _ | name _ => True
  | between | text _ | escape _ | unit .. => False

/-- Where an object begins in a number or a name, that word is read first. -/
theorem exists_of_run?_brace {scanner : Scanner} {held words : List Token} {rest : List Char}
    (scanned : run? scanner held ('\x7b' :: rest) = some words) (inside : scanner.InWord) :
    ∃ leaf more, words = held.reverse ++ .leaf leaf :: .beginObject :: more := by
  have ends : step? scanner '\x7b' =
      (finish? scanner).map fun word => (word ++ [.beginObject], .between) := by
    cases scanner with
    | number read =>
      show (finish? (.number read)).bind _ = _
      cases finish? (.number read) <;> rfl
    | name read =>
      show (finish? (.name read)).bind _ = _
      cases finish? (.name read) <;> rfl
    | between | text | escape | unit => exact inside.elim
  have single {word : List Token} (finished : finish? scanner = some word) :
      ∃ leaf, word = [.leaf leaf] := by
    cases scanner with
    | number read | name read =>
      obtain ⟨_, _, rfl⟩ := Option.map_eq_some_iff.mp finished
      exact ⟨_, rfl⟩
    | between | text | escape | unit => exact inside.elim
  rw [run?, ends] at scanned
  cases finished : finish? scanner with
  | none =>
    rw [finished] at scanned
    cases scanned
  | some word =>
    obtain ⟨leaf, rfl⟩ := single finished
    rw [finished] at scanned
    obtain ⟨more, rfl⟩ := exists_append_of_run? scanned
    exact ⟨leaf, more, by simp⟩

end Scanner

/-- The keys of an object. -/
def keys? : Json → Option (List String)
  | object members => some (members.map Prod.fst)
  | _ => none

theorem exists_members_of_keys? {value : Json} {keys : List String}
    (known : value.keys? = some keys) : ∃ members, value = object members := by
  cases value with
  | object members => exact ⟨members, rfl⟩
  | null | bool _ | int _ | float _ | text _ | array _ | faulty => cases known

theorem tokens_value (numeral : Numeral) :
    numeral.value.tokens = [.leaf numeral.value] ∧ numeral.value.keys? = none := by
  unfold Numeral.value
  cases numeral.int? with
  | some n => exact ⟨rfl, rfl⟩
  | none => cases numeral.float? <;> exact ⟨rfl, rfl⟩

section Scan

open Scanner

/-- What is scanned behind a mark. -/
theorem scan_mark {c : Char} {token : Token} (marks : start? c = some ([token], .between))
    {read words : List Token} {rest : List Char}
    (scanned : run? .between read (c :: rest) = some words) :
    run? .between (token :: read) rest = some words := by
  rw [← run?_mark marks]
  exact scanned

theorem scan_spelled {text rest : List Char} (spelled : Spelled text) (ends : Ends rest)
    {read words : List Token} (scanned : run? .between read (text ++ rest) = some words) :
    ∃ like : Json, like.keys? = none ∧
      run? .between (like.tokens.reverse ++ read) rest = some words := by
  obtain ⟨numeral, later⟩ := run?_spelled spelled ends scanned
  obtain ⟨tokens, keys⟩ := tokens_value numeral
  exact ⟨numeral.value, keys, by rw [tokens]; exact later⟩

mutual

/-- **The text of a value is scanned as the words of a value with the same keys,** if it is scanned
at all. -/
theorem scan_like : ∀ (value : Json) {read words : List Token} {rest : List Char}, Ends rest →
    run? .between read (value.chars ++ rest) = some words →
    ∃ like : Json, like.keys? = value.keys? ∧
      run? .between (like.tokens.reverse ++ read) rest = some words
  | .null, read, _, _, ends, scanned =>
    ⟨.null, rfl, (run?_name rfl rfl rfl read ends).symm.trans scanned⟩
  | .faulty, read, _, _, ends, scanned =>
    ⟨.null, rfl, (run?_name rfl rfl rfl read ends).symm.trans scanned⟩
  | .bool true, read, _, _, ends, scanned =>
    ⟨.bool true, rfl, (run?_name rfl rfl rfl read ends).symm.trans scanned⟩
  | .bool false, read, _, _, ends, scanned =>
    ⟨.bool false, rfl, (run?_name rfl rfl rfl read ends).symm.trans scanned⟩
  | .int value, _, _, _, ends, scanned => scan_spelled (signedDigits_spelled value) ends scanned
  | .float value, read, words, rest, ends, scanned => by
    have written : run? .between read (floatChars value ++ rest) = some words := scanned
    unfold floatChars at written
    cases finite : Decimal.Parts.ofBits? value.toBits.toNat with
    | some parts =>
      rw [finite] at written
      exact scan_spelled (write_spelled parts) ends written
    | none =>
      rw [finite] at written
      exact ⟨.null, rfl, (run?_name rfl rfl rfl read ends).symm.trans written⟩
  | .text value, read, _, rest, _, scanned => by
    have quoted := run?_quoted read value.toList rest
    rw [String.ofList_toList] at quoted
    exact ⟨.text value, rfl, quoted.symm.trans scanned⟩
  | .array items, _, _, rest, _, scanned => by
    rw [chars, List.cons_append, List.append_assoc, List.singleton_append] at scanned
    obtain ⟨others, _, later⟩ :=
      scan_items_like items (ends_cons (by decide) _) (scan_mark rfl scanned)
    refine ⟨.array others, rfl, ?_⟩
    have closed := scan_mark (c := ']') rfl later
    rw [tokens]
    simpa only [List.reverse_cons, List.reverse_append, List.reverse_nil, List.append_assoc,
      List.cons_append, List.nil_append] using closed
  | .object members, _, _, rest, _, scanned => by
    rw [chars, List.cons_append, List.append_assoc, List.singleton_append] at scanned
    obtain ⟨others, keys, later⟩ :=
      scan_members_like members (ends_cons (by decide) _) (scan_mark rfl scanned)
    refine ⟨.object others, congrArg some keys, ?_⟩
    have closed := scan_mark (c := '\x7d') rfl later
    rw [tokens]
    simpa only [List.reverse_cons, List.reverse_append, List.reverse_nil, List.append_assoc,
      List.cons_append, List.nil_append] using closed

/-- So are the items of an array, -/
theorem scan_items_like : ∀ (items : List Json) {read words : List Token} {rest : List Char},
    Ends rest → run? .between read (itemChars items ++ rest) = some words →
    ∃ others : List Json, others.length = items.length ∧
      run? .between ((itemTokens others).reverse ++ read) rest = some words
  | [], _, _, _, _, scanned => ⟨[], rfl, scanned⟩
  | [item], _, _, _, ends, scanned => by
    obtain ⟨like, _, later⟩ := scan_like item ends scanned
    exact ⟨[like], rfl, later⟩
  | item :: next :: items, _, _, rest, ends, scanned => by
    rw [itemChars, List.append_assoc, List.cons_append] at scanned
    · obtain ⟨like, _, later⟩ := scan_like item (ends_cons (by decide) _) scanned
      obtain ⟨others, length, last⟩ :=
        scan_items_like (next :: items) ends (scan_mark (c := ',') rfl later)
      refine ⟨like :: others, congrArg Nat.succ length, ?_⟩
      rw [itemTokens]
      · simpa only [List.reverse_cons, List.reverse_append, List.append_assoc, List.cons_append,
          List.nil_append] using last
      · rintro rfl
        cases length
    · simp

/-- and the members of an object. -/
theorem scan_members_like : ∀ (members : List (String × Json)) {read words : List Token}
    {rest : List Char}, Ends rest → run? .between read (memberChars members ++ rest) = some words →
    ∃ others : List (String × Json), others.map Prod.fst = members.map Prod.fst ∧
      run? .between ((memberTokens others).reverse ++ read) rest = some words
  | [], _, _, _, _, scanned => ⟨[], rfl, scanned⟩
  | [(key, value)], _, _, _, ends, scanned => by
    rw [memberChars, List.append_assoc, List.cons_append, run?_quoted,
      String.ofList_toList] at scanned
    obtain ⟨like, _, later⟩ := scan_like value ends (scan_mark (c := ':') rfl scanned)
    refine ⟨[(key, like)], rfl, ?_⟩
    rw [memberTokens]
    simpa only [List.reverse_cons, List.append_assoc, List.cons_append, List.nil_append] using later
  | (key, value) :: next :: members, _, _, rest, ends, scanned => by
    rw [memberChars] at scanned
    · simp only [List.append_assoc, List.cons_append] at scanned
      rw [run?_quoted, String.ofList_toList] at scanned
      obtain ⟨like, _, later⟩ :=
        scan_like value (ends_cons (by decide) _) (scan_mark (c := ':') rfl scanned)
      obtain ⟨others, keys, last⟩ :=
        scan_members_like (next :: members) ends (scan_mark (c := ',') rfl later)
      refine ⟨(key, like) :: others, congrArg (key :: ·) keys, ?_⟩
      rw [memberTokens]
      · simpa only [List.reverse_cons, List.reverse_append, List.append_assoc, List.cons_append,
          List.nil_append] using last
      · rintro rfl
        cases keys
    · simp

end

end Scan

/-! ### Building -/

namespace Builder

/-- Words are read one after the other. -/
theorem exists_run?_of_append {front back : List Token} {builder : Builder} {frames : List Frame}
    {found : Json} (built : run? builder frames (front ++ back) = some found) :
    ∃ next others, run? next others back = some found := by
  induction front generalizing builder frames with
  | nil => exact ⟨builder, frames, built⟩
  | cons token front ih =>
    rw [List.cons_append, run?] at built
    cases stepped : step? builder frames token with
    | none =>
      rw [stepped] at built
      cases built
    | some result =>
      rw [stepped] at built
      exact ih built

/-- No object begins right behind a value. -/
theorem step?_afterValue_beginObject (value : Json) (frames : List Frame) :
    step? (.afterValue value) frames .beginObject = none := by
  rcases frames with _ | ⟨_ | _, frames⟩ <;> rfl

/-- So none does right behind a number or a name. -/
theorem run?_leaf_beginObject (builder : Builder) (frames : List Frame) (leaf : Json)
    (rest : List Token) : run? builder frames (.leaf leaf :: .beginObject :: rest) = none := by
  have behind (frames : List Frame) :
      run? (.afterValue leaf) frames (.beginObject :: rest) = none := by
    rw [run?, step?_afterValue_beginObject]
  cases builder with
  | atValue => exact behind frames
  | atItem => exact behind (.array [] :: frames)
  | atMember | atKey members | atColon members key => rfl
  | afterValue value => rcases frames with _ | ⟨_ | _, frames⟩ <;> rfl

/-- A value that is read inside a container is not the end. -/
theorem run?_afterValue_nil {value found : Json} {frames : List Frame}
    (built : run? (.afterValue value) frames [] = some found) : frames = [] ∧ value = found := by
  cases frames with
  | nil => exact ⟨rfl, Option.some.inj built⟩
  | cons frame frames => cases built

/-- **The words of an object at the end** are read as that object: nothing else was read, and no
container is open. -/
theorem run?_object {builder : Builder} {frames : List Frame} {members : List (String × Json)}
    {found : Json} (built : run? builder frames (Json.object members).tokens = some found) :
    found = Json.object members := by
  have atValue (frames : List Frame) :
      run? .atValue frames (Json.object members).tokens =
        run? (.afterValue (Json.object members)) frames [] := by
    have whole := build_tokens (Json.object members) frames []
    rwa [List.append_nil] at whole
  cases builder with
  | atValue =>
    rw [atValue] at built
    exact (run?_afterValue_nil built).2.symm
  | atItem =>
    have inside : run? .atValue (.array [] :: frames) (Json.object members).tokens = some found :=
      built
    rw [atValue] at inside
    cases (run?_afterValue_nil inside).1
  | atMember | atKey members | atColon members key => cases built
  | afterValue value =>
    rw [tokens, run?, step?_afterValue_beginObject] at built
    cases built

end Builder

/-! ### Texts -/

/-- **A text that ends with the text of an object** is read as an object with the same keys, if it
is read at all and the object does not go on in a quoted text. -/
theorem keys?_of_preceded {members : List (String × Json)}
    (shut : ∀ pieces held, Scanner.run? (.text pieces) held (object members).chars = none)
    {front : List Char} {found : Json}
    (parsed : parseChars? (front ++ (object members).chars) = some found) :
    found.keys? = (object members).keys? := by
  obtain ⟨words, scanned, built⟩ := Option.bind_eq_some_iff.mp parsed
  obtain ⟨scanner, held, scanned⟩ := Scanner.exists_run?_of_append scanned
  -- A word that is being read ends where the object begins.
  have apart {leaf : Json} {more : List Token}
      (behind : words = held.reverse ++ .leaf leaf :: .beginObject :: more) : False := by
    rw [behind] at built
    obtain ⟨builder, frames, impossible⟩ := Builder.exists_run?_of_append built
    rw [Builder.run?_leaf_beginObject] at impossible
    cases impossible
  cases scanner with
  | between =>
    rw [← List.append_nil (object members).chars] at scanned
    obtain ⟨like, keys, last⟩ := scan_like (object members) Scanner.ends_nil scanned
    obtain ⟨others, rfl⟩ := exists_members_of_keys? keys
    have same : held.reverse ++ (object others).tokens = words := by
      simpa [Scanner.run?, Scanner.finish?] using last
    rw [← same] at built
    obtain ⟨builder, frames, atEnd⟩ := Builder.exists_run?_of_append built
    rw [Builder.run?_object atEnd, keys]
  | number read | name read =>
    obtain ⟨leaf, more, behind⟩ := Scanner.exists_of_run?_brace scanned trivial
    exact (apart behind).elim
  | text pieces =>
    rw [shut] at scanned
    cases scanned
  | escape pieces => cases scanned
  | unit pieces value missing => cases scanned

end MetricRelay.Json
