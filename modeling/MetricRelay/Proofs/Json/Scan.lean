/-
**The words of what is written.**

What the printer of JSON writes is read as the words that it stands for, one part after the other.

* `Scanner.run?_quoted`: a quoted text is read as that text, whatever it holds;
* `Scanner.run?_word`: what numbers and names consist of is held up to what ends them, and is one
  word;
* `Scanner.run?_number`: a numeral is read as its value, if something follows that ends it;
* `Scanner.run?_name`: so is a name;
* `Scanner.Ends`: what may follow a value.
-/

import MetricRelay.Json.Printer
import MetricRelay.Proofs.Json.Numerals

namespace MetricRelay.Json

/-! ### Texts -/

namespace Piece

/-- The piece that a character is read as, after it was escaped. -/
def ofChar (c : Char) : Piece :=
  if c.toNat < 0x20 ∧ c ∉ ['\x08', '\t', '\n', '\x0c', '\r'] then .unit c.toNat else .char c

/-- A unit that is half of no pair is a character. -/
theorem join?_unit {code : Nat} (high : isHigh code = false) (low : isLow code = false)
    (rest : List Piece) : join? (.unit code :: rest) = (join? rest).map (Char.ofNat code :: ·) := by
  cases rest with
  | nil => simp [join?, high, low]
  | cons next rest => cases next <;> simp [join?, high, low]

/-- **The pieces of a text are joined to that text.** -/
theorem join?_ofChar (text : List Char) : join? (text.map ofChar) = some text := by
  induction text with
  | nil => rfl
  | cons c rest ih =>
    rw [List.map_cons, ofChar]
    by_cases control : c.toNat < 0x20 ∧ c ∉ ['\x08', '\t', '\n', '\x0c', '\r']
    · have high : isHigh c.toNat = false := by
        simp only [isHigh, Bool.and_eq_false_iff, decide_eq_false_iff_not]
        omega
      have low : isLow c.toNat = false := by
        simp only [isLow, Bool.and_eq_false_iff, decide_eq_false_iff_not]
        omega
      rw [if_pos control, join?_unit high low, ih, Option.map_some, Char.ofNat_toNat]
    · rw [if_neg control, join?, ih, Option.map_some]

end Piece

namespace Scanner

/-- **An escaped character is read as that character.** -/
theorem run?_escape (pieces : List Piece) (read : List Token) (c : Char) (rest : List Char) :
    run? (.text pieces) read (Json.escape c ++ rest) =
      run? (.text (.ofChar c :: pieces)) read rest := by
  have hex : ∀ digit < 16, hexValue? (hexDigit digit) = some digit := by decide
  by_cases short : c ∈ ['"', '\\', '\x08', '\t', '\n', '\x0c', '\r']
  · simp only [List.mem_cons, List.not_mem_nil, or_false] at short
    rcases short with rfl | rfl | rfl | rfl | rfl | rfl | rfl <;> rfl
  · simp only [List.mem_cons, List.not_mem_nil, or_false, not_or] at short
    obtain ⟨quote, backslash, backspace, tab, newline, page, carriage⟩ := short
    unfold Json.escape Piece.ofChar
    rw [if_neg quote, if_neg backslash, if_neg backspace, if_neg tab, if_neg newline, if_neg page,
      if_neg carriage]
    by_cases control : c.toNat < 0x20
    · have high := hex (c.toNat / 16) (by omega)
      have low := hex (c.toNat % 16) (by omega)
      have zero : hexValue? '0' = some 0 := by decide
      have whole : c.toNat / 16 * 16 + c.toNat % 16 = c.toNat := by omega
      simp [run?, step?, control, backspace, tab, newline, page, carriage, high, low, zero, whole]
    · simp [run?, step?, control, quote, backslash]

/-- **A quoted text is read as that text.** -/
theorem run?_quoted (read : List Token) (text rest : List Char) :
    run? .between read (quoted text ++ rest) =
      run? .between (.text (some (String.ofList text)) :: read) rest := by
  have inside (pieces : List Piece) (text : List Char) :
      run? (.text pieces) read (text.flatMap Json.escape ++ ('"' :: rest)) =
        run? (.text ((text.map Piece.ofChar).reverse ++ pieces)) read ('"' :: rest) := by
    induction text generalizing pieces with
    | nil => rfl
    | cons c text ih =>
      rw [List.flatMap_cons, List.append_assoc, run?_escape, ih, List.map_cons, List.reverse_cons,
        List.append_assoc]
      rfl
  have opened : run? .between read (quoted text ++ rest) =
      run? (.text []) read (text.flatMap Json.escape ++ ('"' :: rest)) := by
    simp [quoted, run?, step?, start?, isBlank]
  have closed : closed (text.map Piece.ofChar).reverse =
      .text (some (String.ofList text)) := by
    unfold closed
    rw [List.reverse_reverse, Piece.join?_ofChar, Option.map_some]
  rw [opened, inside, List.append_nil]
  simp [run?, step?, closed]

/-! ### Numbers and names -/

/-- The characters that may follow a value: what separates and ends values, and blanks. -/
def enders : List Char := [',', ':', ']', '}', ' ', '\t', '\n', '\r']

/-- What may follow a value: nothing, or a character that may. -/
def Ends (rest : List Char) : Prop :=
  ∀ c ∈ rest.head?, c ∈ enders

theorem ends_nil : Ends [] := by
  intro c member
  cases member

theorem ends_cons {c : Char} (mark : c ∈ enders) (rest : List Char) :
    Ends (c :: rest) := by
  intro d member
  cases member
  exact mark

/-- A word is complete where a value may end. -/
theorem run?_of_ends {scanner : Scanner} {word : Token} (complete : finish? scanner = some [word])
    (stops : ∀ c ∈ enders, step? scanner c = do
      let word ← finish? scanner
      let (tokens, next) ← start? c
      return (word ++ tokens, next)) (read : List Token) {rest : List Char} (ends : Ends rest) :
    run? scanner read rest = run? .between (word :: read) rest := by
  cases rest with
  | nil =>
    have void : finish? between = some [] := rfl
    simp only [run?, complete, void, Option.map_some, List.reverse_cons, List.append_nil]
  | cons c rest =>
    have mark := ends c rfl
    have starts : ∃ tokens, start? c = some (tokens, between) := by
      simp only [enders, List.mem_cons, List.not_mem_nil, or_false] at mark
      rcases mark with rfl | rfl | rfl | rfl | rfl | rfl | rfl | rfl <;> exact ⟨_, rfl⟩
    obtain ⟨tokens, started⟩ := starts
    have stepped : step? scanner c = some (word :: tokens, between) := by
      rw [stops c mark, complete, started]
      rfl
    have begun : step? between c = some (tokens, between) := started
    simp only [run?, stepped, begun, List.reverse_cons, List.append_assoc, List.singleton_append]

/-- Numbers and names are held while characters of theirs follow. -/
theorem run?_held {hold : List Char → Scanner} {part : Char → Bool}
    (goesOn : ∀ held c, part c = true → step? (hold held) c = some ([], hold (c :: held)))
    (held : List Char) (read : List Token) {text : List Char}
    (parts : ∀ c ∈ text, part c = true) (rest : List Char) :
    run? (hold held) read (text ++ rest) = run? (hold (text.reverse ++ held)) read rest := by
  induction text generalizing held with
  | nil => rfl
  | cons c text ih =>
    rw [List.forall_mem_cons] at parts
    rw [List.reverse_cons, List.append_assoc]
    simp only [List.cons_append, run?, goesOn held c parts.1]
    exact ih (c :: held) parts.2

/-- **What is held to the end of a value is one word.** -/
theorem run?_word {hold : List Char → Scanner} {part : Char → Bool}
    (goesOn : ∀ held c, part c = true → step? (hold held) c = some ([], hold (c :: held)))
    (stops : ∀ held, ∀ c ∈ enders, step? (hold held) c = do
      let word ← finish? (hold held)
      let (tokens, next) ← start? c
      return (word ++ tokens, next)) {c : Char} {others : List Char} {word : Token}
    (begins : start? c = some ([], hold [c])) (parts : ∀ d ∈ others, part d = true)
    (complete : finish? (hold (c :: others).reverse) = some [word]) (read : List Token)
    {rest : List Char} (ends : Ends rest) :
    run? .between read (c :: others ++ rest) = run? .between (word :: read) rest := by
  have stepped : step? .between c = some ([], hold [c]) := begins
  rw [List.cons_append, run?, stepped]
  show run? (hold [c]) read (others ++ rest) = _
  rw [run?_held goesOn [c] read parts, ← List.reverse_cons]
  exact run?_of_ends complete (stops _) read ends

/-- A number begins with a digit or a minus. -/
theorem start?_numeral {c : Char} (begins : c.isDigit = true ∨ c = '-') :
    start? c = some ([], .number [c]) := by
  rcases begins with digit | rfl
  · have other {d : Char} (letter : d.isDigit = false) : c ≠ d := by
      rintro rfl
      rw [digit] at letter
      cases letter
    have visible : isBlank c = false := by
      simp [isBlank, other (d := ' ') rfl, other (d := '\t') rfl, other (d := '\n') rfl,
        other (d := '\r') rfl]
    unfold start?
    rw [if_neg (by rw [visible]; decide), if_neg (other rfl), if_pos (.inl digit)]
  · rfl

/-- **A numeral is read as its value.** -/
theorem run?_number {text : List Char} {numeral : Numeral}
    (parsed : Numeral.parse? text = some numeral) (read : List Token) {rest : List Char}
    (ends : Ends rest) :
    run? .between read (text ++ rest) = run? .between (.leaf numeral.value :: read) rest := by
  have complete : finish? (.number text.reverse) = some [.leaf numeral.value] := by
    simp only [finish?, List.reverse_reverse, parsed, Option.map_some]
  have goesOn (held : List Char) (d : Char) (numeric : isNumeric d = true) :
      step? (.number held) d = some ([], .number (d :: held)) := if_pos numeric
  obtain ⟨c, others, rfl, begins, numeric⟩ := Numeral.numeric_of_parse? parsed
  refine run?_word goesOn (fun held d mark => ?_) (start?_numeral begins) numeric complete read ends
  simp only [enders, List.mem_cons, List.not_mem_nil, or_false] at mark
  rcases mark with rfl | rfl | rfl | rfl | rfl | rfl | rfl | rfl <;> rfl

/-- **A name is read as its value.** -/
theorem run?_name {c : Char} {others : List Char} {value : Json}
    (named : named? (c :: others) = some value) (begins : start? c = some ([], .name [c]))
    (alphabetic : others.all Char.isAlpha = true) (read : List Token) {rest : List Char}
    (ends : Ends rest) :
    run? .between read (c :: others ++ rest) = run? .between (.leaf value :: read) rest := by
  have complete : finish? (.name (c :: others).reverse) = some [.leaf value] := by
    simp only [finish?, List.reverse_reverse, named, Option.map_some]
  have goesOn (held : List Char) (d : Char) (letter : d.isAlpha = true) :
      step? (.name held) d = some ([], .name (d :: held)) := if_pos letter
  refine run?_word goesOn (fun held d mark => ?_) begins (List.all_eq_true.mp alphabetic) complete
    read ends
  simp only [enders, List.mem_cons, List.not_mem_nil, or_false] at mark
  rcases mark with rfl | rfl | rfl | rfl | rfl | rfl | rfl | rfl <;> rfl

end Scanner

end MetricRelay.Json
