/-
**The lines of a recording and what they hold.**

A recording is cut at its line feeds, and what is behind the last one is a line as well, unless there
is nothing (`Recording.pieces`). A line holds no text, or nothing but blanks, or a frame, or it is
malformed (`Recording.classify`).

A carriage return before a line feed makes no difference (`Recording.classify_concat_return`), so
neither the way the lines end nor what is done about it when they are read does
(`Recording.classify_lines`, `Recording.Respelled.classify_pieces`).
-/

import Mathlib.Data.List.DropRight
import MetricRelay.Proofs.Disk.LineCount
import MetricRelay.Report.Frame

namespace MetricRelay

namespace Text

/-- A blank at the end is trimmed. -/
theorem trim_concat_blank {c : Char} (blank : isBlank c = true) (text : List Char) :
    trim (text ++ [c]) = trim text := by
  show ((text ++ [c]).dropWhile isBlank).rdropWhile isBlank =
    (text.dropWhile isBlank).rdropWhile isBlank
  rw [List.dropWhile_append]
  by_cases void : (text.dropWhile isBlank).isEmpty = true
  · rw [if_pos void, List.isEmpty_iff.mp void, List.dropWhile_cons_of_pos blank]
    rfl
  · rw [if_neg void, List.rdropWhile_concat_pos _ _ _ blank]

/-- Nothing is left exactly of blank texts. -/
theorem trim_eq_nil {text : List Char} : trim text = [] ↔ text.all isBlank = true := by
  show (text.dropWhile isBlank).rdropWhile isBlank = [] ↔ _
  rw [List.rdropWhile_eq_nil_iff, List.all_eq_true]
  constructor
  · intro behind c member
    rw [← List.takeWhile_append_dropWhile (p := isBlank) (l := text)] at member
    rcases List.mem_append.mp member with front | back
    · exact List.mem_takeWhile_imp front
    · exact behind c back
  · exact fun blank c member => blank c ((List.dropWhile_sublist _).mem member)

end Text

namespace Recording

/-! ### Texts -/

/-- A line is a text if it is the bytes of one. -/
theorem text?_eq_some {line : List UInt8} {text : String} :
    text? line = some text ↔ text.toUTF8.data.toList = line := by
  have bytes : text.toByteArray = ⟨line.toArray⟩ ↔ text.toUTF8.data.toList = line := by
    rw [String.toUTF8_eq_toByteArray, ByteArray.ext_iff, ← Array.toList_inj]
  rw [← bytes]
  unfold text? String.fromUTF8?
  by_cases valid : ByteArray.IsValidUTF8 ⟨line.toArray⟩
  · rw [dif_pos valid, Option.some.injEq, ← String.toByteArray_inj]
    exact eq_comm
  · rw [dif_neg valid]
    refine iff_of_false (by simp) fun same => valid ?_
    rw [← same]
    exact text.isValidUTF8

/-- Only a carriage return ends in its byte. -/
theorem eq_return_of_concat {c : Char} {bytes : List UInt8}
    (ends : String.utf8EncodeChar c = bytes ++ [13]) : bytes = [] ∧ c = '\r' := by
  have inside : bytes.length < (String.utf8EncodeChar c).length := by
    rw [ends, List.length_append, List.length_singleton]
    omega
  have last : (String.utf8EncodeChar c)[bytes.length] = 13 := by simp [ends]
  -- In UTF-8 the byte begins a character, so it is the first one of the character that it ends.
  have first : (String.utf8EncodeChar c)[bytes.length].IsUTF8FirstByte := by
    rw [last]
    decide
  have none : bytes = [] :=
    List.length_eq_zero_iff.mp (UInt8.isUTF8FirstByte_getElem_utf8EncodeChar.mp first)
  refine ⟨none, ?_⟩
  have encoded : String.utf8EncodeChar c = String.utf8EncodeChar '\r' := by
    rw [ends, none]
    decide
  have same : String.ofList [c] = String.ofList ['\r'] := by
    rw [← String.toByteArray_inj, String.toByteArray_ofList, String.toByteArray_ofList,
      List.utf8Encode_singleton, List.utf8Encode_singleton, encoded]
  exact List.singleton_injective (String.ofList_injective same)

/-- A carriage return at the end of a line is one at the end of its text. -/
theorem text?_concat_return (line : List UInt8) :
    text? (line ++ [13]) = (text? line).map (· ++ "\r") := by
  have encoded (text : String) : (text ++ "\r").toUTF8.data.toList =
      text.toUTF8.data.toList ++ [13] := by
    rw [Lines.toUTF8_toList, Lines.toUTF8_toList, String.toList_append, List.flatMap_append]
    rfl
  cases read : text? line with
  | some text =>
    rw [text?_eq_some] at read
    rw [Option.map_some, text?_eq_some, encoded, read]
  | none =>
    rw [Option.map_none, Option.eq_none_iff_forall_ne_some]
    intro text readLonger
    rw [text?_eq_some, Lines.toUTF8_toList] at readLonger
    rcases List.eq_nil_or_concat' text.toList with void | ⟨chars, c, same⟩
    · rw [void] at readLonger
      simp at readLonger
    · rw [same, List.flatMap_append, List.flatMap_singleton] at readLonger
      obtain ⟨bytes, ends⟩ : ∃ bytes, String.utf8EncodeChar c = bytes ++ [13] := by
        rcases List.eq_nil_or_concat' (String.utf8EncodeChar c) with void | ⟨bytes, byte, ends⟩
        · exact absurd void String.utf8EncodeChar_ne_nil
        · rw [ends, ← List.append_assoc] at readLonger
          exact ⟨bytes, by rw [ends, (List.append_inj' readLonger rfl).2]⟩
      obtain ⟨rfl, rfl⟩ := eq_return_of_concat ends
      have shorter : text? line = some (String.ofList chars) := by
        rw [text?_eq_some, Lines.toUTF8_toList, String.toList_ofList]
        rw [ends] at readLonger
        exact (List.append_inj' readLonger rfl).1
      rw [read] at shorter
      cases shorter

/-! ### What a line holds -/

/-- What a line of a recording holds. -/
inductive Line where
  /-- It is no text. -/
  | unreadable
  /-- It is a text of blanks only. -/
  | blank
  /-- It is another text, but no frame. -/
  | malformed
  | frame (frame : Frame)

namespace Line

/-- The line is a text. -/
def isText : Line → Bool
  | unreadable => false
  | blank | malformed | frame _ => true

/-- The line counts for nothing, or is skipped. -/
def isNoise : Line → Bool
  | blank | malformed => true
  | unreadable | frame _ => false

def frame? : Line → Option Frame
  | frame held => some held
  | unreadable | blank | malformed => none

def isBlank : Line → Bool
  | blank => true
  | unreadable | malformed | frame _ => false

def isMalformed : Line → Bool
  | malformed => true
  | unreadable | blank | frame _ => false

end Line

/-- What a line holds, by its bytes. -/
def classify (line : List UInt8) : Line :=
  match text? line with
  | none => .unreadable
  | some text =>
    if text.toList.all Text.isBlank then .blank
    else
      match (Json.parseChars? (Text.trim text.toList)).bind Frame.ofJson? with
      | some frame => .frame frame
      | none => .malformed

/-- **A carriage return at the end of a line makes no difference.** -/
theorem classify_concat_return (line : List UInt8) : classify (line ++ [13]) = classify line := by
  have white : Text.isBlank '\r' = true := by decide
  unfold classify
  rw [text?_concat_return]
  cases text? line with
  | none => rfl
  | some text =>
    have chars : (text ++ "\r").toList = text.toList ++ ['\r'] := String.toList_append
    simp only [Option.map_some, chars, List.all_append, List.all_cons, white, List.all_nil,
      Bool.and_true, Text.trim_concat_blank white]

/-- How the text of a line is read as a frame is what the line holds. -/
theorem ofLine_eq {line : List UInt8} {text : String} (readable : text? line = some text)
    (number : Nat) :
    Frame.ofLine text number =
      match classify line with
      | .frame frame => .ok (some frame)
      | .malformed => .error (.malformedFrame number "not a frame")
      | .blank | .unreadable => .ok none := by
  unfold Frame.ofLine classify
  rw [readable]
  by_cases blank : text.toList.all Text.isBlank = true
  · simp only [if_pos blank, Text.trim_eq_nil.mpr blank]
  · simp only [if_neg blank]
    cases trimmed : Text.trim text.toList with
    | nil => exact absurd (Text.trim_eq_nil.mp trimmed) blank
    | cons first rest =>
      simp only
      cases (Json.parseChars? (first :: rest)).bind Frame.ofJson? <;> rfl

theorem isText_classify (line : List UInt8) : (classify line).isText = (text? line).isSome := by
  unfold classify
  cases text? line with
  | none => rfl
  | some text =>
    by_cases blank : text.toList.all Text.isBlank = true
    · simp only [if_pos blank]
      rfl
    · simp only [if_neg blank]
      cases (Json.parseChars? (Text.trim text.toList)).bind Frame.ofJson? <;> rfl

/-! ### Lines between line feeds -/

/-- What stands between the line feeds of a recording. There is no line behind the last one if
nothing is there. -/
def pieces (recording : List UInt8) : List (List UInt8) :=
  let parts := recording.splitOn 10
  if parts.getLast? = some [] then parts.dropLast else parts

theorem pieces_of_parts {recording behind : List UInt8} {parts : List (List UInt8)}
    (cut : recording.splitOn 10 = parts ++ [behind]) :
    pieces recording = if behind.isEmpty then parts else parts ++ [behind] := by
  unfold pieces
  simp only [cut, List.getLast?_concat, List.dropLast_concat]
  cases behind with
  | nil => rfl
  | cons byte rest => rfl

/-- The lines that have an end are parts of the recording, up to carriage returns, and what is
behind them is the last part. -/
theorem splitFrom_eq (line rest : List UInt8) :
    ∃ parts, (rest.splitOn 10).modifyHead (line.reverse ++ ·) =
        parts ++ [(splitFrom line rest).2] ∧
      (splitFrom line rest).1 = parts.map fun part => ended part.reverse := by
  induction rest generalizing line with
  | nil => exact ⟨[], by simp [splitFrom], rfl⟩
  | cons byte rest ih =>
    rw [List.splitOn_cons_eq_if_modifyHead]
    by_cases feed : byte = 10
    · obtain ⟨parts, cut, lines⟩ := ih []
      have same : (rest.splitOn 10).modifyHead (([] : List UInt8).reverse ++ ·) =
          rest.splitOn 10 := congrFun List.modifyHead_id _
      rw [same] at cut
      refine ⟨line.reverse :: parts, ?_, ?_⟩
      · simp only [feed, beq_self_eq_true, if_true, List.modifyHead_cons, List.append_nil, cut,
          splitFrom, List.cons_append]
      · simp only [feed, splitFrom, if_true, lines, List.map_cons, List.reverse_reverse]
    · obtain ⟨parts, cut, lines⟩ := ih (byte :: line)
      have next : splitFrom line (byte :: rest) = splitFrom (byte :: line) rest := by
        rw [splitFrom, if_neg feed]
      refine ⟨parts, ?_, by rw [next, lines]⟩
      rw [next, ← cut, if_neg (by simpa using feed), List.modifyHead_modifyHead]
      congr 1
      funext part
      simp

/-- Taking away the carriage return of a line end does not change what the line holds. -/
theorem classify_ended (part : List UInt8) : classify (ended part.reverse) = classify part := by
  have plain : ended part.reverse = part ∨ ended part.reverse ++ [13] = part := by
    unfold ended
    split
    next line reversed =>
      rw [List.reverse_eq_cons_iff] at reversed
      exact .inr reversed.symm
    next => exact .inl (List.reverse_reverse part)
  rcases plain with same | longer
  · rw [same]
  · rw [← classify_concat_return, longer]

/-- **What the lines of a recording hold** is what stands between its line feeds. -/
theorem classify_lines (recording : List UInt8) :
    (lines recording).map classify = (pieces recording).map classify := by
  obtain ⟨parts, cut, ends⟩ := splitFrom_eq [] recording
  have same : (recording.splitOn 10).modifyHead (([] : List UInt8).reverse ++ ·) =
      recording.splitOn 10 := congrFun List.modifyHead_id _
  rw [same] at cut
  have held : (splitFrom [] recording).1.map classify = parts.map classify := by
    rw [ends, List.map_map]
    exact List.map_congr_left fun part _ => classify_ended part
  rw [pieces_of_parts cut]
  show (if (splitFrom [] recording).2.isEmpty then _ else _ : List (List UInt8)).map classify = _
  by_cases void : (splitFrom [] recording).2.isEmpty = true
  · rw [if_pos void, if_pos void]
    exact held
  · rw [if_neg void, if_neg void, List.map_append, List.map_append]
    exact congrArg (· ++ _) held

/-- Some of the first parts of a recording are all parts of the bytes before the next one. -/
theorem splitOn_of_front {recording : List UInt8} {front back : List (List UInt8)}
    (cut : recording.splitOn 10 = front ++ back) (more : back ≠ []) :
    ∃ before, before <+: recording ∧ before.splitOn 10 = front ++ [[]] := by
  induction recording generalizing front with
  | nil =>
    cases front with
    | nil => exact ⟨[], List.nil_prefix, rfl⟩
    | cons part parts =>
      rw [List.splitOn_nil, List.cons_append, List.cons.injEq] at cut
      exact absurd (List.append_eq_nil_iff.mp cut.2.symm).2 more
  | cons byte rest ih =>
    cases front with
    | nil => exact ⟨[], List.nil_prefix, rfl⟩
    | cons part parts =>
      rw [List.splitOn_cons_eq_if_modifyHead] at cut
      by_cases feed : (byte == 10) = true
      · rw [if_pos feed, List.cons_append, List.cons.injEq] at cut
        obtain ⟨before, begins, parted⟩ := ih cut.2
        refine ⟨byte :: before, List.cons_prefix_cons.mpr ⟨rfl, begins⟩, ?_⟩
        rw [List.splitOn_cons_eq_if_modifyHead, if_pos feed, parted, cut.1]
        rfl
      · rw [if_neg feed] at cut
        cases parted : rest.splitOn 10 with
        | nil => exact absurd parted (List.splitOn_ne_nil 10 rest)
        | cons first others =>
          rw [parted, List.modifyHead_cons, List.cons_append, List.cons.injEq] at cut
          obtain ⟨before, begins, beforeParts⟩ := @ih (first :: parts) (by
            rw [parted, cut.2]
            rfl)
          refine ⟨byte :: before, List.cons_prefix_cons.mpr ⟨rfl, begins⟩, ?_⟩
          rw [List.splitOn_cons_eq_if_modifyHead, if_neg feed, beforeParts, ← cut.1]
          rfl

/-- **The lines before a line** are the lines of the bytes before it. -/
theorem pieces_of_front {recording line : List UInt8} {front back : List (List UInt8)}
    (cut : pieces recording = front ++ line :: back) :
    ∃ before, before <+: recording ∧ pieces before = front := by
  have parts : ∃ tail, recording.splitOn 10 = pieces recording ++ tail := by
    unfold pieces
    by_cases void : (recording.splitOn 10).getLast? = some []
    · simp only [if_pos void]
      exact ⟨[[]], (List.dropLast_append_getLast? _ void).symm⟩
    · simp only [if_neg void]
      exact ⟨[], (List.append_nil _).symm⟩
  obtain ⟨tail, parts⟩ := parts
  rw [cut, List.append_assoc] at parts
  obtain ⟨before, begins, beforeParts⟩ := splitOn_of_front parts (by simp)
  exact ⟨before, begins, pieces_of_parts beforeParts⟩

/-! ### Other line ends -/

/-- Another spelling of a recording: some of the line feeds got a carriage return before them. -/
inductive Respelled : List UInt8 → List UInt8 → Prop where
  | nil : Respelled [] []
  | same (byte : UInt8) {recording other : List UInt8} (rest : Respelled recording other) :
      Respelled (byte :: recording) (byte :: other)
  | widened {recording other : List UInt8} (rest : Respelled recording other) :
      Respelled (10 :: recording) (13 :: 10 :: other)

/-- The part is the same or got a carriage return at its end. -/
def Returned (part other : List UInt8) : Prop :=
  other = part ∨ other = part ++ [13]

theorem Returned.classify_eq {part other : List UInt8} (returned : Returned part other) :
    classify other = classify part := by
  rcases returned with rfl | rfl
  · rfl
  · exact classify_concat_return part

theorem Returned.cons {part other : List UInt8} (returned : Returned part other) (byte : UInt8) :
    Returned (byte :: part) (byte :: other) := by
  rcases returned with rfl | rfl
  · exact .inl rfl
  · exact .inr rfl

/-- Parts in another spelling: what is behind the last line feed is the same. -/
theorem Respelled.parts {recording other : List UInt8} (respelled : Respelled recording other) :
    ∃ front otherFront behind, recording.splitOn 10 = front ++ [behind] ∧
      other.splitOn 10 = otherFront ++ [behind] ∧ List.Forall₂ Returned front otherFront := by
  induction respelled with
  | nil => exact ⟨[], [], [], rfl, rfl, .nil⟩
  | same byte rest ih =>
    obtain ⟨front, otherFront, behind, cut, otherCut, returned⟩ := ih
    rw [List.splitOn_cons_eq_if_modifyHead, List.splitOn_cons_eq_if_modifyHead, cut, otherCut]
    by_cases feed : (byte == 10) = true
    · rw [if_pos feed, if_pos feed]
      exact ⟨[] :: front, [] :: otherFront, behind, rfl, rfl, .cons (.inl rfl) returned⟩
    · rw [if_neg feed, if_neg feed]
      cases returned with
      | nil => exact ⟨[], [], byte :: behind, rfl, rfl, .nil⟩
      | cons first later => exact ⟨_, _, behind, rfl, rfl, .cons (first.cons byte) later⟩
  | widened rest ih =>
    obtain ⟨front, otherFront, behind, cut, otherCut, returned⟩ := ih
    rw [List.splitOn_cons_eq_if_modifyHead, List.splitOn_cons_eq_if_modifyHead,
      List.splitOn_cons_eq_if_modifyHead, cut, otherCut]
    exact ⟨[] :: front, [13] :: otherFront, behind, rfl, rfl, .cons (.inr rfl) returned⟩

/-- **The lines of another spelling hold the same.** -/
theorem Respelled.classify_pieces {recording other : List UInt8}
    (respelled : Respelled recording other) :
    (pieces other).map classify = (pieces recording).map classify := by
  obtain ⟨front, otherFront, behind, cut, otherCut, returned⟩ := respelled.parts
  have same : otherFront.map classify = front.map classify := by
    clear cut otherCut
    induction returned with
    | nil => rfl
    | cons first later ih => rw [List.map_cons, List.map_cons, first.classify_eq, ih]
  rw [pieces_of_parts cut, pieces_of_parts otherCut]
  by_cases void : behind.isEmpty = true
  · rw [if_pos void, if_pos void, same]
  · rw [if_neg void, if_neg void, List.map_append, List.map_append, same]

end Recording

end MetricRelay
