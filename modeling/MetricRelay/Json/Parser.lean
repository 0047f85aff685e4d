/-
**From words to values.**

A `Builder` reads the words of a JSON text one at a time and keeps the containers that are open,
the innermost first. It accepts exactly the texts that hold one value:

* `Json.ofTokens?`: the value of a list of words;
* `Json.parse?`: the value of a text.

An object with a faulty key is itself faulty: every reader of an object reads all its keys.
-/

import MetricRelay.Json.Token

namespace MetricRelay.Json

/-- A container that is open, with its parts in reverse. -/
inductive Frame where
  | array (items : List Json)
  /-- The key of the member that is being read stands apart. -/
  | object (members : List (Option String × Json)) (key : Option String)

/-- What the next word may be. -/
inductive Builder where
  /-- A value. -/
  | atValue
  /-- A value, or the end of an array. -/
  | atItem
  /-- A key, or the end of an object. -/
  | atMember
  /-- A key, after the members that have been read. -/
  | atKey (members : List (Option String × Json))
  /-- The colon after a key. -/
  | atColon (members : List (Option String × Json)) (key : Option String)
  /-- What follows a value. -/
  | afterValue (value : Json)

namespace Builder

/-- The members of an object whose keys all denote a text. -/
def keyed? : List (Option String × Json) → Option (List (String × Json))
  | [] => some []
  | (some key, value) :: rest => (keyed? rest).map ((key, value) :: ·)
  | (none, _) :: _ => none

/-- The object with these members, or a faulty value if a key is faulty. -/
def object (members : List (Option String × Json)) : Json :=
  match keyed? members with
  | some members => .object members
  | none => .faulty

/-- The first word of a value: what may follow it, and the containers open after it. -/
def start? (frames : List Frame) : Token → Option (Builder × List Frame)
  | .leaf leaf => some (afterValue leaf, frames)
  | .text (some chars) => some (afterValue (.text chars), frames)
  | .text none => some (afterValue .faulty, frames)
  | .beginArray => some (atItem, frames)
  | .beginObject => some (atMember, frames)
  | _ => none

/-- One more word: what may follow it, and the containers that are open then. `none` where the word
cannot stand. -/
def step? (builder : Builder) (frames : List Frame) (token : Token) :
    Option (Builder × List Frame) :=
  match builder with
  | atValue => start? frames token
  | atItem =>
    match token with
    | .endArray => some (afterValue (.array []), frames)
    | token => start? (.array [] :: frames) token
  | atMember =>
    match token with
    | .endObject => some (afterValue (.object []), frames)
    | .text key => some (atColon [] key, frames)
    | _ => none
  | atKey members =>
    match token with
    | .text key => some (atColon members key, frames)
    | _ => none
  | atColon members key =>
    match token with
    | .colon => some (atValue, .object members key :: frames)
    | _ => none
  | afterValue value =>
    match frames, token with
    | .array items :: frames, .comma => some (atValue, .array (value :: items) :: frames)
    | .array items :: frames, .endArray =>
      some (afterValue (.array (value :: items).reverse), frames)
    | .object members key :: frames, .comma => some (atKey ((key, value) :: members), frames)
    | .object members key :: frames, .endObject =>
      some (afterValue (object ((key, value) :: members).reverse), frames)
    | _, _ => none

/-- Reads words to their end. The value has to be complete then, with no container open. -/
def run? (builder : Builder) (frames : List Frame) : List Token → Option Json
  | [] =>
    match builder, frames with
    | afterValue value, [] => some value
    | _, _ => none
  | token :: rest =>
    match step? builder frames token with
    | some (builder, frames) => run? builder frames rest
    | none => none

end Builder

end MetricRelay.Json

namespace MetricRelay

/-- The value that some words make up. -/
def Json.ofTokens? (tokens : List Json.Token) : Option Json :=
  Json.Builder.run? .atValue [] tokens

/-- The value that a list of characters stands for. -/
def Json.parseChars? (text : List Char) : Option Json := do
  let tokens ← Json.Token.scan? text
  Json.ofTokens? tokens

/-- The value that a text stands for. -/
def Json.parse? (text : String) : Option Json :=
  Json.parseChars? text.toList

end MetricRelay
