/-
**White space and letter case of plain text.**

* `isBlank` is the property White_Space of the Unicode standard;
* `trim` drops blanks at both ends, `trimmed` does so on a `String`;
* `lowered` maps the letters A to Z and nothing else.
-/

namespace MetricRelay.Text

/-- The character is white space. -/
def isBlank (c : Char) : Bool :=
  let code := c.toNat
  (0x09 ≤ code && code ≤ 0x0D) || code == 0x20 || code == 0x85 || code == 0xA0 ||
    code == 0x1680 || (0x2000 ≤ code && code ≤ 0x200A) || code == 0x2028 || code == 0x2029 ||
    code == 0x202F || code == 0x205F || code == 0x3000

/-- What is left of a text without the blanks at both of its ends. -/
def trim (text : List Char) : List Char :=
  ((text.dropWhile isBlank).reverse.dropWhile isBlank).reverse

/-- `trim` on strings. -/
def trimmed (text : String) : String :=
  String.ofList (trim text.toList)

/-- The text is empty or has nothing but blanks. -/
def isBlankText (text : String) : Bool :=
  text.toList.all isBlank

/-- The text with the letters A to Z in lower case. -/
def lowered (text : String) : String :=
  String.ofList (text.toList.map Char.toLower)

end MetricRelay.Text
