/-
**Sets of code points by name.**

A set has the name of a category, a script or a property. Names are compared without regard to case,
blanks, dashes, underscores, and `is` at the beginning.

* `Lookup.named?`: the set with a name;
* `Lookup.valued?`: the set of the code points that have some value of a property with values.

The names are those of the standard, and the data that of Unicode 16.0.
-/

import MetricRelay.Unicode.Age
import MetricRelay.Unicode.Break
import MetricRelay.Unicode.Script

namespace MetricRelay.Unicode

namespace Property

/-- All properties that are true or false of a code point, by their names. -/
def names : List (List String × CharSet) :=
  [
    (["alpha", "alphabetic"], alphabetic),
    (["ahex", "asciihexdigit"], asciiHexDigit),
    (["bidic", "bidicontrol"], bidiControl),
    (["bidim", "bidimirrored"], bidiMirrored),
    (["cased"], cased),
    (["ci", "caseignorable"], caseIgnorable),
    (["cwcf", "changeswhencasefolded"], changesWhenCasefolded),
    (["cwcm", "changeswhencasemapped"], changesWhenCasemapped),
    (["cwl", "changeswhenlowercased"], changesWhenLowercased),
    (["cwt", "changeswhentitlecased"], changesWhenTitlecased),
    (["cwu", "changeswhenuppercased"], changesWhenUppercased),
    (["dash"], dash),
    (["dep", "deprecated"], deprecated),
    (["defaultignorablecodepoint", "di"], defaultIgnorableCodePoint),
    (["dia", "diacritic"], diacritic),
    (["emoji"], emoji),
    (["ecomp", "emojicomponent"], emojiComponent),
    (["emod", "emojimodifier"], emojiModifier),
    (["ebase", "emojimodifierbase"], emojiModifierBase),
    (["emojipresentation", "epres"], emojiPresentation),
    (["ext", "extender"], extender),
    (["extendedpictographic", "extpict"], extendedPictographic),
    (["grbase", "graphemebase"], graphemeBase),
    (["grext", "graphemeextend"], graphemeExtend),
    (["grlink", "graphemelink"], graphemeLink),
    (["hex", "hexdigit"], hexDigit),
    (["hyphen"], hyphen),
    (["idcompatmathcontinue"], idCompatMathContinue),
    (["idcompatmathstart"], idCompatMathStart),
    (["idc", "idcontinue"], idContinue),
    (["ideo", "ideographic"], ideographic),
    (["idsb", "idsbinaryoperator"], idsBinaryOperator),
    (["ids", "idstart"], idStart),
    (["idst", "idstrinaryoperator"], idsTrinaryOperator),
    (["idsu", "idsunaryoperator"], idsUnaryOperator),
    (["joinc", "joincontrol"], joinControl),
    (["loe", "logicalorderexception"], logicalOrderException),
    (["lower", "lowercase"], lowercase),
    (["math"], math),
    (["mcm", "modifiercombiningmark"], modifierCombiningMark),
    (["nchar", "noncharactercodepoint"], noncharacterCodePoint),
    (["oalpha", "otheralphabetic"], otherAlphabetic),
    (["odi", "otherdefaultignorablecodepoint"], otherDefaultIgnorableCodePoint),
    (["ogrext", "othergraphemeextend"], otherGraphemeExtend),
    (["oidc", "otheridcontinue"], otherIdContinue),
    (["oids", "otheridstart"], otherIdStart),
    (["olower", "otherlowercase"], otherLowercase),
    (["omath", "othermath"], otherMath),
    (["oupper", "otheruppercase"], otherUppercase),
    (["patsyn", "patternsyntax"], patternSyntax),
    (["patternwhitespace", "patws"], patternWhiteSpace),
    (["pcm", "prependedconcatenationmark"], prependedConcatenationMark),
    (["qmark", "quotationmark"], quotationMark),
    (["radical"], radical),
    (["regionalindicator", "ri"], regionalIndicator),
    (["sd", "softdotted"], softDotted),
    (["sentenceterminal", "sterm"], sentenceTerminal),
    (["term", "terminalpunctuation"], terminalPunctuation),
    (["uideo", "unifiedideograph"], unifiedIdeograph),
    (["upper", "uppercase"], uppercase),
    (["variationselector", "vs"], variationSelector),
    (["space", "whitespace", "wspace"], whiteSpace),
    (["xidc", "xidcontinue"], xidContinue),
    (["xids", "xidstart"], xidStart)]

end Property

namespace Lookup

/-- A name as it is compared: without blanks, dashes and underscores, in lower case, and without
`is` at its beginning. -/
def normalize (name : String) : String :=
  let isMark (first second : Char) : Bool :=
    (first == 'i' || first == 'I') && (second == 's' || second == 'S')
  let (marked, rest) :=
    match name.toList with
    | first :: second :: rest =>
      if isMark first second then (true, rest) else (false, first :: second :: rest)
    | short => (false, short)
  let kept := rest.filter fun c => c.toNat ≤ 0x7F && c != ' ' && c != '_' && c != '-'
  let lowered := kept.map Char.toLower
  if marked && lowered == ['c'] then "isc" else String.ofList lowered

/-- The set of a category, or of one of three more classes that cut across them. -/
def category? (name : String) : Option CharSet :=
  match name with
  | "any" => some .all
  | "assigned" => some (Category.among ["Cn"]).complement
  | "ascii" => some .ascii
  | _ => Category.ofName? name

/-- The names that stand for a category and not for a property. -/
def categoryFirst : List String := ["cf", "sc", "lc"]

/-- The property with a name. A few names are those of a category first. -/
def property? (name : String) : Option CharSet :=
  if categoryFirst.contains name then none
  else (Property.names.find? fun entry => entry.1.contains name).map Prod.snd

/-- The set with a name: a property, a category or a script. -/
def named? (name : String) : Option CharSet :=
  let name := normalize name
  property? name <|> category? name <|> (Script.code? name).map Script.ofCode

/-- The set of the code points that have a value of a property. -/
def valued? (property value : String) : Option CharSet :=
  let value := normalize value
  match normalize property with
  | "gc" | "generalcategory" => category? value
  | "sc" | "script" => (Script.code? value).map Script.ofCode
  | "scx" | "scriptextensions" => (Script.code? value).map Script.usedIn
  | "age" => Age.upTo? value
  | "gcb" | "graphemeclusterbreak" => Break.named? Break.Grapheme.classes value
  | "wb" | "wordbreak" => Break.named? Break.Word.classes value
  | "sb" | "sentencebreak" => Break.named? Break.Sentence.classes value
  | _ => none

end Lookup

end MetricRelay.Unicode
