/-
**Where text can be divided.**

Text is divided into characters as a reader sees them, into words, and into sentences. For each of
these divisions every code point has a class, and most classes follow from other properties, with
exceptions that are listed. The data is that of Unicode 16.0.
-/

import MetricRelay.Unicode.Derived
import MetricRelay.Unicode.Script

namespace MetricRelay.Unicode.Break

/-- The names of classes in lower case, with their code points. -/
abbrev Classes := List (List String × CharSet)

/-- The class with a name. -/
def named? (classes : Classes) (name : String) : Option CharSet :=
  (classes.find? fun entry => entry.1.contains name).map Prod.snd

/-- The code points in some ranges. -/
def among (ranges : List (Nat × Nat)) : CharSet := .ofRanges ranges

/-- The code points in the first set and in none of some others. -/
def without (set : CharSet) (others : List CharSet) : CharSet :=
  set.minus (.unionAll others)

/-- The carriage return. -/
def carriageReturn : CharSet := .single 0xD

/-- The line feed. -/
def lineFeed : CharSet := .single 0xA

/-- The joiner of zero width. -/
def joiner : CharSet := .single 0x200D

/-- The code points that keep those around them apart. -/
def nonJoiner : CharSet := .single 0x200C

/-- Code points of category Cf that stand before numbers and count as numbers. -/
def numberSigns : CharSet :=
  among [(0x600, 0x605), (0x6DD, 0x6DD), (0x890, 0x891), (0x8E2, 0x8E2), (0x110BD, 0x110BD),
    (0x110CD, 0x110CD)]

/-- The digits, and what counts as one where text is divided. -/
def digits : CharSet :=
  .unionAll [Property.digit, numberSigns, .single 0x66B, .single 0x19DA]

namespace Grapheme

/-- Code points that belong to the one before them. -/
def extend : CharSet :=
  (Property.graphemeExtend.union Property.emojiModifier).minus joiner

/-- The characters that stand apart on both sides. -/
def control : CharSet :=
  without ((Category.among ["Zl", "Zp", "Cc", "Cf"]).union
      ((Category.among ["Cn"]).inter Property.defaultIgnorableCodePoint))
    [carriageReturn, lineFeed, nonJoiner, joiner, Property.prependedConcatenationMark, extend]

/-- The marks that take a place of their own, and do not belong to the character before them. -/
def freeMarks : CharSet :=
  among [(0x102B, 0x102C), (0x1038, 0x1038), (0x1062, 0x1064), (0x1067, 0x106D),
    (0x1083, 0x1083), (0x1087, 0x108C), (0x108F, 0x108F), (0x109A, 0x109C), (0x1A61, 0x1A61),
    (0x1A63, 0x1A64), (0xAA7B, 0xAA7B), (0xAA7D, 0xAA7D), (0x11720, 0x11721)]

/-- Spacing marks that belong to the code point before them. -/
def spacingMark : CharSet :=
  without ((Category.among ["Mc"]).union (among [(0xE33, 0xE33), (0xEB3, 0xEB3)]))
    [extend, freeMarks]

/-- Code points that belong to the one behind them. -/
def prepend : CharSet :=
  Property.prependedConcatenationMark.union <| among
    [(0xD4E, 0xD4E), (0x111C2, 0x111C3), (0x113D1, 0x113D1), (0x1193F, 0x1193F),
      (0x11941, 0x11941), (0x11A3A, 0x11A3A), (0x11A84, 0x11A89), (0x11D46, 0x11D46),
      (0x11F02, 0x11F02)]

/-- The first of the syllables that are made of two or three letters. -/
def firstSyllable : Nat := 0xAC00

/-- The syllables that begin with the same two sounds: one without a last sound, and 27 with one. -/
def syllableGroup : Nat := 28

/-- The syllables without a letter at their end. -/
def openSyllable : CharSet :=
  among ((List.range 399).map fun index =>
    (firstSyllable + index * syllableGroup, firstSyllable + index * syllableGroup))

/-- The syllables with a letter at their end. -/
def closedSyllable : CharSet :=
  (among [(firstSyllable, firstSyllable + 399 * syllableGroup - 1)]).minus openSyllable

/-- The letters that a syllable begins with. -/
def leading : CharSet := among [(0x1100, 0x115F), (0xA960, 0xA97C)]

/-- The middle sounds of Korean syllables, and vowel signs that behave like them. -/
def vowel : CharSet :=
  among [(0x1160, 0x11A7), (0xD7B0, 0xD7C6), (0x16D63, 0x16D63), (0x16D67, 0x16D6A)]

/-- The letters that a syllable ends with. -/
def trailing : CharSet := among [(0x11A8, 0x11FF), (0xD7CB, 0xD7FB)]

/-- The classes of code points, where text is divided into characters. -/
def classes : Classes :=
  [
    (["cn", "control"], control),
    (["cr"], carriageReturn),
    (["ex", "extend"], extend),
    (["l"], leading),
    (["lf"], lineFeed),
    (["lv"], openSyllable),
    (["lvt"], closedSyllable),
    (["pp", "prepend"], prepend),
    (["ri", "regionalindicator"], Property.regionalIndicator),
    (["sm", "spacingmark"], spacingMark),
    (["t"], trailing),
    (["v"], vowel),
    (["zwj"], joiner)]

end Grapheme

namespace Word

/-- Code points that belong to the one before them. -/
def extend : CharSet :=
  without (.unionAll [Property.graphemeExtend, Category.among ["Mc"], Property.emojiModifier])
    [joiner]

/-- Code points that are not seen and divide nothing. -/
def format : CharSet :=
  without (Category.among ["Cf"])
    [among [(0x200B, 0x200D)], extend, numberSigns, .single 0x70F]

/-- Letters of the Katakana script and marks that are used with them. -/
def katakana : CharSet :=
  (Script.ofCode "Kana").union <| among
    [(0x3031, 0x3035), (0x309B, 0x309C), (0x30A0, 0x30A0), (0x30FC, 0x30FC), (0xFF70, 0xFF70)]

/-- The letters of the Hebrew script. -/
def hebrewLetter : CharSet :=
  (Script.ofCode "Hebr").inter (Category.among ["Lo"])

/-- The marks that count as letters of a word. -/
def letterMarks : CharSet :=
  among [(0xB8, 0xB8), (0x2C2, 0x2C5), (0x2D2, 0x2D7), (0x2DE, 0x2DF), (0x2E5, 0x2EB),
    (0x2ED, 0x2ED), (0x2EF, 0x2FF), (0x55A, 0x55C), (0x55E, 0x55E), (0x58A, 0x58A),
    (0x5F3, 0x5F3), (0x70F, 0x70F), (0xA708, 0xA716), (0xA720, 0xA721), (0xA789, 0xA78A),
    (0xAB5B, 0xAB5B)]

/-- Scripts that are written without blanks between words. -/
def unspacedScripts : List String :=
  ["Ahom", "Hira", "Khmr", "Lana", "Laoo", "Mymr", "Tale", "Talu", "Tavt", "Thai"]

/-- The letters of scripts that put blanks between words. -/
def letter : CharSet :=
  without (Property.alphabetic.union letterMarks)
    (Property.ideographic :: katakana :: extend :: hebrewLetter ::
      unspacedScripts.map Script.ofCode)

/-- The marks that hold a word together, and a number as well. -/
def insideBoth : CharSet :=
  among [(0x2E, 0x2E), (0x2018, 0x2019), (0x2024, 0x2024), (0xFE52, 0xFE52), (0xFF07, 0xFF07),
    (0xFF0E, 0xFF0E)]

/-- The marks that hold a word together. -/
def insideWord : CharSet :=
  among [(0x3A, 0x3A), (0xB7, 0xB7), (0x387, 0x387), (0x55F, 0x55F), (0x5F4, 0x5F4),
    (0x2027, 0x2027), (0xFE13, 0xFE13), (0xFE55, 0xFE55), (0xFF1A, 0xFF1A)]

/-- The marks that hold a number together. -/
def insideNumber : CharSet :=
  among [(0x2C, 0x2C), (0x3B, 0x3B), (0x37E, 0x37E), (0x589, 0x589), (0x60C, 0x60D),
    (0x66C, 0x66C), (0x7F8, 0x7F8), (0x2044, 0x2044), (0xFE10, 0xFE10), (0xFE14, 0xFE14),
    (0xFE50, 0xFE50), (0xFE54, 0xFE54), (0xFF0C, 0xFF0C), (0xFF1B, 0xFF1B)]

/-- Line ends other than carriage return and line feed. -/
def newline : CharSet := among [(0xB, 0xC), (0x85, 0x85), (0x2028, 0x2029)]

/-- Blanks of which several in a row stay together. -/
def blank : CharSet :=
  (Category.among ["Zs"]).minus (among [(0xA0, 0xA0), (0x2007, 0x2007), (0x202F, 0x202F)])

/-- The classes of code points, where text is divided into words. -/
def classes : Classes :=
  [
    (["aletter", "le"], letter),
    (["cr"], carriageReturn),
    (["doublequote", "dq"], .single 0x22),
    (["ex", "extendnumlet"], (Category.among ["Pc"]).union (.single 0x202F)),
    (["extend"], extend),
    (["fo", "format"], format),
    (["hebrewletter", "hl"], hebrewLetter),
    (["ka", "katakana"], katakana),
    (["lf"], lineFeed),
    (["mb", "midnumlet"], insideBoth),
    (["midletter", "ml"], insideWord),
    (["midnum", "mn"], insideNumber),
    (["newline", "nl"], newline),
    (["nu", "numeric"], digits),
    (["regionalindicator", "ri"], Property.regionalIndicator),
    (["singlequote", "sq"], .single 0x27),
    (["wsegspace"], blank),
    (["zwj"], joiner)]

end Word

namespace Sentence

/-- Code points that belong to the one before them. -/
def extend : CharSet :=
  .unionAll [Property.graphemeExtend, Category.among ["Mc"], joiner]

/-- Code points that are not seen and divide nothing. -/
def format : CharSet :=
  without (Category.among ["Cf"]) [nonJoiner, joiner, extend, numberSigns]

/-- Line ends other than carriage return and line feed. -/
def separator : CharSet := among [(0x85, 0x85), (0x2028, 0x2029)]

/-- The blanks that end no paragraph. -/
def blank : CharSet :=
  without Property.whiteSpace [separator, carriageReturn, lineFeed]

/-- Letters of the Georgian script in lower case; sentences do not begin with others. -/
def georgianLower : CharSet := among [(0x10D0, 0x10FA), (0x10FD, 0x10FF)]

/-- The capital letters of the Georgian script, which begin no sentence. -/
def georgianUpper : CharSet := among [(0x1C90, 0x1CBA), (0x1CBD, 0x1CBF)]

/-- The small letters. -/
def lower : CharSet := without Property.lowercase [extend, georgianLower]

/-- The letters that a sentence begins with. -/
def upper : CharSet :=
  (Property.uppercase.union (Category.among ["Lt"])).minus georgianUpper

/-- The letters without case. -/
def otherLetter : CharSet :=
  without (Property.alphabetic.union (.single 0x5F3)) [lower, upper, extend]

/-- Points that end a sentence, or an abbreviation. -/
def fullStop : CharSet :=
  among [(0x2E, 0x2E), (0x2024, 0x2024), (0xFE52, 0xFE52), (0xFF0E, 0xFF0E)]

/-- The marks that end a sentence, whatever follows. -/
def terminal : CharSet := Property.sentenceTerminal.minus fullStop

/-- Brackets and quotes, which may follow the end of a sentence. -/
def closing : CharSet :=
  without ((Category.among ["Ps", "Pe", "Pi", "Pf"]).union <| among
    [(0x22, 0x22), (0x27, 0x27), (0x2E00, 0x2E01), (0x2E06, 0x2E08), (0x2E0B, 0x2E0B),
      (0x275B, 0x2760), (0x1F676, 0x1F678)]) [fullStop, terminal]

/-- The marks that are followed by the rest of a sentence. -/
def continuing : CharSet :=
  among [(0x2C, 0x2D), (0x3A, 0x3B), (0x37E, 0x37E), (0x55D, 0x55D), (0x60C, 0x60D),
    (0x7F8, 0x7F8), (0x1802, 0x1802), (0x1808, 0x1808), (0x2013, 0x2014), (0x3001, 0x3001),
    (0xFE10, 0xFE11), (0xFE13, 0xFE14), (0xFE31, 0xFE32), (0xFE50, 0xFE51), (0xFE54, 0xFE55),
    (0xFE58, 0xFE58), (0xFE63, 0xFE63), (0xFF0C, 0xFF0D), (0xFF1A, 0xFF1B), (0xFF64, 0xFF64)]

/-- The classes of code points, where text is divided into sentences. -/
def classes : Classes :=
  [
    (["at", "aterm"], fullStop),
    (["cl", "close"], closing),
    (["cr"], carriageReturn),
    (["ex", "extend"], extend),
    (["fo", "format"], format),
    (["le", "oletter"], otherLetter),
    (["lf"], lineFeed),
    (["lo", "lower"], lower),
    (["nu", "numeric"], digits.union (.single 0x66C)),
    (["sc", "scontinue"], continuing),
    (["se", "sep"], separator),
    (["sp"], blank),
    (["st", "sterm"], terminal),
    (["up", "upper"], upper)]

end Sentence

end MetricRelay.Unicode.Break
