/-
**Properties that follow from others.**

They are written as the standard derives them: from categories, from case folding, and from the
lists of the code points that are exceptions.
-/

import MetricRelay.Unicode.Category
import MetricRelay.Unicode.Folding
import MetricRelay.Unicode.Property

namespace MetricRelay.Unicode

namespace Property

/-- Small letters, and what is used as one. -/
def lowercase : CharSet := (Category.among ["Ll"]).union otherLowercase

/-- Capital letters, and what is used as one. -/
def uppercase : CharSet := (Category.among ["Lu"]).union otherUppercase

/-- Letters with case. -/
def cased : CharSet := .unionAll [lowercase, uppercase, Category.among ["Lt"]]

/-- Letters, and the marks and numbers that are used as some. -/
def alphabetic : CharSet :=
  .unionAll [lowercase, uppercase, Category.among ["Lt", "Lm", "Lo", "Nl"], otherAlphabetic]

/-- Code points that have no effect on the case of those around them. -/
def caseIgnorable : CharSet :=
  (Category.among ["Mn", "Me", "Cf", "Lm", "Sk"]).union otherCaseIgnorable

/-- What full case folding changes. -/
def changesWhenCasefolded : CharSet :=
  (Folding.changed.minus foldedOnlySimply).union foldedOnlyFully

/-- Code points that the mapping to lower case changes. -/
def changesWhenLowercased : CharSet :=
  (Folding.changed.minus foldedUnlowered).union loweredUnfolded

/-- Code points that the mapping to upper case changes. -/
def changesWhenUppercased : CharSet :=
  (Folding.targets.minus matchedUnuppered).union upperedUnmatched

/-- Code points that the mapping to title case changes. -/
def changesWhenTitlecased : CharSet :=
  changesWhenUppercased.symmetricDifference titledDifferently

/-- Code points that some mapping between cases changes. -/
def changesWhenCasemapped : CharSet :=
  changesWhenLowercased.union changesWhenUppercased

/-- What is used in formulas. -/
def math : CharSet := (Category.among ["Sm"]).union otherMath

/-- Code points that belong to the one before them. -/
def graphemeExtend : CharSet := (Category.among ["Me", "Mn"]).union otherGraphemeExtend

/-- What stands for itself where text is divided into characters. -/
def graphemeBase : CharSet :=
  ((Category.among ["Cc", "Cf", "Cs", "Co", "Cn", "Zl", "Zp"]).union graphemeExtend).complement

/-- What is kept for the syntax of patterns. -/
def pattern : CharSet := patternSyntax.union patternWhiteSpace

/-- What an identifier begins with. -/
def idStart : CharSet :=
  ((Category.among ["Lu", "Ll", "Lt", "Lm", "Lo", "Nl"]).union otherIdStart).minus pattern

/-- What an identifier goes on with. -/
def idContinue : CharSet :=
  (CharSet.unionAll [idStart, Category.among ["Mn", "Mc", "Nd", "Pc"], otherIdContinue]).minus
    pattern

/-- Code points that start an identifier, also after normalization. -/
def xidStart : CharSet := idStart.minus notXidStart

/-- Code points that continue an identifier, also after normalization. -/
def xidContinue : CharSet := idContinue.minus notXidContinue

/-- The characters of words. -/
def word : CharSet :=
  .unionAll [alphabetic, Category.among ["Mn", "Mc", "Me", "Nd", "Pc"], joinControl]

/-- The decimal digits. -/
def digit : CharSet := Category.among ["Nd"]

end Property

end MetricRelay.Unicode
