import TokenGuard.Unicode.Category
import TokenGuard.Unicode.Property

/-! Properties of characters that follow from their categories and from listed properties. -/

namespace TokenGuard.Unicode

/-- Lowercase characters. -/
def lowercase : CharSet := (inCategories [.lowercaseLetter]).union otherLowercase.toSet

/-- Uppercase characters. -/
def uppercase : CharSet := (inCategories [.uppercaseLetter]).union otherUppercase.toSet

/-- Characters with case. -/
def cased : CharSet := (lowercase.union uppercase).union (inCategories [.titlecaseLetter])

/-- Characters that case does not depend on. -/
def caseIgnorable : CharSet :=
  (inCategories [.nonspacingMark, .enclosingMark, .format, .modifierLetter, .modifierSymbol]).union
    wordPunctuation.toSet

/-- Characters that lowercasing changes. -/
def changesWhenLowercased : CharSet :=
  (uppercase.union (inCategories [.titlecaseLetter])).without withoutLowercase.toSet

/-- Characters that uppercasing changes. -/
def changesWhenUppercased : CharSet :=
  (lowercase.union (inCategories [.titlecaseLetter])).without withoutUppercase.toSet

/-- Characters that change at the start of a word. -/
def changesWhenTitlecased : CharSet :=
  fun c => changesWhenUppercased c != titlecaseExceptions.toSet c

/-- Characters that case folding changes. -/
def changesWhenCasefolded : CharSet :=
  (changesWhenLowercased.without unfoldedUppercase.toSet).union foldedLowercase.toSet

/-- Characters that some change of case changes. -/
def changesWhenCasemapped : CharSet :=
  (changesWhenLowercased.union changesWhenUppercased).union changesWhenTitlecased

/-- Characters of alphabets and of what is written like one. -/
def alphabetic : CharSet :=
  (cased.union (inCategories [.modifierLetter, .otherLetter, .letterNumber])).union
    otherAlphabetic.toSet

/-- Characters of mathematics. -/
def math : CharSet := (inCategories [.mathSymbol]).union otherMath.toSet

/-- Characters that extend the one before to a cluster. -/
def graphemeExtend : CharSet :=
  (inCategories [.nonspacingMark, .enclosingMark]).union otherGraphemeExtend.toSet

/-- Characters that clusters are built on. -/
def graphemeBase : CharSet :=
  (inCategories (others ++ [.lineSeparator, .paragraphSeparator])).complement.without graphemeExtend

/-- Format characters that are never ignored. -/
def shownFormats : Runs := .ofText "FFF9 3 3434 10"

/-- Characters that are ignored where they cannot be shown. -/
def defaultIgnorable : CharSet :=
  let listed := otherDefaultIgnorable.toSet.union variationSelector.toSet
  let shown := shownFormats.toSet.union prependedConcatenationMark.toSet
  (listed.union (inCategories [.format])).without (shown.union isBlank)

/-- Characters that identifiers never hold. -/
def patternCharacter : CharSet := patternSyntax.toSet.union patternWhiteSpace.toSet

/-- Characters that may start identifiers. -/
def idStart : CharSet :=
  ((inCategories (letters ++ [.letterNumber])).union otherIdStart.toSet).without patternCharacter

/-- Characters that identifiers may hold. -/
def idContinue : CharSet :=
  let categories := [.nonspacingMark, .spacingMark, .decimalNumber, .connectorPunctuation]
  idStart.union (((inCategories categories).union otherIdContinue.toSet).without patternCharacter)

/-- Characters that may start identifiers however these are normalised. -/
def xidStart : CharSet := idStart.without unstableIdStart.toSet

/-- Characters that identifiers may hold however these are normalised. -/
def xidContinue : CharSet := idContinue.without unstableIdContinue.toSet

end TokenGuard.Unicode
