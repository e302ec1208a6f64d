import TokenGuard.Unicode.Age
import TokenGuard.Unicode.Break

/-! Sets of characters by the names of properties and of their values, loosely compared. -/

namespace TokenGuard.Unicode

/-- The properties that a character has or lacks, with their names. -/
def binaryProperties : List (String × CharSet) :=
  [("asciihexdigit ahex", asciiHexDigit.toSet), ("alphabetic alpha", alphabetic),
    ("bidicontrol bidic", bidiControl.toSet), ("bidimirrored bidim", bidiMirrored.toSet),
    ("caseignorable ci", caseIgnorable), ("cased", cased),
    ("changeswhencasefolded cwcf", changesWhenCasefolded),
    ("changeswhencasemapped cwcm", changesWhenCasemapped),
    ("changeswhenlowercased cwl", changesWhenLowercased),
    ("changeswhentitlecased cwt", changesWhenTitlecased),
    ("changeswhenuppercased cwu", changesWhenUppercased), ("dash", dash.toSet),
    ("defaultignorablecodepoint di", defaultIgnorable), ("deprecated dep", deprecated.toSet),
    ("diacritic dia", diacritic.toSet), ("emoji", emoji.toSet),
    ("emojicomponent ecomp", emojiComponent.toSet), ("emojimodifier emod", emojiModifier.toSet),
    ("emojimodifierbase ebase", emojiModifierBase.toSet),
    ("emojipresentation epres", emojiPresentation.toSet),
    ("extendedpictographic extpict", extendedPictographic.toSet), ("extender ext", extender.toSet),
    ("graphemebase grbase", graphemeBase), ("graphemeextend grext", graphemeExtend),
    ("graphemelink grlink", graphemeLink.toSet), ("hexdigit hex", hexDigit.toSet),
    ("hyphen", hyphen.toSet), ("idsbinaryoperator idsb", idsBinaryOperator.toSet),
    ("idstrinaryoperator idst", idsTrinaryOperator.toSet),
    ("idsunaryoperator idsu", idsUnaryOperator.toSet),
    ("idcompatmathcontinue", idCompatMathContinue.toSet),
    ("idcompatmathstart", idCompatMathStart.toSet), ("idcontinue idc", idContinue),
    ("idstart ids", idStart), ("ideographic ideo", ideographic.toSet),
    ("joincontrol joinc", joinControl.toSet),
    ("logicalorderexception loe", logicalOrderException.toSet), ("lowercase lower", lowercase),
    ("math", math), ("modifiercombiningmark mcm", modifierCombiningMark.toSet),
    ("noncharactercodepoint nchar", noncharacter.toSet),
    ("otheralphabetic oalpha", otherAlphabetic.toSet),
    ("otherdefaultignorablecodepoint odi", otherDefaultIgnorable.toSet),
    ("othergraphemeextend ogrext", otherGraphemeExtend.toSet),
    ("otheridcontinue oidc", otherIdContinue.toSet), ("otheridstart oids", otherIdStart.toSet),
    ("otherlowercase olower", otherLowercase.toSet), ("othermath omath", otherMath.toSet),
    ("otheruppercase oupper", otherUppercase.toSet), ("patternsyntax patsyn", patternSyntax.toSet),
    ("patternwhitespace patws", patternWhiteSpace.toSet),
    ("prependedconcatenationmark pcm", prependedConcatenationMark.toSet),
    ("quotationmark qmark", quotationMark.toSet), ("radical", radical.toSet),
    ("regionalindicator ri", regionalIndicator.toSet),
    ("sentenceterminal sterm", sentenceTerminal.toSet), ("softdotted sd", softDotted.toSet),
    ("terminalpunctuation term", terminalPunctuation.toSet),
    ("unifiedideograph uideo", unifiedIdeograph.toSet), ("uppercase upper", uppercase),
    ("variationselector vs", variationSelector.toSet), ("whitespace wspace space", isBlank),
    ("xidcontinue xidc", xidContinue), ("xidstart xids", xidStart)]

/-- What a table holds under one of its names. -/
def named? {α : Type} (table : List (String × α)) (name : Text) : Option α :=
  (table.find? fun entry => (Text.words entry.1.toList).contains name).map Prod.snd

/-- The characters of a category, of a group of categories, or of all or those in use. -/
def categorySet? (name : Text) : Option CharSet :=
  if name = "any".toList then some fun _ => true
  else if name = "ascii".toList then some fun c => c.toNat < 0x80
  else if name = "assigned".toList then some (inCategories [.unassigned]).complement
  else (named? categoryNames name).map inCategories

/-- The characters of a script. -/
def scriptSet? (name : Text) : Option CharSet := (script? name).map Script.set

/-- Whether a name starts with a word that means nothing. -/
def startsWithIs : Text → Bool
  | i :: s :: _ => (i = 'i' || i = 'I') && (s = 's' || s = 'S')
  | _ => false

/-- A name as it is compared: in small letters, without blanks, underscores, hyphens and `is`. -/
def looseName (name : Text) : Text :=
  let marked := startsWithIs name
  let kept := (if marked then name.drop 2 else name).filter fun c =>
    c.toNat < 0x80 && !(c = ' ' || c = '_' || c = '-')
  let loose := kept.map Char.toLower
  -- The abbreviation of a comment is not the category that its last letter stands for.
  if marked && loose = ['c'] then "isc".toList else loose

/-- The characters that a single name stands for: a property, a category or a script. -/
def set? (name : Text) : Option CharSet :=
  let name := looseName name
  named? binaryProperties name <|> categorySet? name <|> scriptSet? name

/-- The properties with values, each with its names and the characters of a value. -/
def valueProperties : List (String × (Text → Option CharSet)) :=
  [("gc generalcategory", categorySet?), ("sc script", scriptSet?),
    ("scx scriptextensions", fun name => (script? name).map Script.extensions), ("age", ageSet?),
    ("gcb graphemeclusterbreak", named? graphemeBreaks), ("wb wordbreak", named? wordBreaks),
    ("sb sentencebreak", named? sentenceBreaks)]

/-- The characters for which a property has a value. -/
def valueSet? (property value : Text) : Option CharSet := do
  (← named? valueProperties (looseName property)) (looseName value)

end TokenGuard.Unicode
