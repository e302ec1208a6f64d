import TokenGuard.Unicode.Derived
import TokenGuard.Unicode.Script

/-! Classes of characters by which a text is broken into clusters, words and sentences. -/

namespace TokenGuard.Unicode

/-- The signs before numbers that belong to the number behind them. -/
def numberSigns : CharSet := fun c => prependedConcatenationMark.toSet c && c ≠ '\u070f'

/-- The characters of the script of a name. -/
def membersOf (name : String) : Runs := ((script? name.toList).map Script.members).getD []

/-- The script Katakana. -/
def katakana : Runs := membersOf "kana"

/-- The script Hiragana. -/
def hiragana : Runs := membersOf "hira"

/-- The script Hebrew. -/
def hebrew : Runs := membersOf "hebr"

/-! ## Clusters -/

/-- Consonants that are written before the cluster they belong to. -/
def consonantPrefixes : Runs := .ofText "D4E 1 10473 2 20D 1 56D 1 1 1 F8 1 49 6 2BC 1 1BB 1"

/-- Marks with room of their own that start a cluster. -/
def looseSpacingMarks : Runs := .ofText
  "102B 2 B 1 29 3 2 7 15 1 3 6 2 1 A 3 9C4 1 1 2 9016 1 1 1 6CA2 2"

/-- Consonants that start syllables of the Korean script. -/
def leadingJamo : Runs := .ofText "1100 60 9800 1D"

/-- Vowels of the Korean script, and what combines like them. -/
def vowelJamo : Runs := .ofText "1160 48 C608 17 959C 1 3 4"

/-- Consonants that end syllables of the Korean script. -/
def trailingJamo : Runs := .ofText "11A8 58 C5CB 31"

/-- Characters that go before the cluster they belong to. -/
def graphemePrepend : CharSet := prependedConcatenationMark.toSet.union consonantPrefixes.toSet

/-- Characters that extend a cluster. -/
def clusterExtend : CharSet := graphemeExtend.union emojiModifier.toSet

/-- Characters that stand alone. -/
def graphemeControl : CharSet := fun c =>
  let ignorable := category c == .unassigned && defaultIgnorable c
  (ignorable || inCategories [.lineSeparator, .paragraphSeparator, .control, .format] c) &&
    !(['\r', '\n', '\u200c', '\u200d'].contains c || prependedConcatenationMark.toSet c ||
      clusterExtend c)

/-- Marks with room of their own that stay in the cluster. -/
def clusterSpacingMark : CharSet := fun c =>
  ['\u0e33', '\u0eb3'].contains c ||
    (category c == .spacingMark && !looseSpacingMarks.toSet c && !clusterExtend c)

/-- Syllables of the Korean script, with or without a consonant at the end. -/
def koreanSyllable (closed : Bool) : CharSet := fun c =>
  0xAC00 ≤ c.toNat && c.toNat ≤ 0xD7A3 && ((c.toNat - 0xAC00) % 28 ≠ 0) == closed

/-- The classes by which clusters are found, with their names. -/
def graphemeBreaks : List (String × CharSet) :=
  [("cr", (· = '\r')), ("lf", (· = '\n')), ("cn control", graphemeControl),
    ("ex extend", clusterExtend), ("zwj", (· = '\u200d')),
    ("ri regionalindicator", regionalIndicator.toSet), ("pp prepend", graphemePrepend),
    ("sm spacingmark", clusterSpacingMark), ("l", leadingJamo.toSet), ("v", vowelJamo.toSet),
    ("t", trailingJamo.toSet), ("lv", koreanSyllable false), ("lvt", koreanSyllable true)]

/-! ## Words -/

/-- Signs that stand between letters of a word. -/
def midLetter : Runs := .ofText "3A 1 7C 1 2CF 1 1D7 1 94 1 1A32 1 DDEB 1 41 1 C4 1"

/-- Signs that stand between digits of a number. -/
def midNumber : Runs := .ofText "2C 1 E 1 342 1 20A 1 82 2 5E 1 18B 1 184B 1 DE0B 1 3 1 B7 1 E 1"

/-- Signs that stand between letters or digits. -/
def midNumberLetter : Runs := .ofText "2E 1 1FE9 2 A 1 DE2D 1 B4 1 6 1"

/-- Signs that join words and numbers. -/
def extendNumberLetter : Runs := .ofText "5F 1 1FCF 1 F 2 13 1 DDDE 2 18 3 EF 1"

/-- Blanks that keep together. -/
def wordSpace : Runs := .ofText "20 1 165F 1 97F 7 1 3 54 1 FA0 1"

/-- Signs that are used with the script Katakana. -/
def katakanaSigns : Runs := .ofText "3031 5 65 2 3 1 5B 1 CE73 1"

/-- Signs that count as letters of words. -/
def letterSigns : Runs := .ofText
  "2C2 4 C 6 6 2 5 7 1 1 1 11 25A 3 1 1 2B 1 68 1 11B 1 9FF8 F 9 2 67 2 3D0 1"

/-- Letters of scripts that do not part their words. -/
def unspacedLetters : Runs := .ofText
  "E01 30 1 2 C 7 3A 2 1 1 1 5 1 18 1 1 1 A 1 2 9 1 2 5 1 1 15 4 120 2B 14 1 10 6 4 4 3 1 3 2 7
   3 4 D C 1 6F1 34 23 1 4 1 173 1E 2 5 B 2C 4 1A 56 35 52 1 8F38 5 1 A A 5 61 17 3 1 3 32 1 1 3
   2 2 5 2 1 1 1 18 3 6C22 1B 25 7"

/-- Characters that extend a letter of a word. -/
def wordExtend : CharSet :=
  (graphemeExtend.union emojiModifier.toSet).union (inCategories [.spacingMark])

/-- Format characters inside words. -/
def wordFormat : CharSet := fun c =>
  category c == .format && !wordExtend c && !prependedConcatenationMark.toSet c &&
    !(['\u200b', '\u200c', '\u200d'].contains c)

/-- Letters of the script Katakana and what is used with it. -/
def wordKatakana : CharSet := katakana.toSet.union katakanaSigns.toSet

/-- Letters of the script Hebrew. -/
def hebrewLetter : CharSet := fun c => category c == .otherLetter && hebrew.toSet c

/-- Digits and the signs that belong to a number. -/
def wordNumeric : CharSet := fun c =>
  category c == .decimalNumber || ['\u066b', '\u19da'].contains c || numberSigns c

/-- Letters of words. -/
def wordLetter : CharSet := fun c =>
  letterSigns.toSet c ||
    (alphabetic c &&
      !(ideographic.toSet c || wordKatakana c || hiragana.toSet c || wordExtend c ||
        hebrewLetter c || unspacedLetters.toSet c))

/-- The classes by which words are found, with their names. -/
def wordBreaks : List (String × CharSet) :=
  [("cr", (· = '\r')), ("lf", (· = '\n')),
    ("nl newline", fun c => ['\x0b', '\x0c', '\x85', '\u2028', '\u2029'].contains c),
    ("extend", wordExtend), ("zwj", (· = '\u200d')), ("fo format", wordFormat),
    ("ri regionalindicator", regionalIndicator.toSet), ("ka katakana", wordKatakana),
    ("hl hebrewletter", hebrewLetter), ("le aletter", wordLetter),
    ("sq singlequote", (· = '\x27')), ("dq doublequote", (· = '"')),
    ("mb midnumlet", midNumberLetter.toSet),
    ("ml midletter", midLetter.toSet), ("mn midnum", midNumber.toSet), ("nu numeric", wordNumeric),
    ("ex extendnumlet", extendNumberLetter.toSet), ("wsegspace", wordSpace.toSet)]

/-! ## Sentences -/

/-- Signs that go on with a sentence. -/
def sentenceContinue : Runs := .ofText
  "2C 2 C 2 342 1 1DE 1 AE 2 1EA 1 1009 1 5 1 80A 2 FEC 1 CE0E 2 1 2 1C 2 1D 2 2 2 2 1 A 1 A8 2
   C 2 48 1"

/-- Signs that may end a sentence. -/
def fullStops : Runs := .ofText "2E 1 1FF5 1 DE2D 1 BB 1"

/-- Ornaments and signs that close what they surround. -/
def closingOrnaments : Runs := .ofText "275B 6 69F 2 4 3 2 1 1C86A 3"

/-- Small letters that no sentence is told apart by. -/
def georgian : Runs := .ofText "10D0 2B 2 3"

/-- Capitals that no sentence is told apart by. -/
def georgianCapitals : Runs := .ofText "1C90 2B 2 3"

/-- Characters that extend a character of a sentence. -/
def sentenceExtend : CharSet := fun c =>
  graphemeExtend c || category c == .spacingMark || c = '\u200d'

/-- Format characters inside sentences. -/
def sentenceFormat : CharSet := fun c =>
  category c == .format && !sentenceExtend c && !numberSigns c

/-- Blanks inside sentences. -/
def sentenceSpace : CharSet := fun c =>
  isBlank c && !(['\n', '\r', '\x85', '\u2028', '\u2029'].contains c)

/-- Small letters of sentences. -/
def sentenceLower : CharSet := fun c => lowercase c && !graphemeExtend c && !georgian.toSet c

/-- Capitals of sentences. -/
def sentenceUpper : CharSet := fun c =>
  (uppercase c || category c == .titlecaseLetter) && !georgianCapitals.toSet c

/-- Letters of sentences without case. -/
def sentenceLetter : CharSet := fun c =>
  c = '\u05f3' || (alphabetic c && !sentenceLower c && !sentenceUpper c && !sentenceExtend c)

/-- Digits and signs of numbers in sentences. -/
def sentenceNumeric : CharSet := fun c => wordNumeric c || c = '\u066c'

/-- Signs that end a sentence. -/
def sentenceTerm : CharSet := sentenceTerminal.toSet.without fullStops.toSet

/-- Brackets and quotation marks behind the end of a sentence. -/
def sentenceClose : CharSet := fun c =>
  ((quotationMark.toSet c && !(['\uff02', '\uff07'].contains c)) || inCategories brackets c ||
      closingOrnaments.toSet c) &&
    !(sentenceTerminal.toSet c || fullStops.toSet c)

/-- The classes by which sentences are found, with their names. -/
def sentenceBreaks : List (String × CharSet) :=
  [("cr", (· = '\r')), ("lf", (· = '\n')),
    ("se sep", fun c => ['\x85', '\u2028', '\u2029'].contains c), ("ex extend", sentenceExtend),
    ("fo format", sentenceFormat), ("sp", sentenceSpace), ("lo lower", sentenceLower),
    ("up upper", sentenceUpper), ("le oletter", sentenceLetter), ("nu numeric", sentenceNumeric),
    ("at aterm", fullStops.toSet), ("st sterm", sentenceTerm), ("cl close", sentenceClose),
    ("sc scontinue", sentenceContinue.toSet)]

end TokenGuard.Unicode
