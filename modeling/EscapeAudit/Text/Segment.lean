import EscapeAudit.Text.Property
import EscapeAudit.Text.ScriptTable

/-!
# Where texts can be cut

The character database divides the characters by what they do between the units of a text:
characters with their marks, words, and sentences.  Each list gives the classes of one division
with their names in lower case and without separators.  The characters that do nothing are in no
class.
-/

namespace EscapeAudit.Text.CharSet

/-- The characters of the script with a name. -/
def ofScript (name : String) : CharSet :=
  match scripts.find? fun script => script.names.contains name with
  | some script => script.chars
  | none => .empty

/-- The formats that do nothing to the characters around them.  Tags and the controls of joining
attach, and some signs belong to the digits behind them. -/
def quietFormats : CharSet :=
  (ofCategories [.cf]).minus
    (unions [prependedConcatenationMark, joinControl, range 0xE0020 0xE007F])

/-- The syllables of Hangul without a last consonant. -/
def openSyllables : CharSet := .ofText "AC00-D788/1C"

/-- The marks with a width that do not attach to the character before. -/
def spacingMarks : CharSet :=
  unions [((ofCategories [.mc]).minus graphemeExtend).minus
    (.ofText "102B-102C 1038 1062-1064 1067-106D 1083 1087-108C 108F 109A-109C 1A61 1A63-1A64
      AA7B AA7D 11720-11721"), .ofText "E33 EB3"]

/-- The classes between characters with their marks. -/
def graphemeBreaks : List (List String × CharSet) := [
  (["cr"], single '\r'),
  (["lf"], single '\n'),
  (["control", "cn"],
    (unions [ofCategories [.zl, .zp, .cc], quietFormats,
      (ofCategories [.cn]).inter defaultIgnorableCodePoint]).minus
      ((single '\r').union (single '\n'))),
  (["extend", "ex"], graphemeExtend.union emojiModifier),
  (["zwj"], range 0x200D 0x200D),
  (["regionalindicator", "ri"], regionalIndicator),
  (["prepend", "pp"],
    prependedConcatenationMark.union
      (.ofText "D4E 111C2-111C3 113D1 1193F 11941 11A3A 11A84-11A89 11D46 11F02")),
  (["spacingmark", "sm"], spacingMarks),
  (["l"], .ofText "1100-115F A960-A97C"),
  (["v"], .ofText "1160-11A7 D7B0-D7C6 16D63 16D67-16D6A"),
  (["t"], .ofText "11A8-11FF D7CB-D7FB"),
  (["lv"], openSyllables),
  (["lvt"], (range 0xAC00 0xD7A3).minus openSyllables)]

/-- The signs of Katakana, and the marks that are used between them. -/
def katakanaWords : CharSet :=
  (ofScript "katakana").union (.ofText "3031-3035 309B-309C 30A0 30FC FF70")

/-- The letters of Hebrew. -/
def hebrewLetters : CharSet := (ofScript "hebrew").inter (ofCategories [.lo])

/-- The marks inside of words. -/
def wordMarks : CharSet := unions [graphemeExtend, ofCategories [.mc], emojiModifier]

/-- The digits of words and the signs among them. -/
def wordDigits : CharSet :=
  digit.union (.ofText "600-605 66B 6DD 890-891 8E2 19DA 110BD 110CD")

/-- The letters of scripts that write no blanks between words. -/
def unspacedLetters : CharSet :=
  unions (["thai", "lao", "khmer", "myanmar", "taile", "newtailue", "taitham", "taiviet", "ahom",
    "hiragana"].map ofScript)

/-- The letters of words. -/
def wordLetters : CharSet :=
  (alphabetic.minus
    (unions [ideographic, katakanaWords, unspacedLetters, wordMarks, hebrewLetters])).union
    (.ofText "2C2-2C5 2D2-2D7 2DE-2DF 2E5-2EB 2ED 2EF-2FF 55A-55C 55E 58A 5F3 70F A708-A716
      A720-A721 A789-A78A AB5B")

/-- The classes between words. -/
def wordBreaks : List (List String × CharSet) := [
  (["cr"], single '\r'),
  (["lf"], single '\n'),
  (["newline", "nl"], .ofText "B-C 85 2028-2029"),
  (["extend"], wordMarks),
  (["zwj"], range 0x200D 0x200D),
  (["regionalindicator", "ri"], regionalIndicator),
  (["format", "fo"], quietFormats.minus (range 0x200B 0x200B)),
  (["katakana", "ka"], katakanaWords),
  (["hebrewletter", "hl"], hebrewLetters),
  (["aletter", "le"], wordLetters),
  (["singlequote", "sq"], single '\''),
  (["doublequote", "dq"], single '"'),
  (["midletter", "ml"], midLetter),
  (["midnumlet", "mb"], midNumLet),
  (["midnum", "mn"], .ofText "2C 3B 37E 589 60C-60D 66C 7F8 2044 FE50 FE54 FF0C FF1B"),
  (["numeric", "nu"], wordDigits),
  (["extendnumlet", "ex"], (ofCategories [.pc]).union (range 0x202F 0x202F)),
  (["wsegspace"], (ofCategories [.zs]).minus (.ofText "A0 2007 202F"))]

/-- The marks inside of sentences. -/
def sentenceMarks : CharSet := unions [graphemeExtend, ofCategories [.mc], range 0x200D 0x200D]

/-- The separators of sentences. -/
def sentenceSeparators : CharSet := (ofCategories [.zl, .zp]).union (range 0x85 0x85)

/-- The letters in lower case, but for those of Georgian. -/
def sentenceLower : CharSet :=
  lowercase.minus (sentenceMarks.union (.ofText "10D0-10FA 10FD-10FF"))

/-- The letters in upper and in title case, but for those of Georgian. -/
def sentenceUpper : CharSet :=
  (uppercase.union (ofCategories [.lt])).minus (.ofText "1C90-1CBA 1CBD-1CBF")

/-- The full stops. -/
def fullStops : CharSet := .ofText "2E 2024 FE52 FF0E"

/-- The brackets and quotes. -/
def closings : CharSet :=
  (unions [ofCategories [.ps, .pe, .pi, .pf], quotationMark,
    .ofText "275B-2760 2E00-2E01 2E06-2E08 2E0B 1F676-1F678"]).minus (.ofText "FF02 FF07")

/-- The classes between sentences. -/
def sentenceBreaks : List (List String × CharSet) := [
  (["cr"], single '\r'),
  (["lf"], single '\n'),
  (["sep", "se"], sentenceSeparators),
  (["extend", "ex"], sentenceMarks),
  (["format", "fo"], quietFormats.union (range 0x70F 0x70F)),
  (["sp"], whiteSpace.minus (sentenceSeparators.union ((single '\r').union (single '\n')))),
  (["lower", "lo"], sentenceLower),
  (["upper", "up"], sentenceUpper),
  (["oletter", "le"],
    (alphabetic.union (range 0x5F3 0x5F3)).minus
      (unions [sentenceLower, sentenceUpper, sentenceMarks])),
  (["numeric", "nu"], wordDigits.union (range 0x66C 0x66C)),
  (["aterm", "at"], fullStops),
  (["scontinue", "sc"],
    .ofText "2C-2D 3A-3B 37E 55D 60C-60D 7F8 1802 1808 2013-2014 3001 FE10-FE11 FE13-FE14 FE31-FE32
      FE50-FE51 FE54-FE55 FE58 FE63 FF0C-FF0D FF1A-FF1B FF64"),
  (["sterm", "st"], sentenceTerminal.minus fullStops),
  (["close", "cl"], closings)]

end EscapeAudit.Text.CharSet
