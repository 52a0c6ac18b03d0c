import EscapeAudit.Text.CategoryTable
import EscapeAudit.Text.PropertyTable

/-!
# Properties of characters

The properties of characters that follow from their categories and from the properties that are
kept in tables.  All are those of the sixteenth edition of the character database, but for
`letters` and `numbers` of a given edition.
-/

namespace EscapeAudit.Text.CharSet

/-- The characters of some categories. -/
def ofCategories (categories : List Category) : CharSet := Category.charsAll .sixteenth categories

/-- The characters of ASCII. -/
def ascii : CharSet := range 0 0x7F

/-- The characters that stand for something. -/
def assigned : CharSet := (Category.unassigned .sixteenth).compl

/-- The characters in lower case. -/
def lowercase : CharSet := (ofCategories [.ll]).union otherLowercase

/-- The characters in upper case. -/
def uppercase : CharSet := (ofCategories [.lu]).union otherUppercase

/-- The characters with a case. -/
def cased : CharSet := unions [lowercase, uppercase, ofCategories [.lt]]

/-- The letters and the numbers made of letters of an edition, and the alphabetic characters of
other categories. -/
def letters (edition : Edition) : CharSet :=
  let others := match edition with
    | .sixteenth => otherAlphabetic
    | .seventeenth => otherAlphabetic.union laterAlphabetic
  (Category.charsAll edition (.nl :: Category.letters)).union others

/-- The numbers of an edition. -/
def numbers (edition : Edition) : CharSet := Category.charsAll edition Category.numbers

/-- The alphabetic characters. -/
def alphabetic : CharSet := letters .sixteenth

/-- The decimal digits. -/
def digit : CharSet := ofCategories [.nd]

/-- The characters of words: alphabetic characters, marks, digits, joining punctuation, and the two
characters that control joining. -/
def word : CharSet :=
  unions [alphabetic, ofCategories (.nd :: .pc :: Category.marks), joinControl]

/-- The punctuation between the letters of a word. -/
def midLetter : CharSet := .ofText "3A B7 387 55F 5F4 2027 FE13 FE55 FF1A"

/-- The punctuation between the letters of a word or the digits of a number. -/
def midNumLet : CharSet := .ofText "2E 2018-2019 2024 FE52 FF07 FF0E"

/-- The characters that do not matter for the case of those around them. -/
def caseIgnorable : CharSet :=
  unions [ofCategories [.mn, .me, .cf, .lm, .sk], midLetter, midNumLet, single '\'']

/-- The characters that change in some case. -/
def changesWhenCasemapped : CharSet :=
  unions [changesWhenLowercased, changesWhenUppercased, changesWhenTitlecased]

/-- The characters of mathematics. -/
def math : CharSet := (ofCategories [.sm]).union otherMath

/-- The hexadecimal digits, those of full width too. -/
def hexDigit : CharSet := asciiHexDigit.union (.ofText "FF10-FF19 FF21-FF26 FF41-FF46")

/-- The characters that no name has, because they have a meaning in patterns. -/
def patternOnly : CharSet := patternSyntax.union patternWhiteSpace

/-- The characters that a name can begin with. -/
def idStart : CharSet :=
  ((ofCategories (.nl :: Category.letters)).union otherIdStart).minus patternOnly

/-- The characters of names. -/
def idContinue : CharSet :=
  (unions [idStart, ofCategories [.mn, .mc, .nd, .pc], otherIdContinue]).minus patternOnly

/-- The characters whose compatible forms are no names. -/
def unstable : CharSet := .ofText "37A 309B-309C FC5E-FC63 FDFA-FDFB FE70-FE7E/2"

/-- The characters that a name can begin with, whatever form its characters are brought into. -/
def xidStart : CharSet := idStart.minus (unstable.union (.ofText "E33 EB3 FF9E-FF9F"))

/-- The characters of names, whatever form they are brought into. -/
def xidContinue : CharSet := idContinue.minus unstable

/-- The characters that attach to the one before. -/
def graphemeExtend : CharSet := (ofCategories [.me, .mn]).union otherGraphemeExtend

/-- The characters that others can attach to. -/
def graphemeBase : CharSet :=
  (unions [ofCategories (.zl :: .zp :: Category.others), graphemeExtend]).compl

/-- The decimal digits of ASCII. -/
def asciiDigit : CharSet := range 0x30 0x39

/-- The letters of ASCII. -/
def asciiLetter : CharSet := (range 0x41 0x5A).union (range 0x61 0x7A)

/-- The characters of words in ASCII. -/
def asciiWord : CharSet := unions [asciiDigit, asciiLetter, single '_']

/-- The blank characters of ASCII. -/
def asciiBlank : CharSet := (range 0x09 0x0D).union (single ' ')

end EscapeAudit.Text.CharSet
