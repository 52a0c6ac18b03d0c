import EscapeAudit.Text.CaseTable
import EscapeAudit.Text.Ranges

/-!
# Lower case

The full lower-case form of a text.  Every letter with a lower-case letter takes it, with two rules
beyond the table.

* The capital I with a dot, U+0130, becomes two characters, `i` and the combining dot U+0307.
* The capital sigma, U+03A3, becomes the final form U+03C2 at the end of a word and U+03C3
  elsewhere.  It ends a word when a cased letter stands before it and none after it, where
  characters with the property Case_Ignorable are skipped on both sides.
-/

namespace EscapeAudit.Text

/-- The property Cased: letters with an upper and a lower form, and their kin. -/
def isCased (c : Char) : Bool :=
  c.isAlpha || (128 ≤ c.toNat && inRanges casedRanges c.toNat)

/-- The property Case_Ignorable: marks and punctuation that do not end a word. -/
def isCaseIgnorable (c : Char) : Bool :=
  inRanges caseIgnorableRanges c.toNat

/-- Whether the first character that counts is cased. -/
def meetsCased (cs : List Char) : Bool :=
  match cs.dropWhile isCaseIgnorable with
  | [] => false
  | c :: _ => isCased c

/-- The lower-case form of one character, away from the rule for sigma. -/
def lowerChar (c : Char) : List Char :=
  let n := c.toNat
  if n < 128 then [c.toLower]
  else if n == 0x130 then ['i', '\u0307']
  else [Char.ofNat (lowerNumber n)]

/-- The lower-case form of a capital sigma between the characters before it, nearest first, and
the characters after it. -/
def lowerSigma (before after : List Char) : Char :=
  if meetsCased before && !meetsCased after then 'ς' else 'σ'

/-- Walks over the text.  `before` holds what was passed, nearest first, and `done` the result so
far, last first. -/
def lowerFrom (before : List Char) : List Char → (done : List Char) → List Char
  | [], done => done.reverse
  | c :: cs, done =>
    if c == 'Σ' then lowerFrom (c :: before) cs (lowerSigma before cs :: done)
    else lowerFrom (c :: before) cs ((lowerChar c).reverse ++ done)

/-- The full lower-case form of a text. -/
def lowercase (text : String) : String :=
  String.ofList (lowerFrom [] text.toList [])

end EscapeAudit.Text
