/-!
# Characters of code

The classes of characters that the scanners of code ask for.  A letter of any script outside ASCII
may stand in a name, while blanks and digits are ASCII only.
-/

namespace EscapeAudit.Lexer

/-- The blanks of code: space, tab, line feed, vertical tab, form feed and carriage return. -/
def isSpace (c : Char) : Bool :=
  c == ' ' || c == '\t' || c == '\n' || c == '\r' || c == '\x0b' || c == '\x0c'

/-- Space and tab. -/
def isPadding (c : Char) : Bool :=
  c == ' ' || c == '\t'

/-- A character with which a name may begin. -/
def isNameStart (c : Char) : Bool :=
  c.isAlpha || c == '_' || 128 ≤ c.toNat

/-- A character with which a name may go on. -/
def isNamePart (c : Char) : Bool :=
  isNameStart c || c.isDigit

/-- A digit, or the separator between digits. -/
def isDigitOrSeparator (c : Char) : Bool :=
  c.isDigit || c == '_'

/-- Whether the first character exists and passes the test. -/
def startsWith (test : Char → Bool) : List Char → Bool
  | [] => false
  | c :: _ => test c

/-- The length of the characters in front that pass the test. -/
def runLength (test : Char → Bool) (cs : List Char) : Nat :=
  (cs.takeWhile test).length

/-- The length of one blank in front, where a carriage return and a line feed are one blank. -/
def leadingSpace? : List Char → Option Nat
  | '\r' :: '\n' :: _ => some 2
  | c :: _ => if isSpace c then some 1 else none
  | [] => none

/-- The length of a line end in front, 0 when there is none. -/
def lineEndLength : List Char → Nat
  | '\r' :: '\n' :: _ => 2
  | '\n' :: _ => 1
  | _ => 0

end EscapeAudit.Lexer
