import EscapeAudit.Toml.Blank

/-!
# Quoted texts

A text stands between double quotes, where a backslash begins an escape, or between single quotes,
where every character stands for itself.  Between three quotes it may run over several lines.  A
line end right behind the opening quotes is dropped, every other one is read as a line feed, and
up to two quotes may stand right before the closing ones.
-/

namespace EscapeAudit.Toml

open Reader

/-- Characters that stand for themselves between double quotes. -/
def isBasicChar (c : Char) : Bool := isLineChar c && c != '"' && c != '\\'

/-- Characters that stand for themselves between single quotes. -/
def isLiteralChar (c : Char) : Bool := isLineChar c && c != '\''

/-- The value of a hexadecimal digit. -/
def hexValue? (c : Char) : Option Nat :=
  if c.isDigit then some (c.toNat - 0x30)
  else if 'a' ≤ c && c ≤ 'f' then some (c.toNat - 0x57)
  else if 'A' ≤ c && c ≤ 'F' then some (c.toNat - 0x37)
  else none

/-- Whether a character is a hexadecimal digit. -/
def isHexDigit (c : Char) : Bool := (hexValue? c).isSome

/-- The character with a code point, if it is one. -/
def charOf? (n : Nat) : Option Char := if n.isValidChar then some (Char.ofNat n) else none

/-- Takes the code point of a character in a given number of digits. -/
def codePoint (digits : Nat) : Reader Char := do
  let ds ← times isHexDigit digits
  let n := ds.foldl (fun n d => 16 * n + (hexValue? d).getD 0) 0
  match charOf? n with
  | some c => return c
  | none => failure

/-- Takes what stands behind the backslash of an escape. -/
def escaped : Reader Char := do
  match ← one fun _ => true with
  | 'b' => return '\x08'
  | 'f' => return '\x0c'
  | 'n' => return '\n'
  | 'r' => return '\r'
  | 't' => return '\t'
  | '\\' => return '\\'
  | '"' => return '"'
  | 'u' => codePoint 4
  | 'U' => codePoint 8
  | _ => failure

/-- Takes a text between double quotes on one line. -/
def basicString : Reader String := do
  exactly "\""
  let cs ← many (one isBasicChar <|> (do exactly "\\"; escaped))
  exactly "\""
  return String.ofList cs

/-- Takes a text between single quotes on one line. -/
def literalString : Reader String := do
  exactly "'"
  let cs ← run isLiteralChar
  exactly "'"
  return String.ofList cs

/-- Takes a backslash at the end of a line with all blanks and line ends behind it. -/
def escapedNewline : Reader Unit := do
  exactly "\\"
  blanks
  newline
  let _ ← many (newline <|> (do let _ ← one isBlankChar))

/-- Takes one or two quotes that do not close the text. -/
def innerQuotes (quote : Char) : Reader (List Char)
  | a :: b :: cs =>
    if a != quote then none
    else if b != quote then some ([a], b :: cs)
    else match cs with
      | c :: cs => if c != quote then some ([a, b], c :: cs) else none
      | [] => none
  | _ => none

/-- Takes the closing quotes of a text over several lines, with the quotes that belong to the
text. -/
def closingQuotes (quote : Char) : Reader (List Char) := do
  let _ ← times (· == quote) 3
  let first ← optional (one (· == quote))
  match first with
  | none => return []
  | some _ =>
    match ← optional (one (· == quote)) with
    | none => return [quote]
    | some _ => return [quote, quote]

/-- Takes a part of a text between three double quotes. -/
def multilineBasicPart : Reader (List Char) :=
  (do return [← one isBasicChar]) <|>
  (do escapedNewline; return []) <|>
  (do exactly "\\"; return [← escaped]) <|>
  (do newline; return ['\n']) <|>
  innerQuotes '"'

/-- Takes a part of a text between three single quotes. -/
def multilineLiteralPart : Reader (List Char) :=
  (do return [← one isLiteralChar]) <|>
  (do newline; return ['\n']) <|>
  innerQuotes '\''

/-- Takes a text between three quotes, given its parts. -/
def multilineString (quote : Char) (part : Reader (List Char)) : Reader String := do
  let _ ← times (· == quote) 3
  let _ ← optional newline
  let parts ← many part
  let rest ← closingQuotes quote
  return String.ofList (parts.flatten ++ rest)

/-- Takes a quoted text. -/
def quotedString : Reader String :=
  multilineString '"' multilineBasicPart <|>
  basicString <|>
  multilineString '\'' multilineLiteralPart <|>
  literalString

end EscapeAudit.Toml
