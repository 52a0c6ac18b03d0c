import EscapeAudit.Toml.Reader

/-!
# Blanks, line ends and comments

A line ends in a line feed, with or without a carriage return before it.  A comment runs from `#`
to the end of its line and holds no control character but the tab.
-/

namespace EscapeAudit.Toml

open Reader

/-- Blanks inside a line. -/
def isBlankChar (c : Char) : Bool := c == ' ' || c == '\t'

/-- Characters beyond ASCII. -/
def isBeyondAscii (c : Char) : Bool := 0x80 ≤ c.toNat

/-- Characters that can stand in a line. -/
def isLineChar (c : Char) : Bool :=
  c == '\t' || (0x20 ≤ c.toNat && c.toNat ≤ 0x7e) || isBeyondAscii c

/-- Skips blanks. -/
def blanks : Reader Unit := do
  let _ ← run isBlankChar

/-- Takes the end of a line. -/
def newline : Reader Unit := exactly "\n" <|> exactly "\r\n"

/-- Takes a comment up to the end of its line. -/
def comment : Reader Unit := do
  exactly "#"
  let _ ← run isLineChar

/-- Takes the end of a line, or the end of the text. -/
def lineEnd : Reader Unit := do
  if ← atEnd then return () else newline

/-- Takes what may stand behind a value or a header: blanks, a comment, and the end of the line. -/
def lineTrailing : Reader Unit := do
  blanks
  let _ ← optional comment
  lineEnd

/-- Skips blanks, line ends and comments. -/
def gap : Reader Unit := do
  blanks
  let _ ← many (do
    let _ ← optional comment
    newline
    blanks)

end EscapeAudit.Toml
