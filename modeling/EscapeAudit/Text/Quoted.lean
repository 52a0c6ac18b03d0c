import EscapeAudit.Text.Printable

/-!
# Quoted text

A text between double quotes in which every character can be seen.  The quote and the backslash are
written behind a backslash, NUL, tab, line feed and carriage return by a letter, and every other
character without a picture of its own by its number in hexadecimal digits between braces.
-/

namespace EscapeAudit.Text

/-- The hexadecimal digits of a number, lower case and without leading zeros. -/
def hexDigits (n : Nat) : List Char :=
  Nat.toDigits 16 n

/-- One character inside the quotes. -/
def quoteChar (c : Char) : List Char :=
  if c == '"' then ['\\', '"']
  else if c == '\\' then ['\\', '\\']
  else if c == '\n' then ['\\', 'n']
  else if c == '\r' then ['\\', 'r']
  else if c == '\t' then ['\\', 't']
  else if c == '\x00' then ['\\', '0']
  else if hasOwnPicture c then [c]
  else ['\\', 'u', '{'] ++ hexDigits c.toNat ++ ['}']

/-- The text between quotes. -/
def quoted (text : String) : String :=
  String.ofList ('"' :: (text.toList.flatMap quoteChar ++ ['"']))

/-- A text that may be missing: `Some("…")` or `None`. -/
def quotedOption : Option String → String
  | some text => "Some(" ++ quoted text ++ ")"
  | none => "None"

end EscapeAudit.Text
