import EscapeAudit.Decimal.Fixed
import EscapeAudit.Text.Basic

/-!
# JSON texts

The values that reports and structured events are made of, and their two texts: on one line, and
over several lines with two spaces for each level.  The fields of an object keep their order.
-/

namespace EscapeAudit

/-- A JSON value. -/
inductive Json where
  /-- A truth value. -/
  | bool (b : Bool)
  /-- A natural number. -/
  | nat (n : Nat)
  /-- A number given by its text. -/
  | number (text : String)
  /-- A string. -/
  | string (s : String)
  /-- A list of values. -/
  | array (items : List Json)
  /-- Named values in order. -/
  | object (fields : List (String × Json))

namespace Json

/-- A digit of a hexadecimal number. -/
def hexDigit (n : Nat) : Char := Nat.digitChar n

/-- One character inside a string: quotes, backslashes and controls are escaped. -/
def escapeChar (c : Char) : List Char :=
  if c == '"' then ['\\', '"']
  else if c == '\\' then ['\\', '\\']
  else if c == '\n' then ['\\', 'n']
  else if c == '\r' then ['\\', 'r']
  else if c == '\t' then ['\\', 't']
  else if c == '\x08' then ['\\', 'b']
  else if c == '\x0c' then ['\\', 'f']
  else if c.toNat < 0x20 then
    ['\\', 'u', '0', '0', hexDigit (c.toNat / 16), hexDigit (c.toNat % 16)]
  else [c]

/-- A string between quotes. -/
def quote (s : String) : String :=
  String.ofList ('"' :: (s.toList.flatMap escapeChar ++ ['"']))

mutual

/-- The text on one line. -/
def compact : Json → String
  | bool b => if b then "true" else "false"
  | nat n => toString n
  | number text => text
  | string s => quote s
  | array items => "[" ++ compactItems items ++ "]"
  | object fields => "\x7b" ++ compactFields fields ++ "\x7d"

/-- Items on one line. -/
def compactItems : List Json → String
  | [] => ""
  | [v] => compact v
  | v :: vs => compact v ++ "," ++ compactItems vs

/-- Fields on one line. -/
def compactFields : List (String × Json) → String
  | [] => ""
  | [(k, v)] => quote k ++ ":" ++ compact v
  | (k, v) :: fs => quote k ++ ":" ++ compact v ++ "," ++ compactFields fs

end

/-- A new line at a level. -/
def newLine (level : Nat) : String := "\n" ++ Text.replicate (2 * level) ' '

mutual

/-- The text over several lines, inside `level` levels. -/
def prettyAt (level : Nat) : Json → String
  | bool b => if b then "true" else "false"
  | nat n => toString n
  | number text => text
  | string s => quote s
  | array [] => "[]"
  | array items => "[" ++ prettyItems (level + 1) items ++ newLine level ++ "]"
  | object [] => "\x7b\x7d"
  | object fields => "\x7b" ++ prettyFields (level + 1) fields ++ newLine level ++ "\x7d"

/-- Items, each on a line of its own. -/
def prettyItems (level : Nat) : List Json → String
  | [] => ""
  | [v] => newLine level ++ prettyAt level v
  | v :: vs => newLine level ++ prettyAt level v ++ "," ++ prettyItems level vs

/-- Fields, each on a line of its own. -/
def prettyFields (level : Nat) : List (String × Json) → String
  | [] => ""
  | [(k, v)] => newLine level ++ quote k ++ ": " ++ prettyAt level v
  | (k, v) :: fs =>
    newLine level ++ quote k ++ ": " ++ prettyAt level v ++ "," ++ prettyFields level fs

end

/-- The text over several lines. -/
def pretty (v : Json) : String := prettyAt 0 v

end Json

end EscapeAudit
