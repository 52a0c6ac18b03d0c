import EscapeAudit.Toml.Number
import EscapeAudit.Toml.Section

/-!
# Documents

A document is a sequence of lines: blank, a comment, a header, or a key with a value.  A header in
single brackets names the section of the keys behind it, and one in double brackets begins another
section of a series.  Lists may run over several lines, and tables in braces stand on one line.

Values are nested less than eighty deep, and a key has less than eighty parts.
-/

namespace EscapeAudit.Toml

open Reader

/-- The number of levels and of parts that stays unreached. -/
def nestingLimit : Nat := 80

/-- Characters of a key without quotes. -/
def isKeyChar (c : Char) : Bool := c.isAlphanum || c == '-' || c == '_'

/-- Takes one part of a key. -/
def keyPart : Reader String :=
  basicString <|>
  literalString <|>
  (do
    let first ← one isKeyChar
    return String.ofList (first :: (← run isKeyChar)))

/-- Takes a key as the list of its parts. -/
def key : Reader (List String) := do
  let parts ← separated (do blanks; let part ← keyPart; blanks; return part) (exactly ".")
  guard (parts.length < nestingLimit)
  return parts

/-- Takes the items of a list, given a reader of values. -/
def listItems (value : Reader Datum) : Reader (List Datum) := do
  match ← optional (separated (do gap; let d ← value; gap; return d) (exactly ",")) with
  | none => return []
  | some items =>
    let _ ← optional (exactly ",")
    return items

/-- Takes a list, given a reader of values. -/
def list (value : Reader Datum) : Reader Datum := do
  exactly "["
  let items ← listItems value
  gap
  exactly "]"
  return .list items

/-- Takes a key with its value, given a reader of values. -/
def pair (value : Reader Datum) : Reader (List String × Datum) := do
  let path ← key
  exactly "="
  blanks
  return (path, ← value)

/-- Takes a table in braces, given a reader of values. -/
def inlineTable (value : Reader Datum) : Reader Datum := do
  exactly "\x7b"
  let pairs ← optional (separated (do let p ← pair value; blanks; return p) (exactly ","))
  blanks
  exactly "\x7d"
  let filled := (pairs.getD []).foldlM
    (fun s (path, d) => Section.insert? d false path s) Section.empty
  match filled with
  | some s => return s.datum
  | none => failure

/-- Takes a value, given a reader of the values inside it if there may be some. -/
def valueOver (inner : Option (Reader Datum)) : Reader Datum := do
  match ← next with
  | some '"' | some '\'' => return .text (← quotedString)
  | some '[' =>
    match inner with
    | some value => list value
    | none => failure
  | some '\x7b' =>
    match inner with
    | some value => inlineTable value
    | none => failure
  | some 't' => exactly "true"; return .flag true
  | some 'f' => exactly "false"; return .flag false
  | _ => (do dateTime; return .date) <|> (do number; return .number)

/-- Takes a value of at most `depth` levels. -/
def value : (depth : Nat) → Reader Datum
  | 0 => valueOver none
  | depth + 1 => valueOver (some (value depth))

/-- A document under construction. -/
structure State where
  /-- The keys so far. -/
  root : Section
  /-- The parts of the last header. -/
  header : List String

/-- Takes a header. -/
def headerLine (s : State) : Reader State := do
  let series := (← optional (exactly "[[")).isSome
  unless series do exactly "["
  let path ← key
  exactly (if series then "]]" else "]")
  lineTrailing
  let last := path.getLast?.getD ""
  let change := if series then Section.openNext? last else Section.open? last
  match Section.update? change path.dropLast s.root with
  | some root => return ⟨root, path⟩
  | none => failure

/-- Takes a key with its value. -/
def keyLine (s : State) : Reader State := do
  let (path, d) ← pair (value (nestingLimit - 1))
  lineTrailing
  match Section.update? (Section.insert? d false path) s.header s.root with
  | some root => return { s with root := root }
  | none => failure

/-- Takes one line. -/
def line (s : State) : Reader State := do
  match ← next with
  | some '#' => comment; lineEnd; return s
  | some '[' => headerLine s
  | some '\n' | some '\r' => newline; return s
  | _ => keyLine s

/-- Takes lines up to the end of the text, at most `bound` of them. -/
def lines : (bound : Nat) → State → Reader State
  | 0, s => do
    guard (← atEnd)
    return s
  | bound + 1, s => do
    blanks
    if ← atEnd then return s
    else lines bound (← line s)

/-- The table that a text stands for. -/
def parse? (text : String) : Option Datum :=
  let cs := match text.toList with
    | '\uFEFF' :: cs => cs
    | cs => cs
  (lines (cs.length + 1) ⟨.empty, []⟩ cs).map fun (s, _) => s.root.datum

end EscapeAudit.Toml
