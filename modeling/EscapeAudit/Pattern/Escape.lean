import EscapeAudit.Pattern.Reader

/-!
# Escapes

A backslash makes a character of a pattern stand for itself, or for a character that is written by
its number, or for a set of characters, or for a test that takes no character.
-/

namespace EscapeAudit

open PatternReader

/-- What an escape can stand for. -/
inductive Escaped where
  /-- A character. -/
  | literal (l : Literal)
  /-- A set given by a property. -/
  | property (p : Property)
  /-- A set with a letter of its own. -/
  | shorthand (s : Shorthand)
  /-- A test that takes no character. -/
  | look (span : PatternSpan) (kind : LookNode)
  deriving Repr

namespace Escaped

/-- The piece of the text of an escape. -/
def span : Escaped → PatternSpan
  | literal l => l.span
  | property p => p.span
  | shorthand s => s.span
  | look s _ => s

/-- The pattern that an escape stands for. -/
def toNode : Escaped → PatternNode
  | literal l => .literal l
  | property p => .property p
  | shorthand s => .shorthand s
  | look s kind => .look s kind

/-- The value of a hexadecimal digit. -/
def digitValue? (c : Char) : Option Nat :=
  if '0' ≤ c && c ≤ '9' then some (c.toNat - '0'.toNat)
  else if 'a' ≤ c && c ≤ 'f' then some (c.toNat - 'a'.toNat + 10)
  else if 'A' ≤ c && c ≤ 'F' then some (c.toNat - 'A'.toNat + 10)
  else none

/-- The character with a number, if there is one. -/
def charOf? (n : Nat) : Option Char :=
  if h : n.isValidChar then some (Char.ofNatAux n h) else none

/-- The character with a number, or a problem with its digits. -/
def charAt (digits : PatternSpan) (n : Nat) : PatternReader Char :=
  match charOf? n with
  | some c => return c
  | none => fail .hexInvalid digits

/-- Reads a hexadecimal digit. -/
def readDigit : PatternReader Nat := do
  match (← next).bind digitValue? with
  | some d => return d
  | none => fail .hexInvalidDigit (← nextSpan)

/-- Reads so many more digits of a number, and goes on behind the last one. -/
def readDigits : (count : Nat) → (value : Nat) → PatternReader Nat
  | 0, value => return value
  | count + 1, value => do
    let value := 16 * value + (← readDigit)
    let behind ← takeAndSkip
    if behind.isNone && count != 0 then fail .escapeUnexpectedEnd (← point)
    readDigits count value

/-- Reads the digits of a number up to the closing brace, as the number of digits and their value.
`fuel` bounds their number. -/
def readDigitsToBrace (brace : PatternPlace) : (fuel : Nat) → (count value : Nat) →
    PatternReader (Nat × Nat)
  | 0, count, value => return (count, value)
  | fuel + 1, count, value => do
    match ← takeAndSkip with
    | none => fail .escapeUnexpectedEnd (← since brace)
    | some '}' => return (count, value)
    | some _ => readDigitsToBrace brace fuel (count + 1) (16 * value + (← readDigit))

/-- Reads a character that is written by its number in braces. -/
def readBracedHex (start : PatternPlace) : PatternReader Escaped := do
  let brace ← nextSpan
  let (count, value) ← readDigitsToBrace brace.start (← get).rest.length 0 0
  let digits ← since brace.stop
  let _ ← takeAndSkip
  if count == 0 then fail .hexEmpty (← since brace.start)
  let c ← charAt digits value
  return .literal ⟨← since start, c, false⟩

/-- Reads a character that is written by its number, behind the letter that says how many digits
there are. -/
def readHex (start : PatternPlace) (count : Nat) : PatternReader Escaped := do
  match ← takeAndSkip with
  | none => fail .escapeUnexpectedEnd (← point)
  | some '{' => readBracedHex start
  | some _ =>
    let first ← here
    let value ← readDigits count 0
    let c ← charAt (← since first) value
    return .literal ⟨← since start, c, count == 2⟩

/-- Reads the characters up to the closing brace.  `fuel` bounds their number. -/
def readToBrace : (fuel : Nat) → (text : List Char) → PatternReader (List Char)
  | 0, text => return text.reverse
  | fuel + 1, text => do
    match ← takeAndSkip with
    | none => fail .escapeUnexpectedEnd (← point)
    | some '}' => return text.reverse
    | some c => readToBrace fuel (c :: text)

/-- Splits a text at the first piece that is equal to a given one. -/
def splitOnce? (separator : List Char) : (text : List Char) → Option (List Char × List Char)
  | [] => none
  | c :: cs =>
    match Text.dropLeading? separator (c :: cs) with
    | some behind => some ([], behind)
    | none => (splitOnce? separator cs).map fun (front, behind) => (c :: front, behind)

/-- A property by the text of its name and the text of its value. -/
def valued (texts : List Char × List Char) : PropertyName :=
  .valued (String.ofList texts.1) (String.ofList texts.2)

/-- The property that a text in braces asks for, and whether all characters without it are meant. -/
def propertyName (text : List Char) : PropertyName × Bool :=
  match splitOnce? ['!', '='] text, (splitOnce? [':'] text).or (splitOnce? ['='] text) with
  | some texts, _ => (valued texts, true)
  | none, some texts => (valued texts, false)
  | none, none => (.plain (String.ofList text), false)

/-- Reads the name of a property, behind the letter that asks for one. -/
def readProperty (start : PatternPlace) (negated : Bool) : PatternReader Escaped := do
  match ← takeAndSkip with
  | none => fail .escapeUnexpectedEnd (← point)
  | some '{' =>
    let (name, unequal) := propertyName (← readToBrace (← get).rest.length [])
    take
    return .property ⟨← since start, negated != unequal, name⟩
  | some '\\' => fail .propertyInvalid (← nextSpan)
  | some c =>
    let _ ← takeAndSkip
    return .property ⟨← since start, negated, .plain (String.singleton c)⟩

/-- The set with a letter of its own.  An upper case letter means all other characters. -/
def shorthand? : Char → Option (Bool × ShorthandKind)
  | 'd' => some (false, .digit)
  | 's' => some (false, .space)
  | 'w' => some (false, .word)
  | 'D' => some (true, .digit)
  | 'S' => some (true, .space)
  | 'W' => some (true, .word)
  | _ => none

/-- The character that a letter behind a backslash stands for.  What is no letter and no digit of
ASCII stands for itself, but for the two signs that stand for tests. -/
def plain? : Char → Option Char
  | 'a' => some (Char.ofNat 0x07)
  | 'f' => some (Char.ofNat 0x0C)
  | 't' => some '\t'
  | 'n' => some '\n'
  | 'r' => some '\r'
  | 'v' => some (Char.ofNat 0x0B)
  | '<' | '>' => none
  | c => if c.toNat < 0x80 && !c.isAlphanum then some c else none

/-- The test that a sign behind a backslash stands for. -/
def look? : Char → Option LookNode
  | 'A' => some .startText
  | 'z' => some .endText
  | 'b' => some .boundary
  | 'B' => some .noBoundary
  | '<' => some .wordStart
  | '>' => some .wordEnd
  | _ => none

/-- The tests with a name in braces. -/
def namedLook? : String → Option LookNode
  | "start" => some .wordStart
  | "end" => some .wordEnd
  | "start-half" => some .wordStartHalf
  | "end-half" => some .wordEndHalf
  | _ => none

/-- Whether a character can stand in the name of a test. -/
def isNameChar (c : Char) : Bool := c.isAlpha || c == '-'

/-- Reads the name of a test up to a character that cannot stand in it.  `fuel` bounds its
length. -/
def readName : (fuel : Nat) → (name : List Char) → PatternReader String
  | 0, name => return String.ofList name.reverse
  | fuel + 1, name => do
    match ← next with
    | some c =>
      if isNameChar c then
        let _ ← takeAndSkip
        readName fuel (c :: name)
      else return String.ofList name.reverse
    | none => return String.ofList name.reverse

/-- Reads the name in braces behind `\b`.  If what stands in the braces cannot be a name, they are
left alone, because they may say how often to repeat. -/
def readBoundary (start : PatternPlace) : PatternReader LookNode := do
  let before ← get
  if before.rest.head? != some '{' then return .boundary
  match ← takeAndSkip with
  | none => fail .boundaryUnexpectedEnd (← since start)
  | some c =>
    if isNameChar c then
      let first ← here
      let name ← readName (← get).rest.length []
      if (← next) != some '}' then fail .boundaryUnclosed (← since before.here)
      let contents ← since first
      take
      match namedLook? name with
      | some kind => return kind
      | none => fail .boundaryUnrecognized contents
    else
      set before
      return .boundary

/-- Reads an escape of a single character. -/
def readSingle (start : PatternPlace) (c : Char) : PatternReader Escaped := do
  take
  match plain? c, look? c with
  | some d, _ => return .literal ⟨← since start, d, false⟩
  | none, some .boundary =>
    let kind ← readBoundary start
    return .look (← since start) kind
  | none, some kind => return .look (← since start) kind
  | none, none => fail .escapeUnrecognized (← since start)

/-- Reads an escape. -/
def read : PatternReader Escaped := do
  let start ← here
  take
  match ← next with
  | none => fail .escapeUnexpectedEnd (← since start)
  | some 'x' => readHex start 2
  | some 'u' => readHex start 4
  | some 'U' => readHex start 8
  | some 'p' => readProperty start false
  | some 'P' => readProperty start true
  | some c =>
    if c.isDigit then fail .backreference ⟨start, (← nextSpan).stop⟩
    match shorthand? c with
    | some (negated, kind) =>
      take
      return .shorthand ⟨← since start, negated, kind⟩
    | none => readSingle start c

end Escaped

end EscapeAudit
