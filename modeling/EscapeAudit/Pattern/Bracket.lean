import EscapeAudit.Pattern.Escape

/-!
# Brackets

Brackets hold a set of characters: single characters, ranges, sets with names, and brackets again.
What stands side by side is united.  The operators `&&`, `--` and `~~` bind weaker than that, and
all alike from the left.
-/

namespace EscapeAudit

open PatternReader

/-- What stands side by side in brackets so far. -/
structure SetUnion where
  /-- The piece of the text. -/
  span : PatternSpan
  /-- The items, the last one first. -/
  items : List SetNode
  deriving Repr

namespace SetUnion

/-- Adds an item. -/
def push (u : SetUnion) (item : SetNode) : SetUnion :=
  let start := if u.items.isEmpty then item.span.start else u.span.start
  ⟨⟨start, item.span.stop⟩, item :: u.items⟩

/-- The set of all items. -/
def toNode (u : SetUnion) : SetNode :=
  match u.items with
  | [] => .empty u.span
  | [item] => item
  | items => .union u.span items.reverse

end SetUnion

/-- The left side of an operator that waits for its right side. -/
abbrev PendingSet := Option (SetOperator × SetNode)

/-- The set with its left side, if one waits for it. -/
def PendingSet.close (pending : PendingSet) (rhs : SetNode) : SetNode :=
  match pending with
  | none => rhs
  | some (op, lhs) => .binary ⟨lhs.span.start, rhs.span.stop⟩ op lhs rhs

namespace SetNode

/-- A character that stands for itself. -/
def readVerbatim (c : Char) : PatternReader Literal := do
  let span ← nextSpan
  take
  return ⟨span, c, false⟩

/-- Reads a single item, or an end of a range. -/
def readPrimitive (c : Char) : PatternReader Escaped := do
  if c == '\\' then Escaped.read else return .literal (← readVerbatim c)

/-- The set of a single item. -/
def ofEscaped : Escaped → PatternReader SetNode
  | .literal l => return .literal l
  | .property p => return .property p
  | .shorthand s => return .shorthand s
  | .look span _ => fail .classEscapeInvalid span

/-- The character at an end of a range. -/
def endOf : Escaped → PatternReader Literal
  | .literal l => return l
  | e => fail .classRangeLiteral e.span

/-- Reads a single item or a range that begins with a character. -/
def readRange (opening : PatternSpan) (c : Char) : PatternReader SetNode := do
  let lo ← readPrimitive c
  skipBlanks
  match ← next with
  | none => fail .classUnclosed opening
  | some '-' =>
    let behind ← peekSolid
    if behind == some ']' || behind == some '-' then ofEscaped lo
    else
      match ← takeAndSkip with
      | none => fail .classUnclosed opening
      | some d =>
        let hi ← readPrimitive d
        let span : PatternSpan := ⟨lo.span.start, hi.span.stop⟩
        let first ← endOf lo
        let last ← endOf hi
        if first.char ≤ last.char then return .range span first last
        else fail .classRangeInvalid span
  | some _ => ofEscaped lo

/-- The set with a name between colons at the front of a text, with its own text. -/
def named? (rest : List Char) : Option (String × Bool × AsciiKind) := do
  let body ← Text.dropLeading? ['[', ':'] rest
  let (negated, body) := match body with
    | '^' :: cs => (true, cs)
    | cs => (false, cs)
  let name := body.takeWhile (· != ':')
  let _ ← Text.dropLeading? [':', ']'] (body.drop name.length)
  let kind ← AsciiKind.ofName? (String.ofList name)
  let lead := if negated then "[:^" else "[:"
  return (lead ++ String.ofList name ++ ":]", negated, kind)

/-- Reads the minus signs at the front of brackets, which stand for themselves.  `fuel` bounds their
number. -/
def readDashes (start : PatternPlace) : (fuel : Nat) → SetUnion → PatternReader SetUnion
  | 0, u => return u
  | fuel + 1, u => do
    if (← next) != some '-' then return u
    let u := u.push (.literal ⟨← nextSpan, '-', false⟩)
    if (← takeAndSkip).isNone then fail .classUnclosed ⟨start, start⟩
    readDashes start fuel u

/-- Reads the front of brackets: whether all other characters are meant, the minus signs, and a
closing bracket that stands for itself because nothing is before it.  The piece of the text is the
front. -/
def readOpening : PatternReader (PatternSpan × Bool × SetUnion) := do
  let start ← here
  if (← takeAndSkip).isNone then fail .classUnclosed (← since start)
  let negated := (← next) == some '^'
  if negated then
    if (← takeAndSkip).isNone then fail .classUnclosed (← since start)
  let u ← readDashes start (← get).rest.length ⟨← point, []⟩
  if u.items.isEmpty && (← next) == some ']' then
    let u := u.push (.literal ⟨← nextSpan, ']', false⟩)
    if (← takeAndSkip).isNone then fail .classUnclosed (← since start)
    return (← since start, negated, u)
  else return (← since start, negated, u)

/-- The operator at the front of a text. -/
def operator? : List Char → Option (String × SetOperator)
  | '&' :: '&' :: _ => some ("&&", .intersection)
  | '-' :: '-' :: _ => some ("--", .difference)
  | '~' :: '~' :: _ => some ("~~", .symmetricDifference)
  | _ => none

/-- Reads what stands in brackets, and the closing bracket.  `opening` is the front of these
brackets, and `fuel` bounds the number of items. -/
def readItems : (fuel : Nat) → (opening : PatternSpan) → PendingSet → SetUnion →
    PatternReader SetNode
  | 0, _, pending, u => return pending.close u.toNode
  | fuel + 1, opening, pending, u => do
    skipBlanks
    let rest := (← get).rest
    match rest, operator? rest with
    | [], _ => fail .classUnclosed opening
    | ']' :: _, _ =>
      take
      return pending.close u.toNode
    | '[' :: _, _ =>
      match named? rest with
      | some (text, negated, kind) =>
        let start ← here
        let _ ← takeText text
        readItems fuel opening pending (u.push (.ascii (← since start) negated kind))
      | none =>
        let (front, negated, v) ← readOpening
        let inner ← readItems fuel front none v
        readItems fuel opening pending (u.push (.bracket (← since front.start) negated inner))
    | _, some (text, op) =>
      let _ ← takeText text
      readItems fuel opening (some (op, pending.close u.toNode)) ⟨← point, []⟩
    | c :: _, none =>
      let item ← readRange opening c
      readItems fuel opening pending (u.push item)

/-- Reads brackets. -/
def readBracket : PatternReader PatternNode := do
  let fuel := (← get).rest.length
  let (front, negated, u) ← readOpening
  let inner ← readItems fuel front none u
  return .bracket (← since front.start) negated inner

end SetNode

end EscapeAudit
