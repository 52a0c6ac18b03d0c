/-!
# Positions and spans

A position is a place between two characters of a template.  Its offset counts the UTF-8 bytes before
it, its line counts from 1, and its column counts the characters before it on its line, from 1.  Only
a line feed ends a line.  Line and column are kept in words of 32 bits, so 0 follows the largest word.

A span is a piece of a template, from its first position up to the position behind it.
-/

namespace EscapeAudit

/-- Where a word is asked for, a number gives its remainder modulo `2 ^ 32`. -/
scoped instance natCastWord : NatCast UInt32 := ⟨UInt32.ofNat⟩

/-- A place in a template. -/
structure Position where
  /-- UTF-8 bytes before the place. -/
  offset : Nat
  /-- Line, from 1. -/
  lineWord : UInt32
  /-- Column in characters, from 1. -/
  columnWord : UInt32
  deriving DecidableEq, Repr, Inhabited

namespace Position

/-- The place before the first character. -/
def start : Position := ⟨0, 1, 1⟩

/-- The line as a number. -/
def line (p : Position) : Nat := p.lineWord.toNat

/-- The column as a number. -/
def column (p : Position) : Nat := p.columnWord.toNat

/-- The place behind one character. -/
def advance (p : Position) (c : Char) : Position :=
  if c == '\n' then ⟨p.offset + 1, p.lineWord + 1, 1⟩
  else ⟨p.offset + c.utf8Size, p.lineWord, p.columnWord + 1⟩

/-- The place behind a text. -/
def advanceText (p : Position) (text : String) : Position :=
  text.foldl advance p

/-- `line:column`. -/
def render (p : Position) : String :=
  s!"{p.line}:{p.column}"

/-- The order of places: by offset, then by line, then by column. -/
def compare (p q : Position) : Ordering :=
  (Ord.compare p.offset q.offset).then
    ((Ord.compare p.line q.line).then (Ord.compare p.column q.column))

end Position

/-- A piece of a template. -/
structure Span where
  /-- The place where it begins. -/
  start : Position
  /-- The place behind it. -/
  stop : Position
  deriving DecidableEq, Repr, Inhabited

namespace Span

/-- The span that no token has: every number is 0. -/
def none : Span := ⟨⟨0, 0, 0⟩, ⟨0, 0, 0⟩⟩

/-- The span of a text that begins at a place. -/
def covering (start : Position) (text : String) : Span :=
  ⟨start, start.advanceText text⟩

/-- `line:column-column` on one line, `line:column-line:column` across lines. -/
def render (s : Span) : String :=
  if s.start.line == s.stop.line then s!"{s.start.render}-{s.stop.column}"
  else s!"{s.start.render}-{s.stop.render}"

end Span

end EscapeAudit
