/-!
# Places in the text of a pattern

A pattern counts its places by itself.  A place has the bytes before it, its line and its column,
all without a bound, and a piece of the text goes from one place to another.
-/

namespace EscapeAudit

/-- A place in the text of a pattern. -/
structure PatternPlace where
  /-- UTF-8 bytes before the place. -/
  offset : Nat
  /-- Line, from 1. -/
  line : Nat
  /-- Column in characters, from 1. -/
  column : Nat
  deriving DecidableEq, Repr, Inhabited

namespace PatternPlace

/-- The place before the first character. -/
def start : PatternPlace := ⟨0, 1, 1⟩

/-- The place behind one character. -/
def advance (p : PatternPlace) (c : Char) : PatternPlace :=
  if c == '\n' then ⟨p.offset + 1, p.line + 1, 1⟩
  else ⟨p.offset + c.utf8Size, p.line, p.column + 1⟩

/-- The place behind a text. -/
def advanceText (p : PatternPlace) (text : String) : PatternPlace :=
  text.foldl advance p

end PatternPlace

/-- A piece of the text of a pattern. -/
structure PatternSpan where
  /-- The place where it begins. -/
  start : PatternPlace
  /-- The place behind it. -/
  stop : PatternPlace
  deriving DecidableEq, Repr, Inhabited

end EscapeAudit
