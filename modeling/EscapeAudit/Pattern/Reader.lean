import EscapeAudit.Pattern.Fault
import EscapeAudit.Pattern.Tree
import EscapeAudit.Text.Blank

/-!
# Reading the text of patterns

A reader goes through the text of a pattern from its front.  It knows its place, and it knows
whether blanks and comments are skipped, which a switch inside the pattern decides.
-/

namespace EscapeAudit

/-- How far the text of a pattern is read. -/
structure PatternCursor where
  /-- What is left of the text. -/
  rest : List Char
  /-- The place in front of it. -/
  here : PatternPlace
  /-- Whether blanks and comments are skipped. -/
  free : Bool
  /-- The names of groups so far, with their pieces of the text. -/
  names : List (String × PatternSpan)
  deriving Repr

/-- Reads a part of a pattern, or finds a fault. -/
abbrev PatternReader (α : Type) := StateT PatternCursor (Except PatternFault) α

namespace PatternReader

variable {α : Type}

/-- Stops with a problem at a piece of the text. -/
def fail (problem : PatternProblem) (span : PatternSpan) : PatternReader α :=
  throw ⟨problem, span, none⟩

/-- Stops with a problem at a piece of the text that goes with an earlier piece. -/
def failTwice (problem : PatternProblem) (span earlier : PatternSpan) : PatternReader α :=
  throw ⟨problem, span, some earlier⟩

/-- The place of the reader. -/
def here : PatternReader PatternPlace := return (← get).here

/-- The next character, or nothing at the end. -/
def next : PatternReader (Option Char) := return (← get).rest.head?

/-- The piece of the text from a place up to the reader. -/
def since (start : PatternPlace) : PatternReader PatternSpan := return ⟨start, ← here⟩

/-- The empty piece of the text at the reader. -/
def point : PatternReader PatternSpan := do since (← here)

/-- The piece of the text with the next character only. -/
def nextSpan : PatternReader PatternSpan := do
  let cursor ← get
  match cursor.rest with
  | [] => return ⟨cursor.here, cursor.here⟩
  | c :: _ => return ⟨cursor.here, cursor.here.advance c⟩

/-- Takes the next character. -/
def take : PatternReader Unit :=
  modify fun cursor =>
    match cursor.rest with
    | [] => cursor
    | c :: cs => { cursor with rest := cs, here := cursor.here.advance c }

/-- Takes a text if it stands there. -/
def takeText (text : String) : PatternReader Bool := do
  match Text.dropLeading? text.toList (← get).rest with
  | some rest =>
    modify fun cursor => { cursor with rest, here := cursor.here.advanceText text }
    return true
  | none => return false

/-- What is left behind a comment. -/
def dropComment (rest : List Char) : List Char := (rest.dropWhile (· != '\n')).drop 1

/-- What is left behind blanks and comments.  `fuel` bounds their number. -/
def dropBlanks : (fuel : Nat) → List Char → List Char
  | fuel + 1, c :: cs =>
    if Text.isBlank c then dropBlanks fuel cs
    else if c == '#' then dropBlanks fuel (dropComment cs)
    else c :: cs
  | _, rest => rest

/-- Skips blanks and comments where they are skipped. -/
def skipBlanks : PatternReader Unit :=
  modify fun cursor =>
    if cursor.free then
      let rest := dropBlanks cursor.rest.length cursor.rest
      let skipped := cursor.rest.take (cursor.rest.length - rest.length)
      { cursor with rest, here := skipped.foldl PatternPlace.advance cursor.here }
    else cursor

/-- Takes the next character and skips blanks, and gives the character there. -/
def takeAndSkip : PatternReader (Option Char) := do
  take
  if (← next).isSome then skipBlanks
  next

/-- Skips blanks everywhere. -/
def dropSpace : PatternReader Unit :=
  modify fun cursor =>
    let skipped := cursor.rest.takeWhile Text.isBlank
    { cursor with
      rest := cursor.rest.drop skipped.length
      here := skipped.foldl PatternPlace.advance cursor.here }

/-- The first character of a text that is no blank.  A sign that begins a comment is passed over
once.  If there are only blanks, the first of them. -/
def firstSolid (text : List Char) : Option Char :=
  match text.dropWhile Text.isBlank with
  | '#' :: cs =>
    match cs.dropWhile Text.isBlank with
    | c :: _ => some c
    | [] => text.head?
  | c :: _ => some c
  | [] => text.head?

/-- The character behind the next one. -/
def peek : PatternReader (Option Char) := return ((← get).rest.drop 1).head?

/-- The character behind the next one, past blanks where they are skipped. -/
def peekSolid : PatternReader (Option Char) := do
  if (← get).free then return firstSolid ((← get).rest.drop 1) else peek

end PatternReader

end EscapeAudit
