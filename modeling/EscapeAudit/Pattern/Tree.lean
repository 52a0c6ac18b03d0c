import EscapeAudit.Pattern.Basic
import EscapeAudit.Pattern.Place

/-!
# The written form of patterns

The text of a pattern as a tree.  Every part knows the piece of the text that it was read from,
because some faults show only when the meaning of the parts is worked out.
-/

namespace EscapeAudit

/-- A switch inside a pattern. -/
inductive PatternFlag where
  /-- Case does not matter. -/
  | caseless
  /-- `^` and `$` stand for the ends of lines. -/
  | multiLine
  /-- A dot stands for a line feed too. -/
  | dotAll
  /-- Repetitions stop early. -/
  | swapGreed
  /-- Characters beyond ASCII are known. -/
  | unicode
  /-- A carriage return ends a line too. -/
  | carriageReturn
  /-- Blanks and comments are skipped. -/
  | free
  deriving DecidableEq, Repr

/-- Switches with their new settings. -/
abbrev FlagChange := List (PatternFlag × Bool)

/-- The new setting of a switch, if it has one. -/
def FlagChange.setting (change : FlagChange) (flag : PatternFlag) : Option Bool :=
  (change.find? fun entry => entry.1 == flag).map Prod.snd

/-- A character of a pattern. -/
structure Literal where
  /-- The piece of the text. -/
  span : PatternSpan
  /-- The character. -/
  char : Char
  /-- Whether it is written as `\x` with two digits. -/
  byte : Bool
  deriving DecidableEq, Repr

/-- The sets with a letter of their own. -/
inductive ShorthandKind where
  /-- Digits. -/
  | digit
  /-- Blanks. -/
  | space
  /-- Characters of words. -/
  | word
  deriving DecidableEq, Repr

/-- The sets with a name between colons. -/
inductive AsciiKind where
  /-- Letters and digits. -/
  | alnum
  /-- Letters. -/
  | alpha
  /-- All ASCII characters. -/
  | ascii
  /-- Space and tab. -/
  | blank
  /-- Controls. -/
  | cntrl
  /-- Digits. -/
  | digit
  /-- Characters with a picture. -/
  | graph
  /-- Letters in lower case. -/
  | lower
  /-- Characters with a picture, and the space. -/
  | print
  /-- Punctuation. -/
  | punct
  /-- Blanks. -/
  | space
  /-- Letters in upper case. -/
  | upper
  /-- Characters of words. -/
  | word
  /-- Hexadecimal digits. -/
  | xdigit
  deriving DecidableEq, Repr

/-- The kind with a name. -/
def AsciiKind.ofName? : String → Option AsciiKind
  | "alnum" => some alnum
  | "alpha" => some alpha
  | "ascii" => some ascii
  | "blank" => some blank
  | "cntrl" => some cntrl
  | "digit" => some digit
  | "graph" => some graph
  | "lower" => some lower
  | "print" => some print
  | "punct" => some punct
  | "space" => some space
  | "upper" => some upper
  | "word" => some word
  | "xdigit" => some xdigit
  | _ => none

/-- How a property is asked for. -/
inductive PropertyName where
  /-- By a name, or by a single letter. -/
  | plain (name : String)
  /-- By the name of a property and the name of its value. -/
  | valued (name value : String)
  deriving DecidableEq, Repr

/-- A set given by a property of characters. -/
structure Property where
  /-- The piece of the text. -/
  span : PatternSpan
  /-- Whether all other characters are meant. -/
  negated : Bool
  /-- The property. -/
  name : PropertyName
  deriving DecidableEq, Repr

/-- A set with a letter of its own. -/
structure Shorthand where
  /-- The piece of the text. -/
  span : PatternSpan
  /-- Whether all other characters are meant. -/
  negated : Bool
  /-- The set. -/
  kind : ShorthandKind
  deriving DecidableEq, Repr

/-- The operators between sets. -/
inductive SetOperator where
  /-- The characters of both. -/
  | intersection
  /-- The characters of the first only. -/
  | difference
  /-- The characters of one but not of both. -/
  | symmetricDifference
  deriving DecidableEq, Repr

/-- What stands in brackets. -/
inductive SetNode where
  /-- Nothing. -/
  | empty (span : PatternSpan)
  /-- A character. -/
  | literal (l : Literal)
  /-- The characters from one to another. -/
  | range (span : PatternSpan) (lo hi : Literal)
  /-- A set with a name between colons. -/
  | ascii (span : PatternSpan) (negated : Bool) (kind : AsciiKind)
  /-- A set given by a property. -/
  | property (p : Property)
  /-- A set with a letter of its own. -/
  | shorthand (s : Shorthand)
  /-- Brackets inside brackets. -/
  | bracket (span : PatternSpan) (negated : Bool) (inner : SetNode)
  /-- Several of these. -/
  | union (span : PatternSpan) (items : List SetNode)
  /-- An operator between two of these. -/
  | binary (span : PatternSpan) (op : SetOperator) (lhs rhs : SetNode)
  deriving Repr

/-- The piece of the text of what stands in brackets. -/
def SetNode.span : SetNode → PatternSpan
  | empty s | range s _ _ | ascii s _ _ | bracket s _ _ | union s _ | binary s _ _ _ => s
  | literal l => l.span
  | property p => p.span
  | shorthand s => s.span

/-- The tests that take no character. -/
inductive LookNode where
  /-- `^`. -/
  | startLine
  /-- `$`. -/
  | endLine
  /-- `\A`. -/
  | startText
  /-- `\z`. -/
  | endText
  /-- `\b`. -/
  | boundary
  /-- `\B`. -/
  | noBoundary
  /-- The beginning of a word. -/
  | wordStart
  /-- The end of a word. -/
  | wordEnd
  /-- No word before. -/
  | wordStartHalf
  /-- No word behind. -/
  | wordEndHalf
  deriving DecidableEq, Repr

/-- The written form of a pattern. -/
inductive PatternNode where
  /-- Nothing. -/
  | empty (span : PatternSpan)
  /-- New settings from here on. -/
  | flags (span : PatternSpan) (change : FlagChange)
  /-- A character. -/
  | literal (l : Literal)
  /-- A dot. -/
  | dot (span : PatternSpan)
  /-- A test that takes no character. -/
  | look (span : PatternSpan) (kind : LookNode)
  /-- A set given by a property. -/
  | property (p : Property)
  /-- A set with a letter of its own. -/
  | shorthand (s : Shorthand)
  /-- A set in brackets. -/
  | bracket (span : PatternSpan) (negated : Bool) (inner : SetNode)
  /-- A repetition. -/
  | repetition (span : PatternSpan) (body : PatternNode) (times : Times)
  /-- A group with new settings inside it.  With `kept`, what it takes is to be kept. -/
  | group (span : PatternSpan) (kept : Bool) (change : FlagChange) (body : PatternNode)
  /-- A choice. -/
  | either (span : PatternSpan) (branches : List PatternNode)
  /-- A sequence. -/
  | seq (span : PatternSpan) (parts : List PatternNode)
  deriving Repr

/-- The piece of the text of a pattern. -/
def PatternNode.span : PatternNode → PatternSpan
  | empty s | flags s _ | dot s | look s _ | bracket s _ _ | repetition s _ _ | group s _ _ _
  | either s _ | seq s _ => s
  | literal l => l.span
  | property p => p.span
  | shorthand s => s.span

end EscapeAudit
