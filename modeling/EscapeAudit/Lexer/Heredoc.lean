import EscapeAudit.Lexer.Character
import EscapeAudit.Text.Basic

/-!
# Heredocs

A heredoc begins with `<<<`, a label, and a line end.  Blanks may stand before the label, and the
label may stand between quotes of one kind.  Between single quotes it is a nowdoc.  Without a line
end right behind the label there is no heredoc.

It is closed by the first line that begins with the label, behind blanks if there are any, where no
further character of a name follows the label.
-/

namespace EscapeAudit.Lexer

/-- The first line of a heredoc, behind `<<<`. -/
structure HeredocHeader where
  /-- Whether no variable is filled in. -/
  nowdoc : Bool
  /-- The label. -/
  label : List Char
  /-- The length of the line behind `<<<`, with its line end. -/
  length : Nat
  deriving DecidableEq, Repr

/-- The label in front, with what follows it. -/
def heredocLabel? (cs : List Char) : Option (List Char × List Char) :=
  if startsWith isNameStart cs then some (cs.takeWhile isNamePart, cs.dropWhile isNamePart)
  else none

/-- The label between quotes or without them, and the line end behind it.  The length of the
header is counted on from `n`. -/
def labelLine? (n : Nat) : List Char → Option HeredocHeader
  | [] => none
  | c :: cs =>
    if c == '\'' || c == '"' then
      match heredocLabel? cs with
      | some (label, q :: rest) =>
        if q == c && lineEndLength rest != 0 then
          some ⟨c == '\'', label, n + label.length + 2 + lineEndLength rest⟩
        else none
      | _ => none
    else
      match heredocLabel? (c :: cs) with
      | some (label, rest) =>
        if lineEndLength rest != 0 then some ⟨false, label, n + label.length + lineEndLength rest⟩
        else none
      | none => none

/-- The header of a heredoc behind `<<<`, if one stands there. -/
def heredocHeader? (cs : List Char) : Option HeredocHeader :=
  labelLine? (runLength isPadding cs) (cs.dropWhile isPadding)

/-- The bytes of the closing label with the blanks before it, when the line in front closes the
heredoc. -/
def closerSize? (label line : List Char) : Option Nat :=
  let padding := line.takeWhile isPadding
  match Text.dropLeading? label (line.dropWhile isPadding) with
  | none => none
  | some after =>
    if startsWith isNamePart after then none
    else some (Text.byteLength padding + Text.byteLength label)

/-- The first closing line: the bytes before it, counted on from `offset`, and the bytes of the
closing label with its blanks.  `lineStart` says whether a line begins here. -/
def heredocCloser? (label : List Char) :
    (lineStart : Bool) → List Char → (offset : Nat) → Option (Nat × Nat)
  | lineStart, [], offset =>
    if lineStart then (closerSize? label []).map fun size => (offset, size) else none
  | lineStart, c :: cs, offset =>
    match if lineStart then closerSize? label (c :: cs) else none with
    | some size => some (offset, size)
    | none => heredocCloser? label (c == '\n') cs (offset + c.utf8Size)

end EscapeAudit.Lexer
