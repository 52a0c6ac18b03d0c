import EscapeAudit.Lexer.Character
import EscapeAudit.Token.Kind

/-!
# Tags

Markup goes on until an open tag begins.  There are three open tags: `<?=`, the tag `<?php` in
upper or lower case with one blank behind it, and the tag `<?` with one blank behind it.  At the
end of the template the last two need no blank.  Any other text behind `<?`, as in `<?xml`, is
markup.

A length of a tag is counted without its first character, as for every other lexeme.
-/

namespace EscapeAudit.Lexer

/-- What stands behind the letters of `php`, in upper or lower case. -/
def afterWordPhp? : List Char → Option (List Char)
  | a :: b :: c :: rest =>
    if a.toLower == 'p' && b.toLower == 'h' && c.toLower == 'p' then some rest else none
  | _ => none

/-- The end of an open tag: nothing at the end of the template, else one blank. -/
def tagEnd? : List Char → Option Nat
  | [] => some 0
  | cs => leadingSpace? cs

/-- The open tag in front, with its length behind the first character. -/
def openTag? : List Char → Option (Kind × Nat)
  | '<' :: '?' :: '=' :: _ => some (.openTagWithEcho, 2)
  | '<' :: '?' :: rest =>
    match afterWordPhp? rest with
    | some tail => (tagEnd? tail).map fun n => (.openTag, 4 + n)
    | none => (tagEnd? rest).map fun n => (.openTag, 1 + n)
  | _ => none

/-- The number of characters before the first open tag, counted on from `n`. -/
def markupLength : List Char → (n : Nat) → Nat
  | [], n => n
  | c :: cs, n => if (openTag? (c :: cs)).isSome then n else markupLength cs (n + 1)

/-- The length of a close tag behind its `?`.  It takes a line end with it. -/
def closeTag? : List Char → Option Nat
  | '>' :: rest => some (1 + lineEndLength rest)
  | _ => none

end EscapeAudit.Lexer
