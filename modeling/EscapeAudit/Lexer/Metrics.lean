import EscapeAudit.Text.Basic
import EscapeAudit.Token.Stream

/-!
# Counts of tokens

What is counted while a template is cut into tokens.
-/

namespace EscapeAudit

/-- Counts over the tokens of a template. -/
structure Metrics where
  /-- All tokens. -/
  tokens : Nat
  /-- Tokens of markup. -/
  markupTokens : Nat
  /-- Bytes of markup. -/
  markupBytes : Nat
  /-- Open tags. -/
  codeRegions : Nat
  /-- Comments of all sorts. -/
  comments : Nat
  /-- The length of the longest comment, in characters. -/
  longestComment : Nat
  /-- The size of the largest string literal or heredoc body, in bytes. -/
  largestString : Nat
  /-- Tokens that open an output statement. -/
  entryPoints : Nat
  deriving DecidableEq, Repr

namespace Metrics

/-- No tokens. -/
def zero : Metrics := ⟨0, 0, 0, 0, 0, 0, 0, 0⟩

/-- The counts with one more token, before entry points are looked at. -/
def addKind (m : Metrics) (l : Lexeme) : Metrics :=
  let m := { m with tokens := m.tokens + 1 }
  match l.kind with
  | .inlineHtml =>
    { m with markupTokens := m.markupTokens + 1,
             markupBytes := m.markupBytes + l.text.utf8ByteSize }
  | .openTag | .openTagWithEcho => { m with codeRegions := m.codeRegions + 1 }
  | .comment | .docComment =>
    { m with comments := m.comments + 1, longestComment := max m.longestComment l.text.length }
  | .constantString | .doubleQuotedString | .heredocBody =>
    { m with largestString := max m.largestString l.text.utf8ByteSize }
  | _ => m

/-- The counts with one more token. -/
def add (m : Metrics) (l : Lexeme) : Metrics :=
  let m := m.addKind l
  if l.kind.isEntryPoint then { m with entryPoints := m.entryPoints + 1 } else m

/-- The counts of a sequence of lexemes. -/
def ofLexemes (lexemes : Array Lexeme) : Metrics :=
  lexemes.foldl add zero

end Metrics

end EscapeAudit
