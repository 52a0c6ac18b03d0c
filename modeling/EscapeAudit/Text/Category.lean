/-!
# General categories

Every character belongs to one of thirty classes: letters, marks, numbers, punctuation, symbols,
separators, and others.  The second letter of a name tells the members of a group apart.
-/

namespace EscapeAudit.Text

/-- The class of a character. -/
inductive Category where
  /-- A letter in upper case. -/
  | lu
  /-- A letter in lower case. -/
  | ll
  /-- A letter in title case. -/
  | lt
  /-- A letter that modifies another. -/
  | lm
  /-- Any other letter. -/
  | lo
  /-- A mark without a width. -/
  | mn
  /-- A mark with a width. -/
  | mc
  /-- A mark around a character. -/
  | me
  /-- A decimal digit. -/
  | nd
  /-- A letter that stands for a number. -/
  | nl
  /-- Any other number. -/
  | no
  /-- Punctuation that joins words. -/
  | pc
  /-- A dash. -/
  | pd
  /-- An opening bracket. -/
  | ps
  /-- A closing bracket. -/
  | pe
  /-- An opening quote. -/
  | pi
  /-- A closing quote. -/
  | pf
  /-- Any other punctuation. -/
  | po
  /-- A symbol of mathematics. -/
  | sm
  /-- A symbol of a currency. -/
  | sc
  /-- A symbol that modifies another. -/
  | sk
  /-- Any other symbol. -/
  | so
  /-- A space. -/
  | zs
  /-- The separator of lines. -/
  | zl
  /-- The separator of paragraphs. -/
  | zp
  /-- A control. -/
  | cc
  /-- A format. -/
  | cf
  /-- Half of a pair of units, which is no character. -/
  | cs
  /-- A character for private use. -/
  | co
  /-- A number that stands for no character. -/
  | cn
  deriving DecidableEq, Repr

namespace Category

/-- Letters. -/
def letters : List Category := [lu, ll, lt, lm, lo]

/-- Letters with an upper and a lower form. -/
def casedLetters : List Category := [lu, ll, lt]

/-- Marks. -/
def marks : List Category := [mn, mc, me]

/-- Numbers. -/
def numbers : List Category := [nd, nl, no]

/-- Punctuation. -/
def punctuation : List Category := [pc, pd, ps, pe, pi, pf, po]

/-- Symbols. -/
def symbols : List Category := [sm, sc, sk, so]

/-- Separators. -/
def separators : List Category := [zs, zl, zp]

/-- All that is none of the others. -/
def others : List Category := [cc, cf, cs, co, cn]

/-- All categories. -/
def all : List Category :=
  letters ++ marks ++ numbers ++ punctuation ++ symbols ++ separators ++ others

end Category

end EscapeAudit.Text
