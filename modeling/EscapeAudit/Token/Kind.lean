/-!
# Kinds of tokens

A template is markup with code regions in it.  The kinds are fine enough to tell a concatenation
from a ternary and a member access from a bare variable.
-/

namespace EscapeAudit

/-- The kind of a token. -/
inductive Kind where
  /-- Markup between code regions. -/
  | inlineHtml
  /-- `<?php` with one blank after it, or `<?`. -/
  | openTag
  /-- `<?=`. -/
  | openTagWithEcho
  /-- `?>` with a line end right behind it. -/
  | closeTag
  /-- Blanks between code tokens. -/
  | whitespace
  /-- A comment that begins with `//`, `#` or `/*`. -/
  | comment
  /-- A comment that begins with `/**`. -/
  | docComment
  /-- `$name`. -/
  | variable
  /-- A bare name: a function, a constant or a member. -/
  | identifier
  /-- The word `echo`. -/
  | echo
  /-- The word `print`. -/
  | print
  /-- The word `true`. -/
  | trueWord
  /-- The word `false`. -/
  | falseWord
  /-- The word `null`. -/
  | nullWord
  /-- Any other reserved word. -/
  | keyword
  /-- A string literal in which no variable is filled in. -/
  | constantString
  /-- A double-quoted string literal in which variables are filled in. -/
  | doubleQuotedString
  /-- The first line of a heredoc. -/
  | startHeredoc
  /-- The first line of a nowdoc, in which no variable is filled in. -/
  | startNowdoc
  /-- The lines of a heredoc or nowdoc. -/
  | heredocBody
  /-- The label that closes a heredoc or nowdoc, with the blanks before it. -/
  | endHeredoc
  /-- A number. -/
  | number
  /-- `(int)`, `(string)` and so on. -/
  | cast
  /-- `->`. -/
  | objectOperator
  /-- `?->`. -/
  | nullsafeObjectOperator
  /-- `::`. -/
  | doubleColon
  /-- `=>`. -/
  | doubleArrow
  /-- `.`. -/
  | concat
  /-- `.=`. -/
  | concatEqual
  /-- `?` of a ternary. -/
  | inlineThen
  /-- `:` of a ternary. -/
  | inlineElse
  /-- `??`. -/
  | coalesce
  /-- `+`. -/
  | plus
  /-- `-`. -/
  | minus
  /-- `*`. -/
  | multiply
  /-- `/`. -/
  | divide
  /-- `%`. -/
  | modulus
  /-- `**`. -/
  | pow
  /-- `=`. -/
  | equal
  /-- `+=`, `-=`, `??=` and so on. -/
  | assignmentOperator
  /-- `==`, `<`, `<=>` and so on. -/
  | comparison
  /-- `&&` and `||`. -/
  | booleanOperator
  /-- `!`. -/
  | booleanNot
  /-- `++` and `--`. -/
  | incrementDecrement
  /-- `&`, `|`, `^`, `~`, `<<` and `>>`. -/
  | bitwise
  /-- An opening parenthesis. -/
  | openParenthesis
  /-- A closing parenthesis. -/
  | closeParenthesis
  /-- An opening square bracket. -/
  | openSquareBracket
  /-- A closing square bracket. -/
  | closeSquareBracket
  /-- An opening brace. -/
  | openCurlyBracket
  /-- A closing brace. -/
  | closeCurlyBracket
  /-- `,`. -/
  | comma
  /-- `;`. -/
  | semicolon
  /-- Any other character of code. -/
  | other
  deriving DecidableEq, Repr, Inhabited

namespace Kind

/-- Every kind with its name. -/
def names : List (Kind × String) :=
  [(inlineHtml, "InlineHtml"), (openTag, "OpenTag"), (openTagWithEcho, "OpenTagWithEcho"),
   (closeTag, "CloseTag"), (whitespace, "Whitespace"), (comment, "Comment"),
   (docComment, "DocComment"), (.variable, "Variable"), (identifier, "Identifier"),
   (echo, "Echo"), (print, "Print"), (trueWord, "True"), (falseWord, "False"), (nullWord, "Null"),
   (keyword, "Keyword"), (constantString, "ConstantString"),
   (doubleQuotedString, "DoubleQuotedString"), (startHeredoc, "StartHeredoc"),
   (startNowdoc, "StartNowdoc"), (heredocBody, "HeredocBody"), (endHeredoc, "EndHeredoc"),
   (number, "Number"), (cast, "Cast"), (objectOperator, "ObjectOperator"),
   (nullsafeObjectOperator, "NullsafeObjectOperator"), (doubleColon, "DoubleColon"),
   (doubleArrow, "DoubleArrow"), (concat, "Concat"), (concatEqual, "ConcatEqual"),
   (inlineThen, "InlineThen"), (inlineElse, "InlineElse"), (coalesce, "Coalesce"),
   (plus, "Plus"), (minus, "Minus"), (multiply, "Multiply"), (divide, "Divide"),
   (modulus, "Modulus"), (pow, "Pow"), (equal, "Equal"),
   (assignmentOperator, "AssignmentOperator"), (comparison, "Comparison"),
   (booleanOperator, "BooleanOperator"), (booleanNot, "BooleanNot"),
   (incrementDecrement, "IncrementDecrement"), (bitwise, "Bitwise"),
   (openParenthesis, "OpenParenthesis"), (closeParenthesis, "CloseParenthesis"),
   (openSquareBracket, "OpenSquareBracket"), (closeSquareBracket, "CloseSquareBracket"),
   (openCurlyBracket, "OpenCurlyBracket"), (closeCurlyBracket, "CloseCurlyBracket"),
   (comma, "Comma"), (semicolon, "Semicolon"), (other, "Other")]

/-- The name of a kind. -/
def name (k : Kind) : String :=
  ((names.find? fun entry => entry.1 == k).map Prod.snd).getD ""

/-- The kind with a name. -/
def ofName? (text : String) : Option Kind :=
  (names.find? fun entry => entry.2 == text).map Prod.fst

/-- Blanks and comments, which carry no meaning for an expression. -/
def isTrivia : Kind → Bool
  | whitespace | comment | docComment => true
  | _ => false

/-- The kinds that open an output statement. -/
def isEntryPoint : Kind → Bool
  | echo | openTagWithEcho | print => true
  | _ => false

/-- `->` and `?->`. -/
def isMemberAccess : Kind → Bool
  | objectOperator | nullsafeObjectOperator => true
  | _ => false

/-- The operators behind which a reserved word is a plain name. -/
def leadsMember : Kind → Bool
  | objectOperator | nullsafeObjectOperator | doubleColon => true
  | _ => false

/-- The operators whose result is a number. -/
def isArithmetic : Kind → Bool
  | plus | minus | divide | multiply | modulus | pow => true
  | _ => false

/-- What the first token of a leaf says about the leaf. -/
inductive Category where
  /-- A bare name, as of a function. -/
  | call
  /-- A string literal in which variables may be filled in. -/
  | interpolatingLiteral
  /-- A variable. -/
  | variable
  /-- A constant or a cast. -/
  | safeConstant
  /-- Anything else. -/
  | other
  deriving DecidableEq, Repr

/-- The category of a kind. -/
def category : Kind → Category
  | identifier => .call
  | doubleQuotedString | startHeredoc => .interpolatingLiteral
  | .variable => .variable
  | constantString | startNowdoc | number | cast | trueWord | falseWord | nullWord =>
    .safeConstant
  | _ => .other

end Kind

end EscapeAudit
