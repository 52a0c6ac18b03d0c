import EscapeAudit.Lexer.Character
import EscapeAudit.Text.Basic

/-!
# Comments, strings, numbers, names and casts

Each scanner looks at the characters behind the first one of a lexeme and says how many of them
belong to it.  Where a lexeme has to be closed, the answer is `none` when its end never comes.
-/

namespace EscapeAudit.Lexer

/-! ## Comments -/

/-- The characters before a line end or a close tag, counted on from `n`.  They are the rest of a
comment that began with `#` or `//`. -/
def lineCommentLength : List Char → (n : Nat) → Nat
  | [], n => n
  | c :: cs, n =>
    if c == '\n' || c == '\r' then n
    else if c == '?' && startsWith (· == '>') cs then n
    else lineCommentLength cs (n + 1)

/-- The characters before the first `*/`, counted on from `n`. -/
def commentEnd? : List Char → (n : Nat) → Option Nat
  | '*' :: '/' :: _, n => some n
  | _ :: cs, n => commentEnd? cs (n + 1)
  | [], _ => none

/-! ## Strings -/

/-- The characters up to and with the closing quote, counted on from `n`.  A backslash hides the
character behind it. -/
def closingQuote? (quote : Char) : List Char → (n : Nat) → Option Nat
  | [], _ => none
  | '\\' :: [], _ => none
  | '\\' :: _ :: cs, n => closingQuote? quote cs (n + 2)
  | c :: cs, n => if c == quote then some (n + 1) else closingQuote? quote cs (n + 1)

/-- Whether a variable is filled in: a `$` before a name or a brace, or a brace before a `$`.  A
backslash hides the character behind it. -/
def interpolates : List Char → Bool
  | [] => false
  | '\\' :: [] => false
  | '\\' :: _ :: cs => interpolates cs
  | '$' :: cs => startsWith (fun c => isNameStart c || c == '{') cs || interpolates cs
  | '{' :: cs => startsWith (· == '$') cs || interpolates cs
  | _ :: cs => interpolates cs

/-! ## Numbers -/

/-- The length of a fraction: a point, a digit, and more digits. -/
def fractionLength : List Char → Nat
  | '.' :: d :: cs => if d.isDigit then 2 + runLength isDigitOrSeparator cs else 0
  | _ => 0

/-- The length of a sign in front. -/
def signLength : List Char → Nat
  | '+' :: _ => 1
  | '-' :: _ => 1
  | _ => 0

/-- The length of an exponent: a letter e, a sign if there is one, and digits. -/
def exponentLength : List Char → Nat
  | c :: cs =>
    if c == 'e' || c == 'E' then
      let sign := signLength cs
      let digits := runLength Char.isDigit (cs.drop sign)
      if digits == 0 then 0 else 1 + sign + digits
    else 0
  | [] => 0

/-- Whether the characters begin a hexadecimal or binary number. -/
def hasRadix : List Char → Bool
  | '0' :: c :: _ => c == 'x' || c == 'X' || c == 'b' || c == 'B'
  | _ => false

/-- The length of a number in front. -/
def numberLength (cs : List Char) : Nat :=
  if hasRadix cs then
    2 + runLength (fun c => c.isAlphanum || c == '_') (cs.drop 2)
  else
    let whole := runLength isDigitOrSeparator cs
    let fraction := fractionLength (cs.drop whole)
    whole + fraction + exponentLength (cs.drop (whole + fraction))

/-! ## Names and casts -/

/-- The characters that go on a name, counted on from `n`.  A backslash belongs to a name when
another part of the name begins behind it. -/
def nameLength : List Char → (n : Nat) → Nat
  | [], n => n
  | '\\' :: cs, n => if startsWith isNameStart cs then nameLength cs (n + 1) else n
  | c :: cs, n => if isNamePart c then nameLength cs (n + 1) else n

/-- The types to which a value can be cast. -/
def castTypes : List String :=
  ["int", "integer", "float", "double", "real", "bool", "boolean", "string", "array", "object",
   "binary", "unset"]

/-- The length of a cast behind its opening parenthesis: a type between blanks, and the closing
parenthesis. -/
def castLength? (cs : List Char) : Option Nat :=
  let before := runLength isPadding cs
  let rest := cs.drop before
  let word := rest.takeWhile Char.isAlpha
  let rest := rest.drop word.length
  let after := runLength isPadding rest
  if startsWith (· == ')') (rest.drop after) &&
      castTypes.contains (String.ofList (word.map Char.toLower)) then
    some (before + word.length + after + 1)
  else none

end EscapeAudit.Lexer
