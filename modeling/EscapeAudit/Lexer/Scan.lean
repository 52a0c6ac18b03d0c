import EscapeAudit.Lexer.Fault
import EscapeAudit.Lexer.Heredoc
import EscapeAudit.Lexer.Literal
import EscapeAudit.Lexer.Operator
import EscapeAudit.Lexer.Tag
import EscapeAudit.Token.Stream
import EscapeAudit.Token.Word

/-!
# Scanning a template

A template is cut from the front, one lexeme at a time.  A *cut* says of what kind the next lexeme
is and how many characters it takes beyond its first one.  So a lexeme is never empty, scanning
ends, and the lexemes joined together are the template.

What the next cut depends on besides the characters is the scanner's state.

* The mode: markup, code, or the inside of a heredoc whose body and closing label have known lengths.
* How many `?` of ternaries wait for their `:`.  A `;` and a close tag forget them.
* Whether the last token that is not trivia was `->`, `?->` or `::`, behind which a reserved word is a
  plain name.

Scanning stops at the first fault.  The state behind a close tag is the state at the beginning, so a
template can be scanned in two parts that meet behind a close tag.
-/

namespace EscapeAudit.Lexer

/-- What is being scanned. -/
inductive Mode where
  /-- Markup outside the code regions. -/
  | markup
  /-- A code region. -/
  | code
  /-- A heredoc behind its first line: how many characters its body still has, and how many its
  closing label has. -/
  | heredoc (body closer : Nat)
  deriving DecidableEq, Repr

/-- What the next cut depends on besides the characters. -/
structure State where
  /-- What is being scanned. -/
  mode : Mode
  /-- The `?` of ternaries that wait for their `:`. -/
  pending : Nat
  /-- Whether a member name is due. -/
  memberDue : Bool
  deriving DecidableEq, Repr

/-- The state at the beginning of a template. -/
def State.initial : State := ⟨.markup, 0, false⟩

/-- Where the next lexeme ends. -/
structure Cut where
  /-- Its kind. -/
  kind : Kind
  /-- Its length without the first character. -/
  more : Nat
  /-- What is scanned behind it. -/
  mode : Mode
  deriving DecidableEq, Repr

/-- The ternaries that wait for their `:` behind a token of a kind. -/
def pendingAfter (pending : Nat) : Kind → Nat
  | .inlineThen => pending + 1
  | .inlineElse => pending - 1
  | .semicolon | .closeTag => 0
  | _ => pending

/-- The state behind a cut. -/
def State.after (s : State) (cut : Cut) : State :=
  ⟨cut.mode, pendingAfter s.pending cut.kind,
    if cut.kind.isTrivia then s.memberDue else cut.kind.leadsMember⟩

/-! ## Lexemes of code -/

/-- A cut inside a code region. -/
def inCode (kind : Kind) (more : Nat) : Except Fault Cut :=
  .ok ⟨kind, more, .code⟩

/-- A comment that is not too long. -/
def cutComment (kind : Kind) (more : Nat) : Except Fault Cut :=
  if Limits.commentLength < more + 1 then .error (.commentTooLong (more + 1)) else inCode kind more

/-- A block comment, given what stands behind `/*`. -/
def cutBlockComment (inside : List Char) : Except Fault Cut :=
  match commentEnd? inside 0 with
  | none => .error .unterminatedComment
  | some n =>
    let kind := if n != 0 && startsWith (· == '*') inside then .docComment else .comment
    cutComment kind (n + 3)

/-- A string literal, given its quote and what stands behind it. -/
def cutString (quote : Char) (rest : List Char) : Except Fault Cut :=
  match closingQuote? quote rest 0 with
  | none => .error .unterminatedString
  | some n =>
    let content := rest.take n
    let size := quote.utf8Size + Text.byteLength content
    if Limits.stringSize < size then .error (.stringTooLarge size)
    else
      let filled := quote == '"' && interpolates content
      inCode (if filled then .doubleQuotedString else .constantString) n

/-- The first line of a heredoc.  Its end has to exist.  It is found in bytes, and the scanner goes on
in characters. -/
def cutHeredoc (header : HeredocHeader) (body : List Char) : Except Fault Cut :=
  match heredocCloser? header.label true body 0 with
  | none => .error (.unterminatedHeredoc (String.ofList header.label))
  | some (bodySize, closerSize) =>
    let bodyLength := Text.charsWithin bodySize body 0
    let closer := Text.charsWithin closerSize (body.drop bodyLength) 0
    let kind := if header.nowdoc then .startNowdoc else .startHeredoc
    .ok ⟨kind, header.length + 2, .heredoc bodyLength closer⟩

/-- A bare name. -/
def cutName (s : State) (c : Char) (rest : List Char) : Except Fault Cut :=
  let more := nameLength rest 0
  let name := c :: rest.take more
  let kind :=
    if s.memberDue || name.contains '\\' then .identifier else Kind.ofWord (String.ofList name)
  inCode kind more

/-- A character that is no operator of its own by the tables. -/
def kindOfSign (s : State) (c : Char) : Kind :=
  if c == '?' then .inlineThen
  else if c == ':' then (if s.pending == 0 then .other else .inlineElse)
  else if c == ';' then .semicolon
  else operatorOfOne c

/-- An operator: the longest one in front. -/
def cutOperator (s : State) (c : Char) (rest : List Char) : Except Fault Cut :=
  let three := match rest with
    | d :: e :: _ => operatorOfThree? c d e
    | _ => none
  let two := match rest with
    | d :: _ => operatorOfTwo? c d
    | _ => none
  match three, two with
  | some kind, _ => inCode kind 2
  | none, some kind => inCode kind 1
  | none, none => inCode (kindOfSign s c) 0

/-- The heredoc that `<<<` opens in front, given what stands behind the first `<`. -/
def heredocAt? : List Char → Option (HeredocHeader × List Char)
  | '<' :: '<' :: rest => (heredocHeader? rest).map fun h => (h, rest.drop h.length)
  | _ => none

/-- The next lexeme of code that is not a close tag. -/
def cutToken (s : State) (c : Char) (rest : List Char) : Except Fault Cut :=
  if isSpace c then inCode .whitespace (runLength isSpace rest)
  else if c == '#' || (c == '/' && startsWith (· == '/') rest) then
    cutComment .comment (lineCommentLength rest 0)
  else if c == '/' && startsWith (· == '*') rest then cutBlockComment (rest.drop 1)
  else if c == '$' && startsWith isNameStart rest then
    inCode .variable (runLength isNamePart rest)
  else if c == '\'' || c == '"' then cutString c rest
  else if c == '<' then
    match heredocAt? rest with
    | some (header, body) => cutHeredoc header body
    | none => cutOperator s c rest
  else if c == '(' then
    match castLength? rest with
    | some n => inCode .cast n
    | none => inCode .openParenthesis 0
  else if isNameStart c || (c == '\\' && startsWith isNameStart rest) then cutName s c rest
  else if c.isDigit || (c == '.' && startsWith Char.isDigit rest) then
    inCode .number (numberLength (c :: rest) - 1)
  else cutOperator s c rest

/-! ## The next lexeme -/

/-- The next lexeme of markup: an open tag, or the markup before the next one. -/
def cutMarkup (c : Char) (rest : List Char) : Cut :=
  match openTag? (c :: rest) with
  | some (kind, more) => ⟨kind, more, .code⟩
  | none => ⟨.inlineHtml, markupLength rest 0, .markup⟩

/-- The next lexeme of code. -/
def cutCode (s : State) (c : Char) (rest : List Char) : Except Fault Cut :=
  match if c == '?' then closeTag? rest else none with
  | some more => .ok ⟨.closeTag, more, .markup⟩
  | none => cutToken s c rest

/-- The next lexeme of a heredoc behind its first line: the body if it has characters, else the
closing label. -/
def cutHeredocPart (body closer : Nat) (c : Char) (rest : List Char) : Except Fault Cut :=
  if body == 0 then .ok ⟨.endHeredoc, closer - 1, .code⟩
  else
    let size := Text.byteLength (c :: rest.take (body - 1))
    if Limits.stringSize < size then .error (.stringTooLarge size)
    else .ok ⟨.heredocBody, body - 1, .heredoc 0 closer⟩

/-- The next lexeme. -/
def cutNext (s : State) (c : Char) (rest : List Char) : Except Fault Cut :=
  match s.mode with
  | .markup => .ok (cutMarkup c rest)
  | .code => cutCode s c rest
  | .heredoc body closer => cutHeredocPart body closer c rest

/-! ## The whole template -/

/-- The lexemes of a template up to its end or to the first fault. -/
structure Scan where
  /-- The lexemes found. -/
  lexemes : Array Lexeme
  /-- Why scanning stopped early. -/
  fault : Option Fault
  deriving DecidableEq, Repr

/-- Scans from a state on.  `found` holds the lexemes before. -/
def scanFrom (s : State) (cs : List Char) (found : Array Lexeme) : Scan :=
  match cs with
  | [] => ⟨found, none⟩
  | c :: rest =>
    match cutNext s c rest with
    | .error fault => ⟨found, some fault⟩
    | .ok cut =>
      let text := String.ofList (c :: rest.take cut.more)
      scanFrom (s.after cut) (rest.drop cut.more) (found.push ⟨cut.kind, text⟩)
termination_by cs.length
decreasing_by simp only [List.length_drop, List.length_cons]; omega

/-- Stops behind the first lexeme over the limit. -/
def Scan.capped (limit : Nat) (scan : Scan) : Scan :=
  if scan.lexemes.size ≤ limit then scan
  else ⟨scan.lexemes.extract 0 (limit + 1), some (.tooManyTokens (limit + 1))⟩

/-- The lexemes of a template, within the limit of tokens. -/
def scan (source : String) : Scan :=
  (scanFrom .initial source.toList #[]).capped Limits.tokenCount

end EscapeAudit.Lexer
