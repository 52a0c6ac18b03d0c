import EscapeAudit.Position
import EscapeAudit.Text.Quoted
import EscapeAudit.Token.Kind

/-!
# Token streams

A lexeme is a kind with a text.  A stream is built from lexemes one by one.  Each becomes a token
whose span begins where the one before ended, so the texts of a stream joined together are the
template.

While it is built, parentheses find their partners by a stack.  A closing parenthesis is the
partner of the last opening one that has none yet.  A close tag empties the stack, because no pair
of parentheses reaches over the end of a code region.  A parenthesis without a partner stays
alone.
-/

namespace EscapeAudit

/-- A kind with a text. -/
structure Lexeme where
  /-- The kind. -/
  kind : Kind
  /-- The characters. -/
  text : String
  deriving DecidableEq, Repr, Inhabited

/-- A token of a template. -/
structure Token where
  /-- The kind. -/
  kind : Kind
  /-- The characters. -/
  text : String
  /-- Where it stands. -/
  span : Span
  /-- For a parenthesis, the index of the other one of its pair. -/
  partner : Option Nat
  deriving DecidableEq, Repr, Inhabited

namespace Token

/-- The token without its place. -/
def lexeme (t : Token) : Lexeme := ⟨t.kind, t.text⟩

/-- `Kind("text") at line:column`. -/
def render (t : Token) : String :=
  s!"{t.kind.name}({Text.quoted t.text}) at {t.span.start.render}"

end Token

/-- The tokens of a template in order. -/
structure Stream where
  /-- The tokens. -/
  tokens : Array Token
  deriving DecidableEq, Repr, Inhabited

namespace Stream

/-- A stream under construction. -/
structure Builder where
  /-- The tokens so far. -/
  tokens : Array Token
  /-- The opening parentheses that wait for a partner, last first. -/
  openings : List Nat
  /-- Where the next token begins. -/
  position : Position
  deriving DecidableEq, Repr

namespace Builder

/-- No tokens yet. -/
def empty : Builder := ⟨#[], [], .start⟩

/-- Appends a token behind the last one. -/
def push (b : Builder) (l : Lexeme) : Builder :=
  let span := Span.covering b.position l.text
  let index := b.tokens.size
  match l.kind, b.openings with
  | .openParenthesis, openings =>
    ⟨b.tokens.push ⟨l.kind, l.text, span, none⟩, index :: openings, span.stop⟩
  | .closeParenthesis, opener :: openings =>
    let tokens := b.tokens.modify opener fun t => { t with partner := some index }
    ⟨tokens.push ⟨l.kind, l.text, span, some opener⟩, openings, span.stop⟩
  | .closeTag, _ => ⟨b.tokens.push ⟨l.kind, l.text, span, none⟩, [], span.stop⟩
  | _, openings => ⟨b.tokens.push ⟨l.kind, l.text, span, none⟩, openings, span.stop⟩

/-- Appends lexemes in order. -/
def pushAll (b : Builder) (lexemes : List Lexeme) : Builder :=
  lexemes.foldl push b

/-- The finished stream. -/
def build (b : Builder) : Stream := ⟨b.tokens⟩

end Builder

/-- The stream of a sequence of lexemes. -/
def ofLexemes (lexemes : List Lexeme) : Stream :=
  (Builder.empty.pushAll lexemes).build

/-- The number of tokens. -/
def size (s : Stream) : Nat := s.tokens.size

/-- The kind of a token. -/
def kind? (s : Stream) (i : Nat) : Option Kind := s.tokens[i]?.map Token.kind

/-- The text of a token, empty behind the end of the stream. -/
def text (s : Stream) (i : Nat) : String := (s.tokens[i]?.map Token.text).getD ""

/-- The other one of a pair of parentheses. -/
def partner? (s : Stream) (i : Nat) : Option Nat := s.tokens[i]?.bind Token.partner

/-- The span of a token, with every number 0 behind the end of the stream. -/
def span (s : Stream) (i : Nat) : Span := (s.tokens[i]?.map Token.span).getD .none

/-- Whether a token stands at an index and has a kind that passes the test. -/
def holds (s : Stream) (test : Kind → Bool) (i : Nat) : Bool :=
  match s.tokens[i]? with
  | some t => test t.kind
  | none => false

/-- The text of the tokens from `start` up to `stop`. -/
def textBetween (s : Stream) (start stop : Nat) : String :=
  s.tokens.foldl (fun acc t => acc ++ t.text) "" start (min stop s.size)

/-- The text of the template. -/
def source (s : Stream) : String := s.textBetween 0 s.size

end Stream

end EscapeAudit
