import EscapeAudit.Event.Code
import EscapeAudit.Json
import EscapeAudit.Limits
import EscapeAudit.Position

/-!
# Events

An event is a message with a level, a code, a place if it has one, and a context of named texts in
the order of their names.  A message that is too long is cut behind its last whole character
within the limit.
-/

namespace EscapeAudit

/-- How loud an event is.  A louder level comes first. -/
inductive Level where
  /-- Something failed. -/
  | error
  /-- Something needs attention. -/
  | warning
  /-- Something was done. -/
  | info
  /-- A detail. -/
  | debug
  deriving DecidableEq, Repr

namespace Level

/-- The place of a level in the order, from the loudest. -/
def rank : Level → Nat
  | error => 0
  | warning => 1
  | info => 2
  | debug => 3

/-- The name in a line of the log. -/
def name : Level → String
  | error => "ERROR"
  | warning => "WARN"
  | info => "INFO"
  | debug => "DEBUG"

/-- Whether a level passes when only levels as loud as `least` are wanted. -/
def passes (least level : Level) : Bool := level.rank ≤ least.rank

end Level

/-- Named texts in the order of their names, each name once. -/
abbrev Context := List (String × String)

/-- Sets a text.  An earlier text of the same name is lost. -/
def Context.insert : Context → String → String → Context
  | [], key, value => [(key, value)]
  | (k, v) :: rest, key, value =>
    if key < k then (key, value) :: (k, v) :: rest
    else if key == k then (key, value) :: rest
    else (k, v) :: Context.insert rest key value

/-- An event of the journal. -/
structure Event where
  /-- How loud it is. -/
  level : Level
  /-- Its code. -/
  code : Code
  /-- What happened. -/
  message : String
  /-- The place in the template. -/
  span : Option Span
  /-- Named texts. -/
  context : Context
  deriving DecidableEq, Repr

namespace Event

/-- The last place between two characters that does not stand behind the byte `n`.  It is looked
for backwards from there, one byte at a time. -/
def lastBoundary (text : String) : (n : Nat) → text.Pos
  | 0 => text.startPos
  | n + 1 =>
    if h : (String.Pos.Raw.mk (n + 1)).IsValid text then text.pos _ h else lastBoundary text n

/-- The message within the limit.  A longer one is cut behind a whole character and marked by
dots. -/
def truncate (message : String) : String :=
  if message.utf8ByteSize ≤ Limits.messageLength then message
  else (message.sliceTo (lastBoundary message Limits.messageLength)).copy ++ "..."

/-- An event without a place and without a context. -/
def plain (level : Level) (code : Code) (message : String) : Event :=
  ⟨level, code, truncate message, none, []⟩

/-- An error. -/
def error (code : Code) (message : String) : Event := plain .error code message

/-- A warning. -/
def warning (code : Code) (message : String) : Event := plain .warning code message

/-- Information with a code of its own. -/
def success (code : Code) (message : String) : Event := plain .info code message

/-- Plain information. -/
def info (message : String) : Event := plain .info .info message

/-- A debugging message. -/
def debug (message : String) : Event := plain .debug .debug message

/-- The event at a place. -/
def withSpan (e : Event) (span : Span) : Event := { e with span := some span }

/-- The event with a named text. -/
def withContext (e : Event) (key value : String) : Event :=
  { e with context := Context.insert e.context key value }

/-- The event with named texts, set one after another. -/
def withContexts (e : Event) (pairs : List (String × String)) : Event :=
  pairs.foldl (fun e (key, value) => e.withContext key value) e

/-- Whether something failed. -/
def isError (e : Event) : Bool := e.level == .error

/-- Whether something needs attention. -/
def isWarning (e : Event) : Bool := e.level == .warning

/-- The event on one line. -/
def render (e : Event) : String :=
  let place := match e.span with
    | some span => " at " ++ span.start.render
    | none => ""
  s!"[{e.level.name}] {e.code.text} - {e.message}{place}"

/-- The event as a JSON object with its fields in the order of their names. -/
def toJson (stamp : String) (e : Event) : Json :=
  let context := match e.context with
    | [] => []
    | pairs => [("context", Json.object (pairs.map fun (k, v) => (k, Json.string v)))]
  let span := match e.span with
    | none => []
    | some s =>
      [("span", Json.object
        [("end_column", .nat s.stop.column), ("end_line", .nat s.stop.line),
         ("start_column", .nat s.start.column), ("start_line", .nat s.start.line)])]
  .object
    ([("category", .string e.code.category), ("code", .string e.code.text)] ++ context ++
     [("level", .string e.level.name), ("message", .string e.message),
      ("severity", .string e.code.severity.name)] ++ span ++
     [("timestamp", .string stamp)])

end Event

end EscapeAudit
