import EscapeAudit.Decimal.Binary
import EscapeAudit.Event.Collector
import EscapeAudit.Settings.Basic

/-!
# The journal

The parts of the program do not write events.  They leave *entries*, in order, as part of their
result, and the journal turns entries into events.  An entry is a note, a finding recorded for a
file, or the beginning or end of work on a file.

A note becomes an event with the current file in its context.  Notes of the level *error* are also
collected for the current file.  An event is written when its level is loud enough.  Details that
tell the time stand in a note as such, and the journal fills in the time that has passed.
-/

namespace EscapeAudit

/-- A named detail of a note. -/
inductive Detail where
  /-- A text. -/
  | text (s : String)
  /-- The time that has passed, in milliseconds. -/
  | elapsed
  /-- How many tokens were handled in a second. -/
  | rate (tokens : Nat)
  deriving DecidableEq, Repr

namespace Detail

/-- A number. -/
def nat (n : Nat) : Detail := .text (toString n)

/-- A truth value. -/
def flag (b : Bool) : Detail := .text (if b then "true" else "false")

/-- The text of a detail after a time in nanoseconds. -/
def render (nanos : Nat) : Detail → String
  | text s => s
  | elapsed => (Decimal.Binary.ofRatio nanos 1000000).fixed 2
  | rate tokens => if nanos == 0 then "0" else Decimal.fixed 0 (tokens * 1000000000) nanos

end Detail

/-- What a part of the program has to say. -/
structure Note where
  /-- How loud it is. -/
  level : Level
  /-- Its code. -/
  code : Code
  /-- What happened. -/
  message : String
  /-- Named details. -/
  details : List (String × Detail)
  /-- The place in the template. -/
  span : Option Span
  deriving DecidableEq, Repr

namespace Note

/-- Something failed. -/
def error (code : Code) (message : String) (details : List (String × Detail)) : Note :=
  ⟨.error, code, message, details, none⟩

/-- Something needs attention. -/
def warning (code : Code) (message : String) (details : List (String × Detail)) : Note :=
  ⟨.warning, code, message, details, none⟩

/-- Something with a code of its own was done. -/
def success (code : Code) (message : String) (details : List (String × Detail)) : Note :=
  ⟨.info, code, message, details, none⟩

/-- Something was done. -/
def info (message : String) (details : List (String × Detail)) : Note :=
  ⟨.info, .info, message, details, none⟩

/-- A detail of the work. -/
def debug (message : String) (details : List (String × Detail)) : Note :=
  ⟨.debug, .debug, message, details, none⟩

end Note

/-- What the parts of the program leave for the journal. -/
inductive Entry where
  /-- A note. -/
  | note (n : Note)
  /-- A note that is kept only when events about time are. -/
  | timing (n : Note)
  /-- An event recorded for a file without being written. -/
  | finding (file : Path) (e : Event)
  /-- Work on a file begins. -/
  | enter (file : Path) (number : Nat)
  /-- Work on the current file ends. -/
  | leave
  deriving DecidableEq, Repr

/-- What has been noted. -/
structure Journal where
  /-- What is kept and shown. -/
  settings : LogSettings
  /-- The time that has passed, in nanoseconds. -/
  nanos : Nat
  /-- The events of each file. -/
  collector : Collector
  /-- The current file with its number. -/
  current : Option (Path × Nat)
  /-- The events written, in order. -/
  written : Array Event

namespace Journal

/-- A journal with nothing in it. -/
def empty (settings : LogSettings) : Journal :=
  ⟨settings, 0, .empty, none, #[]⟩

/-- The event of a note, with the current file in its context if that is wanted. -/
def eventOf (j : Journal) (n : Note) : Event :=
  let e := Event.plain n.level n.code n.message
  let e := { e with span := n.span }
  let e := e.withContexts (n.details.map fun (key, d) => (key, d.render j.nanos))
  match j.current with
  | some (file, _) => if j.settings.fileContext then e.withContext "file" file.text else e
  | none => e

/-- Writes an event that is loud enough. -/
def write (j : Journal) (e : Event) : Journal :=
  if j.settings.leastLevel.passes e.level then { j with written := j.written.push e } else j

/-- Takes up a note. -/
def note (j : Journal) (n : Note) : Journal :=
  let e := j.eventOf n
  let j := match j.current with
    | some (file, _) =>
      if n.level == Level.error then { j with collector := j.collector.record file e } else j
    | none => j
  j.write e

/-- Takes up an entry. -/
def add (j : Journal) : Entry → Journal
  | .note n => j.note n
  | .timing n => if j.settings.performance then j.note n else j
  | .finding file e => { j with collector := j.collector.record file e }
  | .enter file number =>
    { j with collector := j.collector.takeUp file number, current := some (file, number) }
  | .leave => { j with current := none }

/-- Takes up entries in order. -/
def addAll (j : Journal) (entries : List Entry) : Journal :=
  entries.foldl add j

/-- The share of the buffer that the collected events take, as a quotient. -/
def fill (j : Journal) : Nat × Nat := (j.collector.count, Limits.logBuffer)

/-- The name of a level in the text about the journal. -/
def levelTitle : Level → String
  | .error => "Error"
  | .warning => "Warning"
  | .info => "Info"
  | .debug => "Debug"

/-- A text about the journal itself. -/
def describe (j : Journal) : String :=
  let (current, size) := j.fill
  let fraction := Decimal.Binary.ofRatio current size
  let percent := (fraction.mul (.ofNat 100)).fixed 1
  let s := j.settings
  "=== Logging System Diagnostics ===\n" ++
  "Initialized: true\n" ++
  s!"Capacity: {current}/{size} ({percent}%)\n" ++
  "\n" ++
  "Logging Configuration:\n" ++
  s!"- Log buffer size: {Limits.logBuffer}\n" ++
  s!"- Max events per file: {Limits.eventsPerFile}\n" ++
  s!"- Max message length: {Limits.messageLength}\n" ++
  s!"- Min log level: {levelTitle s.leastLevel}\n" ++
  s!"- Structured logging: {s.structured}\n" ++
  s!"- Console logging: {s.console}\n" ++
  s!"- Cargo-style output: {s.compilerStyle}"

end Journal

end EscapeAudit
