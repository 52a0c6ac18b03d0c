import EscapeAudit.Event.Basic
import EscapeAudit.Path

/-!
# Collected events

The collector keeps the events of each file, and remembers which files were taken up.  It keeps
the first events of a file up to the limit.  The next event of that file leaves one warning in its
place, and all later ones leave nothing.

`render` writes the collected events in the way of a compiler: errors with what to do about them,
then warnings with their context, file by file, and a line that counts them.
-/

namespace EscapeAudit

/-- The events of each file and the files taken up. -/
structure Collector where
  /-- The events by file. -/
  events : PathMap (Array Event)
  /-- The files taken up, with their number. -/
  files : PathMap Nat
  deriving Repr

/-- How many files were clean, had warnings or failed, and how many errors and warnings there
were. -/
structure Collector.Summary where
  /-- All files. -/
  total : Nat
  /-- Files with neither errors nor warnings. -/
  clean : Nat
  /-- Files with errors. -/
  failed : Nat
  /-- Files with warnings and no errors. -/
  withWarnings : Nat
  /-- All errors. -/
  errors : Nat
  /-- All warnings. -/
  warnings : Nat
  deriving DecidableEq, Repr

namespace Collector

/-- Nothing collected. -/
def empty : Collector := ⟨[], []⟩

/-- The warning that stands for the events beyond the limit. -/
def overflow : Event :=
  .warning .internalError s!"Too many events for file (limit: {Limits.eventsPerFile})"

/-- The events of a file with one more. -/
def append (events : Array Event) (e : Event) : Array Event :=
  if events.size < Limits.eventsPerFile then events.push e
  else if events.size == Limits.eventsPerFile then events.push overflow
  else events

/-- Records an event for a file. -/
def record (c : Collector) (file : Path) (e : Event) : Collector :=
  { c with events := c.events.alter (fun old => append (old.getD #[]) e) file }

/-- Remembers that a file was taken up. -/
def takeUp (c : Collector) (file : Path) (number : Nat) : Collector :=
  { c with files := c.files.insert file number }

/-- The events of a file. -/
def eventsOf (c : Collector) (file : Path) : Array Event :=
  (c.events.get? file).getD #[]

/-- All events of all files. -/
def count (c : Collector) : Nat :=
  c.events.foldl (fun n entry => n + entry.2.size) 0

/-- The files that were taken up or have events, each once. -/
def allFiles (c : Collector) : List Path :=
  c.files.map Prod.fst ++
    (c.events.filter fun entry => (c.files.get? entry.1).isNone).map Prod.fst

/-- How many events pass a test. -/
def countWhere (events : Array Event) (test : Event → Bool) : Nat :=
  (events.filter test).size

/-- A summary with the events of one more file. -/
def Summary.add (s : Summary) (events : Array Event) : Summary :=
  let errors := countWhere events Event.isError
  let warnings := countWhere events Event.isWarning
  { total := s.total + 1
    clean := if errors == 0 && warnings == 0 then s.clean + 1 else s.clean
    failed := if errors == 0 then s.failed else s.failed + 1
    withWarnings := if errors == 0 && warnings != 0 then s.withWarnings + 1 else s.withWarnings
    errors := s.errors + errors
    warnings := s.warnings + warnings }

/-- The summary of all files. -/
def summary (c : Collector) : Summary :=
  c.allFiles.foldl (fun s file => s.add (c.eventsOf file)) ⟨0, 0, 0, 0, 0, 0⟩

/-- The line that points to the place of an event. -/
def renderPlace (file : Path) (e : Event) : String :=
  match e.span with
  | some span => s!"\n  --> {file.text}:{span.start.render}"
  | none => ""

/-- An error with what to do about it. -/
def renderError (file : Path) (e : Event) : String :=
  let action := e.code.action
  let help := if action == Code.noAction then "" else s!"  = help: {action}\n"
  s!"error[{e.code.text}]: {e.message}{renderPlace file e}\n{help}"

/-- A warning with its context. -/
def renderWarning (file : Path) (e : Event) : String :=
  let shown := e.context.filter fun (key, _) => key != "file" && key != "file_id"
  let lines := shown.map fun (key, value) => s!"  = {key}: {value}\n"
  s!"warning[{e.code.text}]: {e.message}{renderPlace file e}\n{Text.join lines}"

/-- The errors and warnings of a file, or nothing when it has none. -/
def renderFile (file : Path) (events : Array Event) : String :=
  let errors := (events.filter Event.isError).toList
  let warnings := (events.filter Event.isWarning).toList
  if errors.isEmpty && warnings.isEmpty then ""
  else
    Text.join (errors.map (renderError file)) ++ Text.join (warnings.map (renderWarning file)) ++
      "\n"

/-- All collected events in the way of a compiler. -/
def render (c : Collector) : String :=
  let s := c.summary
  Text.join (c.events.map fun (file, events) => renderFile file events) ++
    s!"Scanned {s.total} file(s): {s.warnings} warning(s), {s.errors} error(s)\n"

end Collector

end EscapeAudit
