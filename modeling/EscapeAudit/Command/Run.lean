import EscapeAudit.Batch.Basic
import EscapeAudit.Command.Arguments
import EscapeAudit.Command.Instant
import EscapeAudit.Command.Trace
import EscapeAudit.Report
import EscapeAudit.Settings.Decode

/-!
# Running the command

The command works on a value that holds the files, and gives what it prints, its exit status, and
the files as they are then.  What depends on the clock comes from outside: the time of day as a
text, and the time that the checks took.  So the work is in two steps: `perform` checks, and
`present` tells.
-/

namespace EscapeAudit.Command

/-- What the command sees of the world. -/
structure World where
  /-- The files. -/
  tree : FileTree
  /-- The environment variables. -/
  env : Environment
  /-- The number of processors. -/
  processors : Nat

/-- What the clock says. -/
structure Moment where
  /-- The time of day in events. -/
  eventStamp : String
  /-- The time of day in trace lines. -/
  traceStamp : String
  /-- The time of day in reports. -/
  reportStamp : String
  /-- The time that the checks took, in nanoseconds. -/
  nanos : Nat

/-- The texts of a point in time, behind checks that took a time. -/
def Moment.ofInstant (i : Instant) (nanos : Nat) : Moment where
  eventStamp := i.render ++ i.fraction ++ "+00:00"
  traceStamp := i.render ++ "Z"
  reportStamp := i.render ++ i.fraction ++ "Z"
  nanos := nanos

/-- What the command leaves. -/
structure Output where
  /-- The exit status. -/
  exit : Nat
  /-- What it printed. -/
  stdout : String
  /-- What it printed about itself. -/
  stderr : String

/-- The name of the part of the program that writes trace lines. -/
def part : String := "xss_guard"

/-- The variable that holds the trace filter. -/
def filterVariable : String := "RUST_LOG"

/-- The filter of trace lines. -/
def filterOf (env : Environment) : TraceFilter :=
  TraceFilter.parse ((env filterVariable).getD "warn")

/-- What is printed so far. -/
structure Session where
  /-- The filter of trace lines. -/
  filter : TraceFilter
  /-- What the clock says. -/
  moment : Moment
  /-- The journal. -/
  journal : Journal
  /-- What was printed. -/
  stdout : String
  /-- What was printed about the program itself. -/
  stderr : String

namespace Session

/-- An empty session. -/
def start (env : Environment) (moment : Moment) (log : LogSettings) : Session :=
  let filter := filterOf env
  { filter := filter
    moment := moment
    journal := { Journal.empty log with nanos := moment.nanos }
    stdout := ""
    stderr := filter.warnings }

/-- The line of an event. -/
def eventLine (s : Session) (e : Event) : String :=
  if s.journal.settings.structured then (e.toJson s.moment.eventStamp).compact ++ "\n"
  else e.render ++ "\n"

/-- Takes up entries and prints the events that are written for them. -/
def tell (s : Session) (entries : List Entry) : Session :=
  let journal := ({ s.journal with written := #[] } : Journal).addAll entries
  let lines := if journal.settings.console then
      Text.join (journal.written.toList.map s.eventLine)
    else ""
  { s with journal := journal, stderr := s.stderr ++ lines }

/-- Prints a trace line. -/
def trace (s : Session) (level : TraceLevel) (message : String) : Session :=
  if s.filter.passes part level message then
    { s with stderr := s.stderr ++ traceLine s.moment.traceStamp part level message }
  else s

/-- Prints a text. -/
def print (s : Session) (text : String) : Session := { s with stdout := s.stdout ++ text }

/-- Prints a text about the program itself. -/
def printError (s : Session) (text : String) : Session := { s with stderr := s.stderr ++ text }

/-- Ends with a status. -/
def finish (s : Session) (exit : Nat) : Output := ⟨exit, s.stdout, s.stderr⟩

end Session

/-- The settings that the arguments ask for. -/
def settingsFor (w : World) (a : Arguments) : Except SettingsError Settings := do
  let settings ← match a.config with
    | some path => w.tree.loadSettings w.env ⟨path⟩
    | none => .ok (.default w.env)
  return if a.has .fix then
    { settings with analysis := { settings.analysis with applyFixes := true } }
  else settings

/-- The number of workers that the arguments ask for. -/
def threadsFor (w : World) (a : Arguments) : Nat := a.threads.getD w.processors

/-- How the arguments want the batch to be run. -/
def batchOptionsFor (w : World) (a : Arguments) : BatchOptions where
  threads := max 1 (threadsFor w a)
  recursive := !a.has .noRecursive
  maxFiles := a.maxFiles
  failFast := false
  writeFixes := a.has .fix

/-- What checking gave. -/
structure Performance where
  /-- The settings, or why there are none. -/
  settings : Except SettingsError Settings
  /-- The results of the batch with what the journal is told. -/
  batch : Told (Except BatchError BatchRun)

/-- Checks what the arguments ask for. -/
def perform (w : World) (path : String) (a : Arguments) : Performance :=
  let settings := settingsFor w a
  match settings with
  | .error _ => ⟨settings, .silent (.error (.directoryNotFound path))⟩
  | .ok s => ⟨settings, (w.tree.checkPath s (batchOptionsFor w a) ⟨path⟩).run⟩

/-- Prints the report in the form that the arguments ask for. -/
def printReport (a : Arguments) (report : Report) (s : Session) : Session :=
  match a.format.getD .text with
  | .json => s.print ((report.toJson s.moment.reportStamp).pretty ++ "\n")
  | .text =>
    if a.has .quiet then s.print (report.summaryLine ++ "\n")
    else
      let s := s.print (report.render true)
      if !report.failures.isEmpty && s.journal.settings.compilerStyle then
        s.printError s.journal.collector.render
      else s

/-- Tells about a settings file that is read. -/
def traceSettings (a : Arguments) (s : Session) : Session :=
  match a.config with
  | some path => s.trace .debug s!"Loading configuration from {path}"
  | none => s

/-- Tells about the end of a batch that was run. -/
def presentRun (a : Arguments) (run : BatchRun) (s : Session) : Output :=
  let nanos := s.moment.nanos
  let report := Report.ofResults run.results nanos
  let status := report.exitStatus.code
  let s := printReport a report s
  let s := s.trace .info (run.results.summary nanos)
  let s := s.tell [.note (.success .completed "xss-guard finished" [("exit_status", .nat status)])]
  s.finish status

/-- Tells about a batch that could not be run. -/
def presentFailure (e : BatchError) (s : Session) : Output :=
  let s := s.tell [.note (.error e.code e.message [])]
  let s := s.trace .error e.message
  s.finish ExitStatus.processingFailed.code

/-- Tells what checking gave. -/
def present (w : World) (moment : Moment) (path : String) (a : Arguments) (p : Performance) :
    Output :=
  match p.settings with
  | .error e =>
    let s := traceSettings a (.start w.env moment (Settings.defaultLog w.env))
    (s.trace .error e.message).finish ExitStatus.processingFailed.code
  | .ok settings =>
    let s := traceSettings a (.start w.env moment settings.log)
    let s := s.tell [.note (.success .initialized "Global logging system initialized" [])]
    let s := s.trace .debug s.journal.describe
    let s := s.tell [.note (.info "xss-guard starting"
      [("path", .text path), ("fix", .flag (a.has .fix)), ("threads", .nat (threadsFor w a))])]
    let s := s.tell p.batch.entries
    match p.batch.value with
    | .error e => presentFailure e s
    | .ok run => presentRun a run s

/-- The files after checking. -/
def Performance.tree (w : World) (p : Performance) : FileTree :=
  match p.batch.value with
  | .ok run => run.tree
  | .error _ => w.tree

/-- The text of the version. -/
def versionText : String := s!"xss-guard {Report.version}\n"

/-- How to use the program, given the number of processors. -/
def helpText (processors : Nat) : String :=
  "Find and fix unescaped output in .phtml templates\n\n" ++
  "Usage: xss-guard [OPTIONS] <PATH>\n\n" ++
  "Arguments:\n" ++
  "  <PATH>  Template file or directory to check\n\n" ++
  "Options:\n" ++
  "      --fix                    Rewrite templates in place with the suggested escaping\n" ++
  "      --format <FORMAT>        Report format [default: text] [possible values: text, json]\n" ++
  "      --config <CONFIG>        TOML file with runtime preferences and rule table overrides\n" ++
  s!"  -j, --threads <THREADS>      Worker threads for directory checks [default: {processors}]\n" ++
  "      --no-recursive           Only check templates directly inside the directory\n" ++
  "      --max-files <MAX_FILES>  Stop discovery after this many templates\n" ++
  "  -q, --quiet                  Print only the summary line\n" ++
  "  -h, --help                   Print help\n" ++
  "  -V, --version                Print version\n"

/-- What the command leaves when it only prints a text about itself. -/
def inform (env : Environment) (text : String) : Output := ⟨0, text, (filterOf env).warnings⟩

/-- The exit status of arguments that make no sense. -/
def usageStatus : Nat := 2

end EscapeAudit.Command
