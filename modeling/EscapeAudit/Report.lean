import EscapeAudit.Batch.Results
import EscapeAudit.Decimal.Shortest
import EscapeAudit.SourceMap

/-!
# Reports

A report lists the templates with diagnostics and the files that failed.  It has a text for
readers, with or without the lines of the templates, and a JSON text for tools.  The exit status
says whether anything failed, else whether there are diagnostics.
-/

namespace EscapeAudit

/-- The result of a whole run. -/
inductive ExitStatus where
  /-- Nothing to report. -/
  | clean
  /-- There are diagnostics. -/
  | diagnosticsFound
  /-- A file failed. -/
  | processingFailed
  deriving DecidableEq, Repr

namespace ExitStatus

/-- The number that the program ends with. -/
def code : ExitStatus → Nat
  | clean => 0
  | diagnosticsFound => 1
  | processingFailed => 2

/-- The name of a status. -/
def name : ExitStatus → String
  | clean => "Clean"
  | diagnosticsFound => "DiagnosticsFound"
  | processingFailed => "ProcessingFailed"

end ExitStatus

/-- The part of a report about one template. -/
structure FileReport where
  /-- The path. -/
  path : String
  /-- The diagnostics, each with its line of the template underlined. -/
  diagnostics : List (Diagnostic × String)
  /-- The number of accepted changesets. -/
  applied : Nat
  /-- The number of refused changesets. -/
  rejected : Nat

/-- The part of a report about a file that failed. -/
structure FailureReport where
  /-- The path. -/
  path : String
  /-- The code of the error. -/
  code : Code
  /-- The text of the error. -/
  message : String

/-- A report. -/
structure Report where
  /-- The number of files. -/
  filesChecked : Nat
  /-- The number of diagnostics. -/
  diagnostics : Nat
  /-- The number of files written. -/
  filesFixed : Nat
  /-- The time taken, in nanoseconds. -/
  nanos : Nat
  /-- The templates with diagnostics. -/
  files : List FileReport
  /-- The files that failed. -/
  failures : List FailureReport

namespace Report

/-- The name of the program in reports. -/
def tool : String := "xss_guard"

/-- The version of the program. -/
def version : String := "0.1.0"

/-- The part about one template. -/
def ofChecked (c : Checked) : FileReport :=
  let map := SourceMap.ofSource c.source
  ⟨c.path.text, c.diagnostics.map fun d => (d, map.snippet d.span), c.applied, c.rejected⟩

/-- The report on a batch that took a time. -/
def ofResults (r : BatchResults) (nanos : Nat) : Report where
  filesChecked := r.processed
  diagnostics := r.diagnosticCount
  filesFixed := r.written.size
  nanos := nanos
  files := (r.checked.toList.filter (!·.clean)).map ofChecked
  failures := r.failed.toList.map fun (p, e) => ⟨p.text, e.code, e.message⟩

/-- The exit status.  Failures outrank diagnostics. -/
def exitStatus (r : Report) : ExitStatus :=
  if !r.failures.isEmpty then .processingFailed
  else if r.diagnostics != 0 then .diagnosticsFound
  else .clean

/-- The time taken, in milliseconds. -/
def milliseconds (r : Report) : String :=
  Decimal.shortest ((BatchResults.seconds r.nanos).mul (.ofNat 1000))

/-- A diagnostic in JSON. -/
def diagnosticJson (d : Diagnostic) : Json :=
  .object
    [("code", .string d.concern.title), ("sniff", .string d.concern.sniff),
     ("message", .string d.message), ("line", .nat d.span.start.line),
     ("column", .nat d.span.start.column), ("fixable", .bool d.fixable)]

/-- The part about one template in JSON. -/
def fileJson (f : FileReport) : Json :=
  .object
    [("path", .string f.path),
     ("diagnostics", .array (f.diagnostics.map fun (d, _) => diagnosticJson d)),
     ("applied_changesets", .nat f.applied), ("rejected_changesets", .nat f.rejected)]

/-- The part about a file that failed in JSON. -/
def failureJson (f : FailureReport) : Json :=
  .object [("path", .string f.path), ("code", .string f.code.text), ("message", .string f.message)]

/-- The report in JSON with the time at which it was made. -/
def toJson (stamp : String) (r : Report) : Json :=
  .object
    [("tool", .string tool), ("version", .string version), ("generated_at", .string stamp),
     ("summary", .object
       [("files_checked", .nat r.filesChecked), ("files_with_diagnostics", .nat r.files.length),
        ("diagnostics", .nat r.diagnostics), ("failures", .nat r.failures.length),
        ("files_fixed", .nat r.filesFixed), ("duration_ms", .number r.milliseconds)]),
     ("files", .array (r.files.map fileJson)), ("failures", .array (r.failures.map failureJson))]

/-- The last line of the text. -/
def summaryLine (r : Report) : String :=
  s!"{r.filesChecked} files checked, {r.diagnostics} diagnostics in {r.files.length} files, " ++
  s!"{r.failures.length} failed, {r.filesFixed} fixed"

/-- The lines about one diagnostic. -/
def diagnosticText (snippets : Bool) (path : String) (d : Diagnostic) (snippet : String) :
    String :=
  s!"{path}:{d.span.start.render}: warning[{d.concern.sniff}]: {d.message}\n" ++
  (if snippets then snippet else "")

/-- The lines about one template. -/
def fileText (snippets : Bool) (f : FileReport) : String :=
  Text.join (f.diagnostics.map fun (d, snippet) => diagnosticText snippets f.path d snippet)

/-- The line about a file that failed. -/
def failureText (f : FailureReport) : String :=
  s!"{f.path}: error[{f.code.text}]: {f.message}\n"

/-- The text for readers. -/
def render (snippets : Bool) (r : Report) : String :=
  Text.join (r.files.map (fileText snippets)) ++ Text.join (r.failures.map failureText) ++
  r.summaryLine ++ "\n"

end Report

end EscapeAudit
