import EscapeAudit.Audit
import EscapeAudit.Check.Load
import EscapeAudit.Edit.Draft
import EscapeAudit.Lexer.Tokenize

/-!
# Checking a template

A template is cut into tokens, the rules look at them, and with fixes switched on their changesets
go into a draft whose text is the fixed template.  The text is only returned, never written here.
-/

namespace EscapeAudit

/-- Why a template cannot be checked. -/
inductive CheckError where
  /-- It cannot be loaded. -/
  | load (e : LoadError)
  /-- It cannot be cut into tokens. -/
  | lex (e : LexError)
  deriving DecidableEq, Repr

namespace CheckError

/-- The code of an error. -/
def code : CheckError → Code
  | load e => e.code
  | lex e => e.code

/-- The text of an error. -/
def message : CheckError → String
  | load e => "File processing failed: " ++ e.message
  | lex e => "Lexical analysis failed: " ++ e.message

/-- Whether a batch can go on with the next template. -/
def recoverable : CheckError → Bool
  | load e => e.code.recoverable
  | lex _ => true

end CheckError

/-- A template that was checked. -/
structure Checked where
  /-- Its path. -/
  path : Path
  /-- Its text. -/
  source : String
  /-- The diagnostics in order. -/
  diagnostics : List Diagnostic
  /-- The fixed text, if fixes were asked for and one was accepted. -/
  fixed : Option String
  /-- The number of accepted changesets. -/
  applied : Nat
  /-- The number of refused changesets. -/
  rejected : Nat
  /-- The number of tokens. -/
  tokens : Nat
  /-- Counts over the tokens. -/
  metrics : Metrics
  deriving DecidableEq, Repr

namespace Checked

/-- Whether there is nothing to report. -/
def clean (c : Checked) : Bool := c.diagnostics.isEmpty

/-- The number of diagnostics with a concern. -/
def count (c : Checked) (concern : Concern) : Nat := Diagnostic.count concern c.diagnostics

/-- The note about a template that was checked as a file. -/
def completion (c : Checked) : Note :=
  .success .fileProcessed "Template check completed"
    [("file", .text c.path.text), ("diagnostics", .nat c.diagnostics.length),
     ("entry_points", .nat c.metrics.entryPoints), ("duration_ms", .elapsed),
     ("tokens_per_sec", .rate c.tokens)]

end Checked

/-- The draft with the changesets of an audit, if fixes are asked for and there are any. -/
def Audit.draft? (s : Stream) (settings : AnalysisSettings) (a : Audit) : Option Draft :=
  if settings.applyFixes && !a.changesets.isEmpty then
    some ((Draft.ofStream s).submitAll a.changesets)
  else none

/-- The note about a draft. -/
def Draft.completion (d : Draft) (path : Path) : Note :=
  .success .fixesApplied "Fixes applied"
    [("file", .text path.text), ("applied", .nat d.applied), ("rejected", .nat d.rejected)]

/-- What is left of a draft in the result. -/
def Draft.fixed? (d : Draft) : Option String := if d.changed then some d.text else none

/-- Runs the rules over the tokens of a template. -/
def analyze (settings : Settings) (path : Path) (s : Stream) (metrics : Metrics) :
    Told Checked :=
  let a := s.audit settings.rules settings.analysis
  let draft := a.draft? s settings.analysis
  let told := a.entries s ++ a.diagnostics.map (fun d => Entry.finding path d.event) ++
    (match draft with
     | some d => (Draft.ofStream s).entries a.changesets ++ [.note (d.completion path)]
     | none => [])
  ⟨{ path := path
     source := s.source
     diagnostics := a.diagnostics
     fixed := draft.bind Draft.fixed?
     applied := (draft.map Draft.applied).getD 0
     rejected := (draft.map Draft.rejected).getD 0
     tokens := s.size
     metrics := metrics },
   told⟩

/-- Cuts a template into tokens and runs the rules over them. -/
def examine (settings : Settings) (path : Path) (label source : String) :
    Told (Except CheckError Checked) := do
  let lexed := Lexed.ofSource source
  Told.tell (lexed.entries settings.lex label source)
  match lexed.result with
  | .error e => return .error (.lex e)
  | .ok s => return .ok (← analyze settings path s lexed.metrics)

/-- The path of a template that is not in a file. -/
def memoryPath : Path := ⟨"<memory>"⟩

/-- Does something while a file is the current one. -/
def within {α : Type} (path : Path) (number : Nat) (x : Told α) : Told α := do
  Told.tell [.enter path number]
  let a ← x
  Told.tell [.leave]
  return a

/-- Checks a template that is not in a file, with what the journal is told. -/
def tellCheckSource (settings : Settings) (source : String) : Told (Except CheckError Checked) :=
  within memoryPath 0 (examine settings memoryPath memoryPath.text source)

/-- Checks a template that is not in a file. -/
def checkSource (settings : Settings) (source : String) : Except CheckError Checked :=
  (tellCheckSource settings source).value

/-- Checks the file of a loaded template. -/
def checkTemplate (settings : Settings) (p : Path) (t : Template) :
    Told (Except CheckError Checked) := do
  unless t.hasCode do
    Told.note (.debug "Template has no code regions" [("file", .text p.text)])
  match ← examine settings p t.path.text t.source with
  | .error e => return .error e
  | .ok c =>
    Told.tell [.timing c.completion]
    return .ok c

/-- Checks the file at a path. -/
def FileTree.checkFile (tree : FileTree) (settings : Settings) (number : Nat) (p : Path) :
    Told (Except CheckError Checked) :=
  within p number do
    Told.note (.info "Starting template check" [("file", .text p.text)])
    match ← (tree.load settings.load p).run with
    | .error e => return .error (.load e)
    | .ok t => checkTemplate settings p t

end EscapeAudit
