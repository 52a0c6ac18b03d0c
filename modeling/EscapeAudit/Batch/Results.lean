import EscapeAudit.Check.Basic

/-!
# Results of a batch

What became of the files of a batch: the templates that were checked, the files that failed, and
the files that were written.
-/

namespace EscapeAudit

/-- Why a batch cannot be run. -/
inductive BatchError where
  /-- The path is not that of a directory. -/
  | directoryNotFound (path : String)
  /-- The directory holds no templates. -/
  | noFilesFound (path : String)
  /-- The directory holds more templates than allowed. -/
  | tooManyFiles (count limit : Nat)
  /-- A directory cannot be listed. -/
  | traversal (error : String)
  /-- A worker broke down. -/
  | workerPanicked
  /-- A fixed template cannot be written. -/
  | writeFailed (path error : String)
  deriving DecidableEq, Repr

namespace BatchError

/-- The code of an error. -/
def code : BatchError → Code
  | directoryNotFound _ | tooManyFiles .. | traversal _ => .discoveryFailed
  | noFilesFound _ => .noTemplates
  | workerPanicked => .workerFailed
  | writeFailed .. => .writeFailed

/-- The text of an error. -/
def message : BatchError → String
  | directoryNotFound path => s!"Directory not found: {path}"
  | noFilesFound path => s!"No .phtml files found in: {path}"
  | tooManyFiles count limit => s!"Too many files found: {count} (max: {limit})"
  | traversal error => s!"IO error during directory traversal: {error}"
  | workerPanicked => "Worker thread panicked while checking templates"
  | writeFailed path error => s!"Failed to write fixed template {path}: {error}"

end BatchError

/-- How a batch is run. -/
structure BatchOptions where
  /-- The number of workers asked for. -/
  threads : Nat
  /-- Look into inner directories. -/
  recursive : Bool
  /-- The largest number of files to take. -/
  maxFiles : Option Nat
  /-- Stop at the first failure. -/
  failFast : Bool
  /-- Write fixed templates over the files. -/
  writeFixes : Bool
  deriving DecidableEq, Repr

/-- The number of workers: at least one, and not more than allowed. -/
def BatchOptions.workers (o : BatchOptions) : Nat := max 1 (min o.threads Limits.workers)

/-- What became of the fixed text of a template. -/
inductive Writing where
  /-- There was nothing to write. -/
  | nothing
  /-- It was written. -/
  | written
  /-- It could not be written. -/
  | failed
  deriving DecidableEq, Repr

/-- What became of one file. -/
structure Outcome where
  /-- The result of the check. -/
  result : Except CheckError Checked
  /-- What became of the fixed text. -/
  writing : Writing

/-- Whether a worker goes on behind a file. -/
def Outcome.goesOn (o : BatchOptions) (x : Outcome) : Bool :=
  match x.result with
  | .ok _ => !(x.writing == .failed && o.failFast)
  | .error e => !o.failFast && e.recoverable

/-- What became of the files of a batch. -/
structure BatchResults where
  /-- The templates that were checked. -/
  checked : Array Checked
  /-- The files that failed, with their errors. -/
  failed : Array (Path × CheckError)
  /-- The files that were written. -/
  written : Array Path
  deriving DecidableEq, Repr

namespace BatchResults

/-- No files. -/
def empty : BatchResults := ⟨#[], #[], #[]⟩

/-- The results with one more file. -/
def add (r : BatchResults) (p : Path) (x : Outcome) : BatchResults :=
  match x.result with
  | .ok c =>
    { r with
      checked := r.checked.push c
      written := if x.writing == .written then r.written.push c.path else r.written }
  | .error e => { r with failed := r.failed.push (p, e) }

/-- The results of two parts, one behind the other. -/
def merge (r s : BatchResults) : BatchResults :=
  ⟨r.checked ++ s.checked, r.failed ++ s.failed, r.written ++ s.written⟩

/-- The number of files. -/
def processed (r : BatchResults) : Nat := r.checked.size + r.failed.size

/-- The number of diagnostics. -/
def diagnosticCount (r : BatchResults) : Nat :=
  r.checked.foldl (fun n c => n + c.diagnostics.length) 0

/-- The number of templates with diagnostics. -/
def uncleanCount (r : BatchResults) : Nat := r.checked.countP (!·.clean)

/-- Whether there are diagnostics. -/
def hasDiagnostics (r : BatchResults) : Bool := r.checked.any (!·.clean)

/-- Sorts items by a path of theirs.  Items with the same path keep their order. -/
def sortOn {α : Type} (path : α → Path) (items : Array α) : Array α :=
  let keyed := items.toList.map fun a => ((path a).components, a)
  ((keyed.mergeSort fun a b => Component.compareLists a.1 b.1 != .gt).map Prod.snd).toArray

/-- The results in the order of the paths. -/
def sorted (r : BatchResults) : BatchResults :=
  ⟨sortOn Checked.path r.checked, sortOn Prod.fst r.failed, sortOn id r.written⟩

/-- A time in nanoseconds, in seconds. -/
def seconds (nanos : Nat) : Decimal.Binary :=
  (Decimal.Binary.ofNat (nanos / 1000000000)).add
    (Decimal.Binary.ofRatio (nanos % 1000000000) 1000000000)

/-- The results on one line, after a time in nanoseconds. -/
def summary (r : BatchResults) (nanos : Nat) : String :=
  s!"{r.processed} templates checked, {r.uncleanCount} with diagnostics " ++
  s!"({r.diagnosticCount} total), {r.failed.size} failed, {r.written.size} fixed, " ++
  (seconds nanos).fixed 2 ++ "s"

end BatchResults

end EscapeAudit
