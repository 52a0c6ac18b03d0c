import EscapeAudit.Batch.Run

/-!
# Batches over a file tree

A batch checks one file, or all templates of a directory.  Templates are found by their extension,
in which case does not matter, and come in the order of their paths.  Fixed templates are written
over the files that they come from.
-/

namespace EscapeAudit

/-- Whether a file is a template by its extension. -/
def Path.isTemplate (p : Path) : Bool :=
  match p.extension? with
  | some extension => Text.asciiLower extension == templateExtension
  | none => false

/-- The results of a batch with the number of files found and the files as they are then. -/
structure BatchRun where
  /-- The number of files found. -/
  discovered : Nat
  /-- The results. -/
  results : BatchResults
  /-- The files. -/
  tree : FileTree

namespace FileTree

/-- The files within a limit. -/
def capFiles (limit : Option Nat) (files : List Path) : Told (List Path) := do
  match limit with
  | some limit =>
    if limit < files.length then
      Told.note (.warning .discoveryFailed "Reached maximum file limit"
        [("files_found", .nat files.length), ("limit", .nat limit)])
      return files.take limit
    else return files
  | none => return files

/-- The templates of a directory in the order of their paths. -/
def templates (tree : FileTree) (recursive : Bool) (p : Path) : List Path :=
  (BatchResults.sortOn id ((tree.files recursive p).filter Path.isTemplate).toArray).toList

/-- Finds the templates of a directory. -/
def discover (tree : FileTree) (o : BatchOptions) (p : Path) :
    ExceptT BatchError Told (List Path) := do
  (Told.note (.info "Starting template discovery"
    [("directory", .text p.text), ("recursive", .flag o.recursive)]) : Told Unit)
  unless tree.isDirectory p do
    let e := BatchError.directoryNotFound p.text
    refuse e (.error e.code "Template discovery failed" [("reason", .text e.message)])
  let files := tree.templates o.recursive p
  if files.isEmpty then throw (.noFilesFound p.text)
  let files ← (capFiles o.maxFiles files : Told (List Path))
  if Limits.filesPerBatch < files.length then
    throw (.tooManyFiles files.length Limits.filesPerBatch)
  (Told.note (.debug "Template discovery completed"
    [("files_found", .nat files.length), ("directory", .text p.text)]) : Told Unit)
  return files

/-- Writes the fixed text of a template over its file, and says whether there was one. -/
def writeFixed (tree : FileTree) (c : Checked) : ExceptT BatchError Told (Bool × FileTree) := do
  match c.fixed with
  | none => return (false, tree)
  | some text =>
    match tree.write c.path text.toUTF8 with
    | .error fault =>
      let e := BatchError.writeFailed c.path.text fault.message
      refuse e (.error e.code "Could not write fixed template" [("reason", .text e.message)])
    | .ok tree =>
      (Told.note (.info "Fixed template written"
        [("file", .text c.path.text), ("changesets", .nat c.applied)]) : Told Unit)
      return (true, tree)

/-- Writes the fixed text of a template if that is asked for. -/
def writeIfAsked (tree : FileTree) (o : BatchOptions) (c : Checked) :
    Told (Writing × FileTree) := do
  if o.writeFixes then
    match ← (tree.writeFixed c).run with
    | .ok (true, tree) => return (.written, tree)
    | .ok (false, tree) => return (.nothing, tree)
    | .error _ => return (.failed, tree)
  else return (.nothing, tree)

/-- Checks one file of a batch. -/
def processFile (settings : Settings) (o : BatchOptions) (tree : FileTree) (number : Nat)
    (p : Path) : Told (Outcome × FileTree) := do
  match ← tree.checkFile settings number p with
  | .ok c =>
    let (writing, tree) ← tree.writeIfAsked o c
    return (⟨.ok c, writing⟩, tree)
  | .error e =>
    Told.note (.error e.code "Template check failed"
      [("file", .text p.text), ("file_id", .nat number), ("reason", .text e.message)])
    return (⟨.error e, .nothing⟩, tree)

/-- Checks the templates of a directory. -/
def checkDirectory (tree : FileTree) (settings : Settings) (o : BatchOptions) (p : Path) :
    ExceptT BatchError Told BatchRun := do
  let files ← tree.discover o p
  (Told.note (.info "Starting batch check"
    [("directory", .text p.text), ("files", .nat files.length), ("threads", .nat o.workers)]) :
      Told Unit)
  let (results, tree) ← (Batch.runFiles (processFile settings o) o tree files :
    Told (BatchResults × FileTree))
  (Told.note (.success .batchCompleted "Batch check completed"
    [("files_processed", .nat results.processed), ("diagnostics", .nat results.diagnosticCount),
     ("failed", .nat results.failed.size), ("duration_ms", .elapsed)]) : Told Unit)
  return ⟨files.length, results, tree⟩

/-- Checks a file, or the templates of a directory. -/
def checkPath (tree : FileTree) (settings : Settings) (o : BatchOptions) (p : Path) :
    ExceptT BatchError Told BatchRun := do
  if tree.isDirectory p then tree.checkDirectory settings o p
  else
    let (results, tree) ← (Batch.runSequential (processFile settings o) o tree [p] :
      Told (BatchResults × FileTree))
    return ⟨1, results, tree⟩

end FileTree

end EscapeAudit
