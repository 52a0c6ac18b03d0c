import EscapeAudit.Batch.Results

/-!
# Running a batch

The files of a batch are checked one after another, or by several workers.  What checking one file
means is a parameter here: it takes the state of the files, the number and the path of the file,
and gives an outcome and the new state.

With several workers the files are cut into chunks, and each chunk into slices, one for each
worker.  The chunks are worked off one after another.  A worker stops at the first outcome that it
does not go on behind, and that ends its slice only.  With `failFast` the batch ends behind a
chunk that leaves a failure.  The number of a file is worked out from the sizes of chunks and
slices.
-/

namespace EscapeAudit.Batch

/-- Cuts a list into pieces of a given length.  The last may be shorter, and none is empty. -/
def chunksOf {α : Type} (size : Nat) (items : List α) : List (List α) :=
  if items.isEmpty then []
  else if size = 0 then [items]
  else items.take size :: chunksOf size (items.drop size)
termination_by items.length
decreasing_by
  rename_i hne hsize
  cases items with
  | nil => simp at hne
  | cons a rest => simp only [List.length_drop, List.length_cons]; omega

/-- The quotient, rounded up. -/
def ceilDiv (n d : Nat) : Nat := (n + d - 1) / d

/-- The largest number of files in a chunk. -/
def chunkLimit : Nat := 256

/-- The number of files in a chunk. -/
def chunkSize (files workers : Nat) : Nat := max 1 (min (ceilDiv files workers) chunkLimit)

/-- The number of files in a slice of a chunk. -/
def sliceSize (files workers : Nat) : Nat := max 1 (ceilDiv files workers)

/-- The slices of a chunk whose first file has the number `first`. -/
def slices {α : Type} (workers first : Nat) (chunk : List α) : List (List (α × Nat)) :=
  let size := sliceSize chunk.length workers
  (chunksOf size chunk).zipIdx.map fun (slice, i) => slice.zipIdx (first + i * size)

/-- The chunks of a batch, each as its slices, with the numbers of the files. -/
def plan {α : Type} (workers : Nat) (files : List α) : List (List (List (α × Nat))) :=
  let size := chunkSize files.length workers
  (chunksOf size files).zipIdx.map fun (chunk, i) => slices workers (i * size) chunk

variable {W : Type}

/-- How far a worker got. -/
structure SliceRun (W : Type) where
  /-- The files it checked, in order, with their outcomes. -/
  visited : List (Path × Outcome)
  /-- The file behind which it stopped early. -/
  stoppedAt : Option Path
  /-- The state of the files. -/
  world : W

/-- One worker checks files in order. -/
def runSlice (check : W → Nat → Path → Told (Outcome × W)) (o : BatchOptions) :
    W → List (Path × Nat) → Told (SliceRun W)
  | w, [] => return ⟨[], none, w⟩
  | w, (p, number) :: rest => do
    let (x, w) ← check w number p
    if x.goesOn o then
      let r ← runSlice check o w rest
      return { r with visited := (p, x) :: r.visited }
    else return ⟨[(p, x)], some p, w⟩

/-- The results of files with their outcomes. -/
def resultsOf (visited : List (Path × Outcome)) : BatchResults :=
  visited.foldl (fun r (p, x) => r.add p x) .empty

/-- Checks files one after another. -/
def runSequential (check : W → Nat → Path → Told (Outcome × W)) (o : BatchOptions) (w : W)
    (files : List Path) : Told (BatchResults × W) := do
  let r ← runSlice check o w (files.zipIdx)
  match r.stoppedAt with
  | some p =>
    Told.note (.warning .workerFailed "Stopping batch after failure" [("file", .text p.text)])
  | none => pure ()
  return (resultsOf r.visited, r.world)

/-- The workers check the slices of a chunk. -/
def runChunk (check : W → Nat → Path → Told (Outcome × W)) (o : BatchOptions) :
    W → List (List (Path × Nat)) → Told (BatchResults × W)
  | w, [] => return (.empty, w)
  | w, slice :: rest => do
    let r ← runSlice check o w slice
    let (results, w) ← runChunk check o r.world rest
    return ((resultsOf r.visited).merge results, w)

/-- Works off chunks in order, behind chunks with the given results. -/
def runChunks (check : W → Nat → Path → Told (Outcome × W)) (o : BatchOptions) :
    W → List (List (List (Path × Nat))) → BatchResults → Told (BatchResults × W)
  | w, [], done => return (done, w)
  | w, chunk :: rest, done => do
    let (results, w) ← runChunk check o w chunk
    let done := done.merge results
    if o.failFast && !done.failed.isEmpty then
      Told.note (.warning .workerFailed "Fail-fast mode enabled, stopping batch processing" [])
      return (done, w)
    else runChunks check o w rest done

/-- Checks files by several workers. -/
def runParallel (check : W → Nat → Path → Told (Outcome × W)) (o : BatchOptions) (w : W)
    (files : List Path) : Told (BatchResults × W) := do
  Told.note (.debug "Parallel processing configuration"
    [("total_files", .nat files.length), ("chunk_size", .nat (chunkSize files.length o.workers)),
     ("threads", .nat o.workers)])
  runChunks check o w (plan o.workers files) .empty

/-- Checks the files found in a directory.  The results come in the order of the paths. -/
def runFiles (check : W → Nat → Path → Told (Outcome × W)) (o : BatchOptions) (w : W)
    (files : List Path) : Told (BatchResults × W) := do
  let (results, w) ←
    if o.workers == 1 || files.length == 1 then runSequential check o w files
    else runParallel check o w files
  return (results.sorted, w)

end EscapeAudit.Batch
